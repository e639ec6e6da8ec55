import HostBridge.Command.Fault
import HostBridge.Library

/-!
# Listing symbols

Manifests are loaded in order into one library without functions.  The first that cannot be opened or
loaded stops the command.
-/

namespace HostBridge
namespace SymbolsCommand

/-- Opening a path gives a stream or the reason why it cannot be opened. -/
abbrev Files := String → Except String Stream

def loadManifests (files : Files) (library : Library) :
    List String → Recorded (Except CommandFault Library)
  | [] => pure (.ok library)
  | path :: rest =>
      match files path with
      | .error reason => pure (.error (.cannotOpen path reason))
      | .ok stream => do
          let (outcome, library) ← library.load stream
          match outcome with
          | .error cause => return .error (.cannotLoad path cause)
          | .ok count =>
              Recorded.log (.manifestRead path count)
              loadManifests files library rest

def run (files : Files) (soname : String) (manifests : List String) :
    Recorded (Except CommandFault Library) :=
  loadManifests files ⟨.scratch soname, {}⟩ manifests

end SymbolsCommand
end HostBridge
