import HostBridge.Command.Fault
import HostBridge.Literal.Writing
import HostBridge.Primitive.Catalog

/-!
# Calling a core primitive

The function is looked up first; then the literals are read, those to bind and then the arguments,
and the first that is none stops the command.
-/

namespace HostBridge
namespace CallCommand

def readAll (texts : List String) : Except CommandFault (List Value) :=
  match texts.mapM Literal.read with
  | .ok values => .ok values
  | .error cause => .error (.literal cause)

def prepare (library : Library) (function : String) (bind arguments : List String) :
    Except CommandFault (Callable × List Value) :=
  match library.resolve? function with
  | none => .error (.unknownFunction function library.soname)
  | some callable => do
      let bound ← readAll bind
      let values ← readAll arguments
      return (callable.curryAll bound, values)

def run (function : String) (bind arguments : List String) :
    Recorded (Except CommandFault (Outcome TracedFailure)) := do
  match ← CoreLibrary.opened with
  | .error cause => return .error (.library cause)
  | .ok library =>
      match prepare library function bind arguments with
      | .error fault => return .error fault
      | .ok (callable, values) =>
          Recorded.log (.calling callable.signature values.length)
          return .ok (← callable.invoke .detached values)

end CallCommand
end HostBridge
