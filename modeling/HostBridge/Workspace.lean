import HostBridge.Library

/-!
# Workspaces

Libraries by number, in the order in which they were opened.  Loading into one of them changes that
one alone, and the callables that were resolved before keep what they had.
-/

namespace HostBridge

structure Workspace where
  libraries : List Library := []

namespace Workspace

def library? (workspace : Workspace) (number : Nat) : Option Library :=
  workspace.libraries[number]?

/-- Add a library; its number is how many there were. -/
def add (workspace : Workspace) (library : Library) : Workspace :=
  ⟨workspace.libraries ++ [library]⟩

def load? (workspace : Workspace) (number : Nat) (stream : Stream) :
    Option (Recorded (Except LoadFailure Nat × Workspace)) :=
  (workspace.library? number).map fun library =>
    (fun (outcome, changed) => (outcome, ⟨workspace.libraries.set number changed⟩)) <$>
      library.load stream

def resolve? (workspace : Workspace) (number : Nat) (name : String) : Option Callable :=
  (workspace.library? number).bind fun library => library.resolve? name

end Workspace
end HostBridge
