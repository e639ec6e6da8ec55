import HostBridge.Outcome

/-!
# Callables

A host library answers calls by index.  A callable is a name of a library resolved to an index,
another callable with a value bound in front of its arguments, or a function of the interpreter.
Native functions and partial applications are boundaries: they add one frame to a failure and turn a
panic into one.  Interpreted functions let both pass as they are.
-/

namespace HostBridge

structure Host where
  soname : String
  run : HostCall → Recorded (Outcome Failure)

namespace Host

def scratch (soname : String) : Host :=
  ⟨soname, fun call => pure (.failure (.unknownIndex soname call.index))⟩

def dispatch (host : Host) (call : HostCall) : Recorded (Outcome Failure) := do
  Recorded.log (.dispatched host.soname call.index call.arguments.length)
  host.run call

end Host

inductive Callable where
  | native (host : Host) (name : String) (index : Nat)
  | curried (inner : Callable) (bound : Value)
  | interpreted (signature : String)
      (body : Context → List Value → Recorded (Outcome TracedFailure))

namespace Callable

def curryMarker : String := "/curried"

def nativeLabel : String := "native call"

def curriedLabel : String := "partial application"

def signature : Callable → String
  | .native host name _ => host.soname ++ "::" ++ name
  | .curried inner _ => inner.signature ++ curryMarker
  | .interpreted signature _ => signature

def describe (callable : Callable) : String :=
  "Callable(" ++ callable.signature ++ ")"

def nativeFrame (host : Host) (name : String) : Frame :=
  ⟨host.soname ++ "::" ++ name, nativeLabel⟩

def curriedFrame (inner : Callable) : Frame :=
  ⟨inner.signature ++ curryMarker, curriedLabel⟩

/-- Native functions and partial applications are boundaries, interpreted functions are not. -/
def invoke : Callable → Context → List Value → Recorded (Outcome TracedFailure)
  | .native host name index, context, arguments =>
      let answer := host.dispatch ⟨index, context, arguments⟩
      Recorded.contain (nativeFrame host name) ⟨answer.result.traced, answer.journal⟩
  | .curried inner bound, context, arguments =>
      Recorded.contain (curriedFrame inner) (inner.invoke context (bound :: arguments))
  | .interpreted _ body, context, arguments => body context arguments

/-- Bind values one after another, the first of them innermost. -/
def curryAll (callable : Callable) (values : List Value) : Callable :=
  values.foldl curried callable

@[simp] theorem curryAll_nil (callable : Callable) : callable.curryAll [] = callable := rfl

@[simp] theorem curryAll_cons (callable : Callable) (first : Value) (rest : List Value) :
    callable.curryAll (first :: rest) = (callable.curried first).curryAll rest := rfl

theorem curryAll_append (callable : Callable) (front back : List Value) :
    callable.curryAll (front ++ back) = (callable.curryAll front).curryAll back :=
  List.foldl_append

end Callable
end HostBridge
