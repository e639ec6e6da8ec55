/-!
# Failures

A failure is a cause.  A traced failure is a cause with the frames of the callables that it crossed,
innermost first; frames are only ever added at the outer end.
-/

namespace HostBridge

inductive Failure where
  | typeMismatch (expected got : String)
  | outOfRange (what : String) (number : Int)
  | argument (text : String)
  | unknownIndex (soname : String) (index : Nat)
  | panicked (text : String)
  | library (text : String)
  deriving DecidableEq, Repr

namespace Failure

def arity (name : String) (expected got : Nat) : Failure :=
  .argument (name ++ " expects " ++ toString expected ++ " argument(s), got " ++ toString got)

def divisionByZero : Failure :=
  .argument "division by zero"

def message : Failure → String
  | .typeMismatch expected got => "Type mismatch: expected " ++ expected ++ ", got " ++ got
  | .outOfRange what number => "Range error: " ++ what ++ " " ++ toString number ++ " out of range"
  | .argument text => "Argument error: " ++ text
  | .unknownIndex soname index =>
      "Invalid native function index " ++ toString index ++ " in " ++ soname
  | .panicked text => "Function panicked: " ++ text
  | .library text => "Library error: " ++ text

end Failure

/-- The callable that a failure crossed, and the kind of boundary. -/
structure Frame where
  callable : String
  label : String
  deriving DecidableEq, Repr

def Frame.message (frame : Frame) : String :=
  "at " ++ frame.callable ++ " (" ++ frame.label ++ ")"

structure TracedFailure where
  cause : Failure
  frames : List Frame := []
  deriving DecidableEq, Repr

namespace TracedFailure

def withFrame (failure : TracedFailure) (frame : Frame) : TracedFailure :=
  ⟨failure.cause, failure.frames ++ [frame]⟩

def outermost? (failure : TracedFailure) : Option Frame :=
  failure.frames.getLast?

/-- The cause, then a line for each frame. -/
def render (failure : TracedFailure) : String :=
  failure.cause.message ++
    String.join (failure.frames.map fun frame => "\n    " ++ frame.message)

end TracedFailure
end HostBridge
