import HostBridge.Failure
import HostBridge.Journal

/-!
# Outcomes

A call gives a value, fails, or panics.  A panic carries a text of the program, a text made at run time,
or something else, for which there is a standing text.
-/

namespace HostBridge

inductive Panic where
  | literal (words : String)
  | text (words : String)
  | wordless
  deriving DecidableEq, Repr

def Panic.words? : Panic → Option String
  | .literal words => some words
  | .text words => some words
  | .wordless => none

def Panic.message (panic : Panic) : String :=
  panic.words?.getD "Unknown panic"

inductive Outcome (fault : Type) where
  | value (result : Value)
  | failure (cause : fault)
  | panic (payload : Panic)
  deriving DecidableEq, Repr

namespace Outcome

def ofExcept {fault : Type} : Except fault Value → Outcome fault
  | .ok result => .value result
  | .error cause => .failure cause

/-- A failure becomes a traced one, without frames as yet. -/
def traced : Outcome Failure → Outcome TracedFailure
  | .value result => .value result
  | .failure cause => .failure ⟨cause, []⟩
  | .panic payload => .panic payload

end Outcome

namespace Recorded

/-- The boundary of a callable: what fails inside gets the boundary's frame, and what panics inside
fails from here on, with that frame alone. -/
def contain (frame : Frame) (recorded : Recorded (Outcome TracedFailure)) :
    Recorded (Outcome TracedFailure) :=
  match recorded.result with
  | .value _ => recorded
  | .failure cause => ⟨.failure (cause.withFrame frame), recorded.journal⟩
  | .panic payload =>
      ⟨.failure ⟨.panicked payload.message, [frame]⟩,
        recorded.journal ++ [.logged (.contained payload.message)]⟩

end Recorded
end HostBridge
