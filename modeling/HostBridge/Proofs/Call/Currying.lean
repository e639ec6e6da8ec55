import HostBridge.Callable

/-!
# Currying

Values bound one after another stand in front of the arguments in the order in which they were
bound, and the innermost callable runs once on all of them.  Every bound value is a boundary of its
own: a failure gets one frame from each, innermost first, and a panic is contained by the innermost
and gets the frames of all.
-/

namespace HostBridge

namespace Recorded

/-!
## Boundaries inside one another
-/

def containAll (frames : List Frame) (recorded : Recorded (Outcome TracedFailure)) :
    Recorded (Outcome TracedFailure) :=
  frames.foldl (fun inner frame => inner.contain frame) recorded

@[simp] theorem containAll_nil (recorded : Recorded (Outcome TracedFailure)) :
    recorded.containAll [] = recorded := rfl

@[simp] theorem containAll_cons
    (frame : Frame) (outer : List Frame) (recorded : Recorded (Outcome TracedFailure)) :
    recorded.containAll (frame :: outer) = (recorded.contain frame).containAll outer := rfl

theorem contain_value
    (frame : Frame) (value : Value) (journal : List Entry) :
    contain frame ⟨.value value, journal⟩ = ⟨.value value, journal⟩ := rfl

theorem contain_failure
    (frame : Frame) (cause : Failure) (inner : List Frame) (journal : List Entry) :
    contain frame ⟨.failure ⟨cause, inner⟩, journal⟩ =
      ⟨.failure ⟨cause, inner ++ [frame]⟩, journal⟩ := rfl

theorem contain_panic
    (frame : Frame) (payload : Panic) (journal : List Entry) :
    contain frame ⟨.panic payload, journal⟩ =
      ⟨.failure ⟨.panicked payload.message, [frame]⟩,
        journal ++ [.logged (.contained payload.message)]⟩ := rfl

theorem containAll_value
    (frames : List Frame) (value : Value) (journal : List Entry) :
    containAll frames ⟨.value value, journal⟩ = ⟨.value value, journal⟩ := by
  induction frames with
  | nil => rfl
  | cons frame outer ih =>
      rw [containAll_cons, contain_value]
      exact ih

theorem containAll_failure
    (frames : List Frame) (cause : Failure) (inner : List Frame) (journal : List Entry) :
    containAll frames ⟨.failure ⟨cause, inner⟩, journal⟩ =
      ⟨.failure ⟨cause, inner ++ frames⟩, journal⟩ := by
  induction frames generalizing inner with
  | nil => simp
  | cons frame outer ih =>
      rw [containAll_cons, contain_failure, ih, List.append_assoc, List.singleton_append]

theorem containAll_panic
    (frame : Frame) (outer : List Frame) (payload : Panic) (journal : List Entry) :
    containAll (frame :: outer) ⟨.panic payload, journal⟩ =
      ⟨.failure ⟨.panicked payload.message, frame :: outer⟩,
        journal ++ [.logged (.contained payload.message)]⟩ := by
  rw [containAll_cons, contain_panic, containAll_failure, List.singleton_append]

end Recorded

namespace Callable

/-!
## Bound values as boundaries
-/

def curriedSignature (callable : Callable) (count : Nat) : String :=
  callable.signature ++ String.join (List.replicate count curryMarker)

/-- The frames of a number of bound values, innermost first. -/
def curriedFrames (callable : Callable) (count : Nat) : List Frame :=
  (List.range count).map fun inner => ⟨callable.curriedSignature (inner + 1), curriedLabel⟩

theorem curriedSignature_curried
    (callable : Callable) (bound : Value) (count : Nat) :
    (callable.curried bound).curriedSignature count = callable.curriedSignature (count + 1) := by
  simp [curriedSignature, signature, List.replicate_succ, String.append_assoc]

theorem curriedFrames_succ
    (callable : Callable) (bound : Value) (count : Nat) :
    callable.curriedFrames (count + 1) =
      curriedFrame callable :: (callable.curried bound).curriedFrames count := by
  have hfirst : callable.curriedSignature 1 = callable.signature ++ curryMarker := by
    simp [curriedSignature]
  simp [curriedFrames, List.range_succ_eq_map, curriedSignature_curried, curriedFrame, hfirst]

theorem invoke_curryAll
    (callable : Callable) (values : List Value)
    (context : Context) (arguments : List Value) :
    (callable.curryAll values).invoke context arguments =
      (callable.invoke context (values ++ arguments)).containAll
        (callable.curriedFrames values.length) := by
  induction values generalizing callable with
  | nil => rfl
  | cons first rest ih =>
      rw [curryAll_cons, ih, List.length_cons, curriedFrames_succ callable first,
        Recorded.containAll_cons]
      rfl

/-!
## The law
-/

def containmentLog : Outcome TracedFailure → List Entry
  | .panic (.literal words) => [.logged (.contained words)]
  | .panic (.text words) => [.logged (.contained words)]
  | .panic .wordless => [.logged (.contained "Unknown panic")]
  | _ => []

theorem containmentLog_panic (payload : Panic) :
    containmentLog (.panic payload) = [.logged (.contained payload.message)] := by
  cases payload <;> rfl

/-- A callable with at least one bound value makes one run of the callable inside, on the bound
values and the arguments: its journal is that run's, up to the note that a panic was contained.  Its
outcome is the run's value, the run's failure with one more frame for each bound value, or a failure
with just those frames where the run panics, whatever its panic carries. -/
theorem invoke_curryAll_cons
    (callable : Callable) (first : Value) (rest : List Value)
    (context : Context) (arguments : List Value) :
    let run := callable.invoke context (first :: rest ++ arguments)
    let curried := (callable.curryAll (first :: rest)).invoke context arguments
    let frames := callable.curriedFrames (first :: rest).length
    curried.journal = run.journal ++ containmentLog run.result ∧
      (forall value, curried.result = .value value <-> run.result = .value value) ∧
      (forall cause inner, run.result = .failure ⟨cause, inner⟩ ->
        curried.result = .failure ⟨cause, inner ++ frames⟩) ∧
      (forall words, run.result = .panic (.literal words) ->
        curried.result = .failure ⟨.panicked words, frames⟩) ∧
      (forall words, run.result = .panic (.text words) ->
        curried.result = .failure ⟨.panicked words, frames⟩) ∧
      (run.result = .panic .wordless ->
        curried.result = .failure ⟨.panicked "Unknown panic", frames⟩) := by
  intro run curried frames
  have hcurried : curried = run.containAll frames :=
    invoke_curryAll callable (first :: rest) context arguments
  have hframes : frames =
      curriedFrame callable :: (callable.curried first).curriedFrames rest.length :=
    curriedFrames_succ callable first rest.length
  rw [hcurried]
  rcases run with ⟨outcome, journal⟩
  cases outcome with
  | value value =>
      rw [Recorded.containAll_value]
      simp [containmentLog]
  | failure failure =>
      rcases failure with ⟨cause, inner⟩
      rw [Recorded.containAll_failure]
      simp [containmentLog]
  | panic payload =>
      rw [hframes, Recorded.containAll_panic]
      cases payload <;> simp [containmentLog, Panic.message, Panic.words?]

end Callable
end HostBridge
