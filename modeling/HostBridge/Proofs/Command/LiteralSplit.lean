import HostBridge.Command.Call
import HostBridge.Proofs.Primitive.Opening
import Mathlib.Data.List.Forall2

/-!
# Literals to bind and literals to pass

A call of a core primitive reads its literals from left to right, those to bind before those to pass, and
runs the primitive on all of them.  Where the list is split into the two makes no difference but for the
frames of a failure: the bound values add one each.
-/

namespace HostBridge
namespace CallCommand

/-!
## Reading literals
-/

def Reads (text : String) (value : Value) : Prop :=
  Literal.read text = .ok value

theorem readAll_nil : readAll [] = .ok [] := rfl

theorem readAll_cons_of_fault
    {text : String} {cause : LiteralFault} (htext : Literal.read text = .error cause)
    (rest : List String) :
    readAll (text :: rest) = .error (.literal cause) := by
  rw [readAll, List.mapM_cons, htext]
  rfl

theorem readAll_cons_of_reads
    {text : String} {value : Value} (htext : Reads text value) (rest : List String) :
    readAll (text :: rest) = (readAll rest).map (value :: ·) := by
  rw [readAll, readAll, List.mapM_cons, htext]
  cases rest.mapM Literal.read <;> rfl

theorem readAll_append (front back : List String) :
    readAll (front ++ back) = do
      let first ← readAll front
      let second ← readAll back
      return first ++ second := by
  induction front with
  | nil =>
      rw [readAll_nil, List.nil_append]
      cases readAll back <;> rfl
  | cons text rest ih =>
      rw [List.cons_append]
      cases htext : Literal.read text with
      | error cause =>
          rw [readAll_cons_of_fault htext, readAll_cons_of_fault htext]
          rfl
      | ok value =>
          rw [readAll_cons_of_reads htext, readAll_cons_of_reads htext, ih]
          cases readAll rest with
          | error fault => rfl
          | ok values => cases readAll back <;> rfl

theorem forall₂_of_readAll
    {texts : List String} {values : List Value} (hread : readAll texts = .ok values) :
    List.Forall₂ Reads texts values := by
  induction texts generalizing values with
  | nil =>
      cases hread
      exact List.Forall₂.nil
  | cons text rest ih =>
      cases htext : Literal.read text with
      | error cause =>
          rw [readAll_cons_of_fault htext] at hread
          cases hread
      | ok value =>
          rw [readAll_cons_of_reads htext] at hread
          cases hrest : readAll rest with
          | error fault =>
              rw [hrest] at hread
              cases hread
          | ok others =>
              rw [hrest] at hread
              cases hread
              exact List.Forall₂.cons htext (ih hrest)

theorem exists_first_fault
    {texts : List String} {fault : CommandFault} (hread : readAll texts = .error fault) :
    exists front text back cause,
      texts = front ++ text :: back ∧
        (forall other, other ∈ front -> exists value, Reads other value) ∧
        Literal.read text = .error cause ∧
        fault = .literal cause := by
  induction texts generalizing fault with
  | nil => cases hread
  | cons text rest ih =>
      cases htext : Literal.read text with
      | error cause =>
          rw [readAll_cons_of_fault htext] at hread
          cases hread
          exact ⟨[], text, rest, cause, rfl, fun other hother => absurd hother List.not_mem_nil,
            htext, rfl⟩
      | ok value =>
          rw [readAll_cons_of_reads htext] at hread
          cases hrest : readAll rest with
          | error late =>
              rw [hrest] at hread
              cases hread
              rcases ih hrest with ⟨front, bad, back, cause, rfl, hfront, hbad, rfl⟩
              exact ⟨text :: front, bad, back, cause, rfl,
                List.forall_mem_cons.mpr ⟨⟨value, htext⟩, hfront⟩, hbad, rfl⟩
          | ok others =>
              rw [hrest] at hread
              cases hread

/-!
## Running a primitive
-/

theorem prepare_of_resolve?
    {library : Library} {function : String} {callable : Callable}
    (hresolved : library.resolve? function = some callable) (bind arguments : List String) :
    prepare library function bind arguments =
      (readAll (bind ++ arguments)).map fun values =>
        (callable.curryAll (values.take bind.length), values.drop bind.length) := by
  rw [prepare, hresolved, readAll_append]
  cases hbound : readAll bind with
  | error fault => rfl
  | ok bound =>
      have hlength : bind.length = bound.length := (forall₂_of_readAll hbound).length_eq
      cases readAll arguments with
      | error fault => rfl
      | ok values =>
          show Except.ok (callable.curryAll bound, values) =
            .ok (callable.curryAll ((bound ++ values).take bind.length),
              (bound ++ values).drop bind.length)
          rw [hlength, List.take_left, List.drop_left]

theorem result_run (function : String) (bind arguments : List String) :
    (run function bind arguments).result =
      (prepare CoreLibrary.library function bind arguments).map fun prepared =>
        (prepared.fst.invoke .detached prepared.snd).result := by
  rw [run, Recorded.result_bind, CoreLibrary.opened_result]
  cases hprepared : prepare CoreLibrary.library function bind arguments with
  | error fault => simp only [hprepared]; rfl
  | ok prepared => simp only [hprepared]; rfl

theorem result_run_of_unknown
    {function : String} (hunknown : forall primitive : Primitive, primitive.name ≠ function)
    (bind arguments : List String) :
    (run function bind arguments).result =
      .error (.unknownFunction function CoreLibrary.soname) := by
  have hresolved : CoreLibrary.library.resolve? function = none :=
    (CoreLibrary.library.resolve?_eq_none_iff function).mpr
      ((CoreLibrary.index?_table_eq_none_iff function).mpr hunknown)
  rw [result_run, prepare, hresolved]
  rfl

theorem result_run_name (primitive : Primitive) (bind arguments : List String) :
    (run primitive.name bind arguments).result =
      (readAll (bind ++ arguments)).map fun values =>
        (Outcome.ofExcept (primitive.run values)).throughFrames
          (Callable.nativeFrames CoreLibrary.host primitive.name bind.length) := by
  rcases List.getElem?_of_mem (Primitive.mem_all primitive) with ⟨index, hindex⟩
  have hresolved : CoreLibrary.library.resolve? primitive.name =
      some (.native CoreLibrary.host primitive.name index) :=
    (CoreLibrary.library.resolve?_eq_some_iff primitive.name _).mpr
      ⟨index, (CoreLibrary.index?_table_iff primitive.name index).mpr ⟨primitive, hindex, rfl⟩, rfl⟩
  rw [result_run, prepare_of_resolve? hresolved]
  cases hread : readAll (bind ++ arguments) with
  | error fault => rfl
  | ok values =>
      have hlength : bind.length ≤ values.length := by
        rw [← (forall₂_of_readAll hread).length_eq, List.length_append]
        exact Nat.le_add_right _ _
      simp only [Except.map]
      rw [CoreLibrary.invoke_curryAll_of_getElem? hindex, List.take_append_drop,
        List.length_take_of_le hlength]

/-!
## Splitting the literals
-/

/-- Where a list of literals is split into those to bind and those to pass does not change what a call
answers, but for the frames of a failure.  By another name than a primitive's the call fails before any
literal is read.  By a primitive's name it fails with the fault of the first text that is no literal, or
gives the primitive's value on all the values, or fails with the primitive's cause and one frame of the
native function and one of each bound value. -/
theorem result_run_split (function : String) (texts : List String) :
    let answer split := (run function (texts.take split) (texts.drop split)).result
    ((forall primitive : Primitive, primitive.name ≠ function) ∧
        forall split, answer split = .error (.unknownFunction function "kiln.core")) ∨
      exists primitive : Primitive, primitive.name = function ∧
        ((exists front text back cause,
            texts = front ++ text :: back ∧
              (forall other, other ∈ front -> exists value, Reads other value) ∧
              Literal.read text = .error cause ∧
              forall split, answer split = .error (.literal cause)) ∨
          exists values, List.Forall₂ Reads texts values ∧
            ((exists result, primitive.run values = .ok result ∧
                forall split, answer split = .ok (.value result)) ∨
              exists cause, primitive.run values = .error cause ∧
                forall split, split ≤ texts.length ->
                  answer split = .ok (.failure ⟨cause,
                    ⟨"kiln.core::" ++ function, "native call"⟩ ::
                      (List.range split).map fun inner =>
                        ⟨"kiln.core::" ++ function ++
                            String.join (List.replicate (inner + 1) "/curried"),
                          "partial application"⟩⟩))) := by
  intro answer
  by_cases hknown : exists primitive : Primitive, primitive.name = function
  · right
    rcases hknown with ⟨primitive, rfl⟩
    have hanswer : forall split, answer split =
        (readAll texts).map fun values =>
          (Outcome.ofExcept (primitive.run values)).throughFrames
            (Callable.nativeFrames CoreLibrary.host primitive.name (texts.take split).length) := by
      intro split
      have hrun := result_run_name primitive (texts.take split) (texts.drop split)
      rw [List.take_append_drop] at hrun
      exact hrun
    refine ⟨primitive, rfl, ?_⟩
    cases hread : readAll texts with
    | error fault =>
        left
        rcases exists_first_fault hread with ⟨front, text, back, cause, hsplit, hfront, htext, rfl⟩
        refine ⟨front, text, back, cause, hsplit, hfront, htext, ?_⟩
        intro split
        rw [hanswer, hread]
        rfl
    | ok values =>
        right
        refine ⟨values, forall₂_of_readAll hread, ?_⟩
        have hvalues : forall split, answer split =
            .ok ((Outcome.ofExcept (primitive.run values)).throughFrames
              (Callable.nativeFrames CoreLibrary.host primitive.name
                (texts.take split).length)) := by
          intro split
          rw [hanswer, hread]
          rfl
        cases hrun : primitive.run values with
        | ok result =>
            left
            refine ⟨result, rfl, ?_⟩
            intro split
            rw [hvalues, hrun]
            rfl
        | error cause =>
            right
            refine ⟨cause, rfl, ?_⟩
            intro split hsplit
            rw [hvalues, hrun, List.length_take_of_le hsplit]
            rfl
  · left
    have hunknown : forall primitive : Primitive, primitive.name ≠ function := not_exists.mp hknown
    refine ⟨hunknown, ?_⟩
    intro split
    exact result_run_of_unknown hunknown _ _

example : (run "div" ["1L"] ["0"]).result =
    .ok (.failure ⟨.divisionByZero,
      [⟨"kiln.core::div", "native call"⟩, ⟨"kiln.core::div/curried", "partial application"⟩]⟩) := by
  decide +kernel

end CallCommand
end HostBridge
