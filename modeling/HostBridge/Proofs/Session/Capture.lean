import HostBridge.Proofs.Call.HostRuns
import HostBridge.Proofs.Session.Actions
import Mathlib.Data.List.Induction

/-!
# Captured indices

A callable that a session keeps goes back to the resolution of a name.  It has the index that the name had
then, with the values that were bound to it since, and every later call makes one run of that library at that
index, whatever the session has done in between.
-/

namespace HostBridge

/-- Where a callable comes from: the actions before its name was resolved, the library and the name, and the
values that were bound since. -/
structure Origin where
  earlier : List Action
  library : Nat
  name : String
  values : List Value

namespace Session

inductive Keeps : List Action → Nat → Origin → Prop where
  | resolve {earlier : List Action} {library : Nat} {name : String} {number : Nat} :
      ((empty.after earlier).perform (.resolve library name)).result.1 = .kept number ->
      Keeps (earlier ++ [.resolve library name]) number ⟨earlier, library, name, []⟩
  | curry {actions : List Action} {number : Nat} {origin : Origin} {bound : Value} {other : Nat} :
      Keeps actions number origin ->
      ((empty.after actions).perform (.curry number bound)).result.1 = .kept other ->
      Keeps (actions ++ [.curry number bound]) other
        { origin with values := origin.values ++ [bound] }
  | wait {actions : List Action} {number : Nat} {origin : Origin} (action : Action) :
      Keeps actions number origin -> Keeps (actions ++ [action]) number origin

/-!
## Origins and callables
-/

theorem after_concat (session : Session) (actions : List Action) (action : Action) :
    session.after (actions ++ [action]) = (session.after actions).next action :=
  after_append session actions [action]

theorem exists_gives_of_kept
    {session : Session} {action : Action} {number : Nat}
    (hkept : (session.perform action).result.1 = .kept number) :
    exists callable,
      session.Gives callable action ∧
        (session.next action).callables[number]? = some callable := by
  rcases callables_next session action with ⟨hnone, _⟩ | ⟨callable, hgives, hanswer, hadded⟩
  · exact absurd hkept (hnone number)
  · rw [hkept] at hanswer
    cases hanswer
    rw [hadded]
    exact ⟨callable, hgives, List.getElem?_concat_length⟩

theorem Keeps.exists_callable
    {actions : List Action} {number : Nat} {origin : Origin}
    (hkeeps : Keeps actions number origin) :
    exists library index,
      (empty.after origin.earlier).workspace.library? origin.library = some library ∧
        library.table.index? origin.name = some index ∧
        (empty.after actions).callables[number]? =
          some ((Callable.native library.host origin.name index).curryAll origin.values) := by
  induction hkeeps with
  | @resolve earlier number name kept hkept =>
      rcases exists_gives_of_kept hkept with ⟨callable, hgives, hcallable⟩
      rw [after_concat]
      rw [Gives, Workspace.resolve?, Option.bind_eq_some_iff] at hgives
      rcases hgives with ⟨library, hlibrary, hresolved⟩
      rcases (Library.resolve?_eq_some_iff library name callable).mp hresolved with
        ⟨index, hindex, rfl⟩
      exact ⟨library, index, hlibrary, hindex, hcallable⟩
  | @curry actions number origin bound other _ hkept ih =>
      rcases ih with ⟨library, index, hlibrary, hindex, hinner⟩
      rcases exists_gives_of_kept hkept with ⟨callable, ⟨inner, hfound, rfl⟩, hcallable⟩
      rw [hinner] at hfound
      cases hfound
      refine ⟨library, index, hlibrary, hindex, ?_⟩
      rw [after_concat, hcallable, Callable.curryAll_append]
      rfl
  | wait action _ ih =>
      rcases ih with ⟨library, index, hlibrary, hindex, hcallable⟩
      refine ⟨library, index, hlibrary, hindex, ?_⟩
      rw [after_append]
      exact getElem?_callables_after hcallable [action]

theorem exists_origin
    {actions : List Action} {number : Nat}
    (hnumber : number < (empty.after actions).callables.length) :
    exists origin, Keeps actions number origin := by
  induction actions using List.reverseRecOn generalizing number with
  | nil => exact absurd hnumber (Nat.not_lt_zero number)
  | append_singleton actions action ih =>
      rw [after_concat] at hnumber
      rcases callables_next (empty.after actions) action with
        ⟨_, hsame⟩ | ⟨callable, hgives, hanswer, hadded⟩
      · rw [hsame] at hnumber
        rcases ih hnumber with ⟨origin, hkeeps⟩
        exact ⟨origin, hkeeps.wait action⟩
      · rw [hadded, List.length_append, List.length_singleton] at hnumber
        rcases Nat.lt_succ_iff_lt_or_eq.mp hnumber with hlt | rfl
        · rcases ih hlt with ⟨origin, hkeeps⟩
          exact ⟨origin, hkeeps.wait action⟩
        · cases action with
          | resolve library name => exact ⟨_, .resolve hanswer⟩
          | curry inner bound =>
              rcases hgives with ⟨found, hfound, _⟩
              rcases ih (List.getElem?_eq_some_iff.mp hfound).1 with ⟨origin, hkeeps⟩
              exact ⟨_, hkeeps.curry hanswer⟩
          | attach host => exact hgives.elim
          | load library stream => exact hgives.elim
          | invoke inner context arguments => exact hgives.elim

/-!
## Resolving and calling
-/

theorem resolve_eq_unbound_iff
    {session : Session} {number : Nat} {library : Library}
    (hlibrary : session.workspace.library? number = some library) (name : String) :
    (session.perform (.resolve number name)).result.1 = .unbound <->
      library.table.index? name = none := by
  rw [← Library.resolve?_eq_none_iff, perform, Workspace.resolve?, hlibrary]
  simp only [Option.bind_some]
  cases library.resolve? name with
  | none => exact iff_of_true rfl rfl
  | some callable =>
      constructor
      · intro hanswer
        cases hanswer
      · intro hnone
        cases hnone

theorem invoke_eq
    {session : Session} {number : Nat} {callable : Callable}
    (hcallable : session.callables[number]? = some callable)
    (context : Context) (arguments : List Value) :
    let run := callable.invoke context arguments
    (session.perform (.invoke number context arguments)).result =
        (.returned run.result, session) ∧
      (session.perform (.invoke number context arguments)).journal = run.journal := by
  rw [perform, hcallable]
  exact ⟨rfl, List.append_nil _⟩

/-- A name of a library is not bound if and only if no pass over that library has bound it.  Whatever a
session keeps has an origin; it was resolved to the index that its name had in its library, and every
later call of it makes one run of that library, at that index and on the values bound since before the
arguments, which passes in between change nothing about. -/
theorem resolution_captures_index :
    (forall earlier host later name,
      let number := (empty.after earlier).workspace.libraries.length
      let session := empty.after (earlier ++ .attach host :: later)
      (session.perform (.resolve number name)).result.1 = .unbound <->
        forall stream, Action.load number stream ∈ later ->
          name ∉ LineReading.names stream.lines) ∧
      (forall actions number, number < (empty.after actions).callables.length ->
        exists origin, Keeps actions number origin) ∧
      forall actions number origin, Keeps actions number origin ->
        exists library index,
          (empty.after origin.earlier).workspace.library? origin.library = some library ∧
            library.table.index? origin.name = some index ∧
            forall later context arguments,
              let session := empty.after (actions ++ later)
              let call := session.perform (.invoke number context arguments)
              let run := library.host.dispatch ⟨index, context, origin.values ++ arguments⟩
              let frames :=
                Callable.nativeFrames library.host origin.name origin.values.length
              call.result = (.returned (run.result.throughFrames frames), session) ∧
                call.journal = run.journal ++ Callable.containmentLog run.result.traced := by
  refine ⟨?_, fun _ _ => exists_origin, ?_⟩
  · intro earlier host later name number session
    have hlibrary := library?_after_attach (empty.after earlier) host later
    rw [← after_append] at hlibrary
    rw [resolve_eq_unbound_iff hlibrary, Library.index?_after_eq_none_iff]
    simp only [mem_filterMap_pass?_iff]
    exact Iff.rfl
  · intro actions number origin hkeeps
    rcases hkeeps.exists_callable with ⟨library, index, hlibrary, hindex, hcallable⟩
    refine ⟨library, index, hlibrary, hindex, ?_⟩
    intro later context arguments session call run frames
    have hlater : session.callables[number]? =
        some ((Callable.native library.host origin.name index).curryAll origin.values) := by
      show (empty.after (actions ++ later)).callables[number]? = _
      rw [after_append]
      exact getElem?_callables_after hcallable later
    have hcall := invoke_eq hlater context arguments
    rw [Callable.invoke_native_curryAll] at hcall
    exact hcall

/-- A name is resolved and a value bound to it; then its index goes to another name and it gets another
one.  A call still dispatches by the first index. -/
theorem resolution_captures_index_reassigned :
    let earlier := [Action.attach (.scratch "lib"), .load 0 (.ofText "x\ny\nx\n")]
    let actions := earlier ++ [.resolve 0 "x"] ++ [.curry 0 .null]
    let later := [Action.load 0 (.ofText "z\nx\n")]
    let session := empty.after (actions ++ later)
    let call := session.perform (.invoke 1 .detached [])
    Keeps actions 1 ⟨earlier, 0, "x", [.null]⟩ ∧
      (session.workspace.library? 0).map (fun library => library.table.bindings) =
        some [("x", 3), ("y", 1), ("z", 2)] ∧
      call.result.1 = .returned (.failure ⟨.unknownIndex "lib" 2,
        [⟨"lib::x", "native call"⟩, ⟨"lib::x/curried", "partial application"⟩]⟩) ∧
      call.journal = [.logged (.dispatched "lib" 2 1)] := by
  intro earlier actions later session call
  have hkeeps : Keeps actions 1 ⟨earlier, 0, "x", [.null]⟩ :=
    .curry (.resolve rfl) rfl
  rcases resolution_captures_index.right.right actions 1 _ hkeeps with
    ⟨library, index, hlibrary, hindex, hcalls⟩
  cases hlibrary
  cases hindex
  rcases hcalls later .detached [] with ⟨hresult, hjournal⟩
  exact ⟨hkeeps, rfl, congrArg Prod.fst hresult, hjournal⟩

end Session
end HostBridge
