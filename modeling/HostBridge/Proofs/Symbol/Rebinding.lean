import HostBridge.Proofs.Symbol.Aliases

/-!
# Rebinding

A line that binds a name again is logged with the index that the name had, as one that no name has any
more.  That is so unless the line gives the name the same index once more or another name shares the
index, and neither happens in a run before a pass that binds a line has started low.
-/

namespace HostBridge

namespace Step

theorem unused_after_iff {step : Step} {previous : Nat} :
    (forall name, step.after.index? name ≠ some previous) <->
      previous ≠ step.index ∧
        forall other, step.before.index? other = some previous -> other = step.name := by
  constructor
  · intro hunused
    constructor
    · rintro rfl
      exact hunused step.name ((index?_after step step.name).trans (if_pos rfl))
    · intro other hother
      apply Classical.byContradiction
      intro hname
      exact hunused other ((index?_after step other).trans ((if_neg hname).trans hother))
  · intro halone name hname
    rcases halone with ⟨hindex, hothers⟩
    rw [index?_after] at hname
    by_cases hsame : name = step.name
    · rw [if_pos hsame] at hname
      exact hindex (Option.some.inj hname).symm
    · rw [if_neg hsame] at hname
      exact hsame (hothers name hname)

end Step

namespace Library

theorem exists_warnsAt_of_apart
    {library : Library} {streams : List Stream} {one other : Step} {pass : Nat}
    (hone : one ∈ library.steps streams) (hother : other ∈ library.steps streams)
    (hapart : Step.Apart one other) (hindex : one.index = other.index)
    (honePass : one.pass ≤ pass) (hotherPass : other.pass ≤ pass) :
    exists warned, warned ≤ pass ∧ library.WarnsAt streams warned := by
  rcases hapart hindex with ⟨_, hlow⟩ | ⟨_, hlow⟩
  · exact ⟨other.pass, hotherPass, warnsAt_of_startsLow hother hlow⟩
  · exact ⟨one.pass, honePass, warnsAt_of_startsLow hone hlow⟩

theorem mem_steps_of_mem_front
    {library : Library} {streams : List Stream} {front back : List Step} {early step : Step}
    (hsplit : library.steps streams = front ++ step :: back) (hearly : early ∈ front) :
    early ∈ library.steps streams ∧ early.pass ≤ step.pass ∧ Step.Apart early step := by
  have hpairs := pairwise_steps library streams
  have hapart := pairwise_apart_steps library streams
  rw [hsplit] at hpairs hapart
  refine ⟨?_, ?_, ?_⟩
  · rw [hsplit]
    exact List.mem_append_left _ hearly
  · exact ((List.pairwise_append.mp hpairs).right.right early hearly step
      List.mem_cons_self).pass_le
  · exact (List.pairwise_append.mp hapart).right.right early hearly step List.mem_cons_self

theorem exists_warnsAt_of_not_mem_unreachable
    {host : Host} {streams : List Stream} {step : Step} {previous : Nat}
    (hstep : step ∈ (fresh host).steps streams) (hprevious : step.previous? = some previous)
    (hused : previous ∉ step.after.unreachable) :
    exists warned, warned ≤ step.pass ∧ (fresh host).WarnsAt streams warned := by
  rw [Step.mem_unreachable_after_iff (readyFor_of_mem_steps hstep) hprevious,
    Step.unused_after_iff] at hused
  rcases List.append_of_mem hstep with ⟨front, back, hsplit⟩
  have hleads : Step.Leads Table.empty front step.before := by
    have h := leads_steps (fresh host) streams
    rw [hsplit] at h
    exact h.before
  rcases hleads.exists_isLast hprevious with ⟨own, hown, hownName, hownIndex⟩
  rcases mem_steps_of_mem_front hsplit hown.mem with ⟨hownStep, hownPass, hownApart⟩
  by_cases hindex : previous = step.index
  · -- The name keeps its index, so the step that gave it is of an earlier pass.
    exact exists_warnsAt_of_apart hownStep hstep hownApart (hownIndex.trans hindex)
      hownPass (Nat.le_refl _)
  · -- Another name has the index too, so the steps that gave it to the two are of different passes.
    rcases Classical.not_forall.mp fun hothers => hused ⟨hindex, hothers⟩ with ⟨other, hother⟩
    rcases Classical.not_imp.mp hother with ⟨hotherIndex, hname⟩
    rcases hleads.exists_isLast hotherIndex with ⟨second, hsecond, hsecondName, hsecondIndex⟩
    rcases mem_steps_of_mem_front hsplit hsecond.mem with ⟨hsecondStep, hsecondPass, _⟩
    have hsteps : own ≠ second := by
      rintro rfl
      exact hname (hsecondName.symm.trans hownName)
    have hapart : Step.Apart own second :=
      (pairwise_apart_steps (fresh host) streams).forall hownStep hsecondStep hsteps
    exact exists_warnsAt_of_apart hownStep hsecondStep hapart
      (hownIndex.trans hsecondIndex.symm) hownPass hsecondPass

/-- A line that binds a name again logs the index that the name had as unreachable.  Right after the
line no name has that index, and the table lists it as unreachable, if and only if the line gives the
name another index and no other name had the old one.  It is so unless a pass up to that of the line
started low, warned of it and bound a line. -/
theorem rebound_unreachable_iff
    {host : Host} {streams : List Stream} {step : Step} {previous : Nat}
    (hstep : step ∈ (fresh host).steps streams) (hprevious : step.previous? = some previous) :
    [.bound host.soname step.name step.index,
        .rebound host.soname step.name previous step.index] <:+:
      ((fresh host).loadAll streams).events ∧
      (previous ∈ step.after.unreachable <->
        forall name, step.after.index? name ≠ some previous) ∧
      (previous ∈ step.after.unreachable <->
        previous ≠ step.index ∧
          forall other, step.before.index? other = some previous -> other = step.name) ∧
      (previous ∉ step.after.unreachable ->
        exists warned, warned ≤ step.pass ∧ (fresh host).WarnsAt streams warned) := by
  have hunreachable := Step.mem_unreachable_after_iff (readyFor_of_mem_steps hstep) hprevious
  refine ⟨?_, hunreachable, hunreachable.trans Step.unused_after_iff,
    exists_warnsAt_of_not_mem_unreachable hstep hprevious⟩
  have hevents := events_isInfix_of_mem_steps hstep
  rw [Step.events_of_previous hprevious] at hevents
  exact hevents

/-- A name may be given the index that it has, and is then said to have lost it. -/
theorem rebound_unreachable_iff_same_index :
    let streams := [.ofText "x\ny\nx\n", .ofText "x\n"]
    let table : Table := ⟨[("x", 2), ("y", 1)], 3⟩
    let step : Step := ⟨1, table, table, "x", 2⟩
    step ∈ (fresh (.scratch "lib")).steps streams ∧
      step.previous? = some 2 ∧
      2 ∉ step.after.unreachable ∧
      exists warned, warned ≤ 1 ∧ (fresh (.scratch "lib")).WarnsAt streams warned := by
  intro streams table step
  have hstep : step ∈ (fresh (.scratch "lib")).steps streams := by decide +kernel
  have hprevious : step.previous? = some 2 := rfl
  rcases rebound_unreachable_iff hstep hprevious with ⟨_, _, hlost, hwarned⟩
  have hused : 2 ∉ step.after.unreachable := fun h => (hlost.mp h).left rfl
  exact ⟨hstep, hprevious, hused, hwarned hused⟩

/-- Where `z` has come to share the index of `x`, the line that binds `z` again says that the index is
unreachable by name, and `x` still has it. -/
theorem rebound_index_still_bound :
    let library := fresh (.scratch "test.lib")
    let streams := [.ofText "x\ny\nx\n", .ofText "z\n", .ofText "z\n"]
    let table : Table := ⟨[("x", 2), ("y", 1), ("z", 2)], 3⟩
    let step : Step := ⟨2, table, table, "z", 3⟩
    let warning : Event := .rebound "test.lib" "z" 2 3
    step ∈ library.steps streams ∧
      warning ∈ (library.loadAll streams).events ∧
      warning.message = "test.lib: symbol 'z' rebound from index 2 to 3; " ++
        "index 2 is unreachable by name" ∧
      step.after.index? "x" = some 2 ∧
      2 ∉ step.after.unreachable := by
  decide +kernel

end Library
end HostBridge
