import HostBridge.Proofs.Symbol.Indices

/-!
# Lost indices

After any run of passes the indices below the high-water mark are those that the run has given out.
The unreachable ones among them are those that no name has any more; they can be found by marking the
indices in use, and each was lost to a rebinding of its own.
-/

namespace HostBridge

namespace Step

/-!
## What a step gives out and loses
-/

theorem Leads.lt_highWater_iff
    {first final : Table} {steps : List Step} (hleads : Leads first steps final)
    (hready : forall step, step ∈ steps -> step.before.ReadyFor step.index) (index : Nat) :
    index < final.highWater <-> index < first.highWater ∨ index ∈ steps.map Step.index := by
  induction hleads with
  | refl table => simp
  | step step _ ih =>
      rcases List.forall_mem_cons.mp hready with ⟨hstep, hrest⟩
      have hmark := hstep.le_highWater
      rw [ih hrest, after, Table.highWater_bind, List.map_cons, List.mem_cons, ← or_assoc]
      apply or_congr_left
      omega

theorem unreachable_after_subset {step : Step} (hready : step.before.ReadyFor step.index) :
    step.after.unreachable ⊆ step.previous?.toList ++ step.before.unreachable := by
  intro index hindex
  have hafter : step.after.names.Nodup := (readyFor_after hready).nodup_names
  rcases (Table.mem_unreachable_iff hafter index).mp hindex with ⟨hlt, hunused⟩
  have hne : index ≠ step.index := by
    rintro rfl
    exact hunused step.name ((index?_after step step.name).trans (if_pos rfl))
  have hmark := hready.le_highWater
  rw [after, Table.highWater_bind] at hlt
  by_cases hprevious : step.previous? = some index
  · rw [hprevious]
    exact List.mem_append_left _ List.mem_cons_self
  · apply List.mem_append_right
    rw [Table.mem_unreachable_iff hready.nodup_names]
    refine ⟨by omega, ?_⟩
    intro name hname
    by_cases hsame : name = step.name
    · rw [hsame] at hname
      exact hprevious hname
    · exact hunused name ((index?_after step name).trans ((if_neg hsame).trans hname))

theorem length_unreachable_after_le {step : Step} (hready : step.before.ReadyFor step.index) :
    step.after.unreachable.length ≤
      step.rebinding?.toList.length + step.before.unreachable.length := by
  have hnodup : step.after.unreachable.Nodup := List.nodup_range.filter _
  have hlength := hnodup.length_le_of_subset (unreachable_after_subset hready)
  rw [List.length_append] at hlength
  have hprevious : step.previous?.toList.length = step.rebinding?.toList.length := by
    rw [rebinding?]
    cases step.previous? <;> rfl
  rw [← hprevious]
  exact hlength

theorem Leads.length_unreachable_le
    {first final : Table} {steps : List Step} (hleads : Leads first steps final)
    (hready : forall step, step ∈ steps -> step.before.ReadyFor step.index) :
    final.unreachable.length ≤
      (steps.filterMap Step.rebinding?).length + first.unreachable.length := by
  induction hleads with
  | refl table => exact Nat.le_add_left _ _
  | step step _ ih =>
      rcases List.forall_mem_cons.mp hready with ⟨hstep, hrest⟩
      have hlost := length_unreachable_after_le hstep
      have hlater := ih hrest
      rw [rebindings_cons, List.length_append]
      omega

end Step

namespace Table

/-!
## Finding lost indices by marks
-/

/-- A row of marks with one more mark; none where the row does not reach that far. -/
def mark? (marks : List Bool) (index : Nat) : Option (List Bool) :=
  if index < marks.length then some (marks.set index true) else none

/-- A row up to the high-water mark, with a mark at each index that a name has. -/
def marks? (table : Table) : Option (List Bool) :=
  table.indices.foldlM mark? (List.replicate table.highWater false)

def unmarked (marks : List Bool) : List Nat :=
  (List.range marks.length).filter fun place => marks[place]? = some false

theorem exists_foldlM_mark?
    {marks : List Bool} {indices : List Nat}
    (hindices : forall index, index ∈ indices -> index < marks.length) :
    exists marked,
      indices.foldlM mark? marks = some marked ∧
        marked.length = marks.length ∧
        forall place, marked[place]? = some false <->
          marks[place]? = some false ∧ place ∉ indices := by
  induction indices generalizing marks with
  | nil => exact ⟨marks, rfl, rfl, fun place => by simp⟩
  | cons index rest ih =>
      rcases List.forall_mem_cons.mp hindices with ⟨hindex, hrest⟩
      have hset : forall other, other ∈ rest -> other < (marks.set index true).length := by
        intro other hother
        rw [List.length_set]
        exact hrest other hother
      rcases ih hset with ⟨marked, hmarked, hlength, hplaces⟩
      refine ⟨marked, ?_, hlength.trans List.length_set, ?_⟩
      · rw [List.foldlM_cons, mark?, if_pos hindex]
        exact hmarked
      · intro place
        rw [hplaces, List.getElem?_set, List.mem_cons, not_or]
        by_cases hplace : index = place
        · subst hplace
          simp [hindex]
        · rw [if_neg hplace]
          simp [Ne.symm hplace]

/-- Where every index in use is below the high-water mark, each can be marked, and the places without
a mark are the unreachable indices. -/
theorem exists_marks?
    {table : Table} (hindices : forall index, index ∈ table.indices -> index < table.highWater) :
    exists marks, table.marks? = some marks ∧ unmarked marks = table.unreachable := by
  have hrow : forall index, index ∈ table.indices ->
      index < (List.replicate table.highWater false).length := by
    intro index hindex
    rw [List.length_replicate]
    exact hindices index hindex
  rcases exists_foldlM_mark? hrow with ⟨marks, hmarks, hlength, hplaces⟩
  refine ⟨marks, hmarks, ?_⟩
  rw [List.length_replicate] at hlength
  rw [unmarked, unreachable, hlength]
  apply List.filter_congr
  intro place hplace
  rw [decide_eq_decide, hplaces, List.getElem?_replicate, if_pos (List.mem_range.mp hplace)]
  simp

end Table

/-!
## Runs
-/

namespace Library

theorem lt_highWater_after_iff (host : Host) (streams : List Stream) (index : Nat) :
    index < ((fresh host).after streams).table.highWater <->
      index ∈ ((fresh host).steps streams).map Step.index := by
  have hleads := leads_steps (fresh host) streams
  rw [hleads.lt_highWater_iff (fun step hstep => readyFor_of_mem_steps hstep)]
  exact or_iff_right (Nat.not_lt_zero index)

/-- After any run of passes every index in use is below the high-water mark, so that the lost ones
can be found by marks, and the table has no more names than indices were given out.  The unreachable
indices are listed in ascending order: they are those that some line was given and that no name has
now.  Every index below the mark was given out and none above it, and no more are lost than names were
bound again. -/
theorem unreachable_after (host : Host) (streams : List Stream) :
    let run := (fresh host).loadAll streams
    let table := run.result.2.table
    let given := (run.events.filterMap Event.assignment?).map Prod.snd
    let rebindings := run.events.filterMap Event.rebinding?
    (forall index, index ∈ table.indices -> index < table.highWater) ∧
      (exists marks, table.marks? = some marks ∧ Table.unmarked marks = table.unreachable) ∧
      table.size ≤ table.highWater ∧
      table.unreachable.Pairwise (· < ·) ∧
      (forall index, index ∈ table.unreachable <->
        index ∈ given ∧ forall name, table.index? name ≠ some index) ∧
      (forall index, index < table.highWater <-> index ∈ given) ∧
      table.unreachable.length ≤ rebindings.length ∧
      table.highWater ≤ given.length := by
  intro run table given rebindings
  have hready : table.ReadyFor table.size := readyFor_after host streams
  have hgiven : given = ((fresh host).steps streams).map Step.index := by
    show List.map Prod.snd (run.events.filterMap Event.assignment?) = _
    rw [loadAll_assignments, List.map_map]
    rfl
  have hrebindings : rebindings = ((fresh host).steps streams).filterMap Step.rebinding? :=
    loadAll_rebindings (fresh host) streams
  have hbelow : forall index, index < table.highWater <-> index ∈ given := by
    intro index
    rw [hgiven]
    exact lt_highWater_after_iff host streams index
  have hindices : forall index, index ∈ table.indices -> index < table.highWater := by
    intro index hindex
    rcases (Table.mem_indices_iff hready.nodup_names index).mp hindex with ⟨name, hname⟩
    exact hready.index_lt hname
  have hlost : table.unreachable.length ≤ rebindings.length := by
    rw [hrebindings]
    exact (leads_steps (fresh host) streams).length_unreachable_le
      (fun step hstep => readyFor_of_mem_steps hstep)
  have hlength : table.highWater ≤ given.length := by
    have hrange : List.range table.highWater ⊆ given :=
      fun index hindex => (hbelow index).mp (List.mem_range.mp hindex)
    have h := List.nodup_range.length_le_of_subset hrange
    rwa [List.length_range] at h
  refine ⟨hindices, Table.exists_marks? hindices, hready.le_highWater,
    List.pairwise_lt_range.filter _, ?_, hbelow, hlost, hlength⟩
  intro index
  rw [Table.mem_unreachable_iff hready.nodup_names, hbelow]

end Library
end HostBridge
