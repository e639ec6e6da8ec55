import HostBridge.Proofs.Symbol.Indices
import Mathlib.Data.List.Pairwise

/-!
# Aliases

Two names share an index only where a pass gives out an index that an earlier pass has given out.
Such a pass starts below the high-water mark, and says so in its log before it binds a line.
-/

namespace HostBridge

namespace Step

/-- An earlier and a later step of a run: within a pass the indices ascend, and what an earlier pass
gave out is below the mark that a later pass starts with. -/
def Precedes (early late : Step) : Prop :=
  early.pass = late.pass ∧ early.index < late.index ∨
    early.pass < late.pass ∧ early.index < late.opening.highWater

def StartsLow (step : Step) : Prop :=
  step.opening.size < step.opening.highWater

/-- Two steps give out one index only if they belong to different passes, the later of which starts
low. -/
def Apart (one other : Step) : Prop :=
  one.index = other.index ->
    one.pass < other.pass ∧ other.StartsLow ∨ other.pass < one.pass ∧ one.StartsLow

instance : Std.Symm Apart where
  symm _ _ hapart hindex := (hapart hindex.symm).symm

theorem Precedes.pass_le {early late : Step} (hprecedes : Precedes early late) :
    early.pass ≤ late.pass := by
  rcases hprecedes with ⟨hpass, _⟩ | ⟨hpass, _⟩
  · exact Nat.le_of_eq hpass
  · exact Nat.le_of_lt hpass

theorem Precedes.apart
    {early late : Step} (hprecedes : Precedes early late)
    (hopening : late.opening.size ≤ late.index) :
    Apart early late := by
  intro hindex
  rcases hprecedes with ⟨_, hlt⟩ | ⟨hpass, hlt⟩
  · exact absurd hindex (Nat.ne_of_lt hlt)
  · refine Or.inl ⟨hpass, ?_⟩
    rw [hindex] at hlt
    exact Nat.lt_of_le_of_lt hopening hlt

end Step

namespace Table

open Step (Precedes)

theorem pairwise_stepsFrom
    (pass : Nat) (opening table : Table) (index : Nat) (names : List String) :
    (stepsFrom pass opening table index names).Pairwise Precedes := by
  induction names generalizing table index with
  | nil => exact .nil
  | cons name rest ih =>
      refine .cons ?_ (ih _ _)
      intro late hlate
      rcases mem_stepsFrom hlate with ⟨hpass, _, _, hindex⟩
      exact Or.inl ⟨hpass.symm, hindex⟩

/-- The pass of a step starts no higher than the step's index, and with a high-water mark no lower
than that of any table before it. -/
theorem opening_of_mem_stepsAll
    {pass : Nat} {table : Table} {passes : List (List String)} {step : Step}
    (hstep : step ∈ table.stepsAll pass passes) :
    pass ≤ step.pass ∧ step.opening.size ≤ step.index ∧
      table.highWater ≤ step.opening.highWater := by
  rcases exists_pass_of_mem_stepsAll hstep with ⟨earlier, names, later, _, hpass, hmem⟩
  rcases mem_stepsFrom hmem with ⟨_, hopening, _, hindex⟩
  rw [hopening]
  exact ⟨hpass ▸ Nat.le_add_right pass earlier.length, hindex,
    (leads_stepsAll pass table earlier).highWater_le⟩

theorem pairwise_stepsAll (pass : Nat) (table : Table) (passes : List (List String)) :
    (table.stepsAll pass passes).Pairwise Precedes := by
  induction passes generalizing pass table with
  | nil => exact .nil
  | cons names rest ih =>
      refine List.pairwise_append.mpr ⟨pairwise_stepsFrom _ _ _ _ _, ih _ _, ?_⟩
      intro early hearly late hlate
      rcases opening_of_mem_stepsAll hlate with ⟨hpass, _, hmark⟩
      have hindex := (leads_steps pass table names).index_lt_highWater hearly
      rw [← (mem_stepsFrom hearly).left] at hpass
      exact Or.inr ⟨hpass, Nat.lt_of_lt_of_le hindex hmark⟩

end Table

namespace Library

/-!
## Warnings of passes
-/

/-- The pass at a position of a run starts below indices that were given out, warns of it, and binds
a line. -/
def WarnsAt (library : Library) (streams : List Stream) (pass : Nat) : Prop :=
  exists earlier stream later,
    streams = earlier ++ stream :: later ∧
      pass = earlier.length ∧
      let before := library.after earlier
      let events := (before.load stream).events
      before.table.size < before.table.highWater ∧
        .startedLow library.soname before.table.size before.table.highWater ∈ events ∧
        events.filterMap Event.assignment? ≠ []

theorem warnsAt_of_startsLow
    {library : Library} {streams : List Stream} {step : Step}
    (hstep : step ∈ library.steps streams) (hlow : step.StartsLow) :
    library.WarnsAt streams step.pass := by
  rcases exists_pass_of_mem_steps hstep with ⟨earlier, stream, later, hsplit, hpass, hopening, hmem⟩
  refine ⟨earlier, stream, later, hsplit, hpass, ?_⟩
  intro before events
  have hbefore : before.table.size < before.table.highWater := by
    rw [← hopening]
    exact hlow
  refine ⟨hbefore, ?_, ?_⟩
  · have hsoname : before.soname = library.soname := soname_after library earlier
    have hevents : events = _ := (load_events before stream).trans
      (Table.load_events before.soname step.pass before.table stream.lines)
    rw [hevents, Table.startEvents, if_pos hbefore, hsoname]
    exact List.mem_append_left _ List.mem_cons_self
  · have hname := (Table.mem_stepsFrom hmem).right.right.left
    have hassignments : events.filterMap Event.assignment? = _ := load_assignments before stream
    rw [hassignments]
    intro hnil
    rw [List.zipIdx_eq_nil_iff.mp hnil] at hname
    cases hname

theorem pairwise_steps (library : Library) (streams : List Stream) :
    (library.steps streams).Pairwise Step.Precedes :=
  Table.pairwise_stepsAll 0 library.table (passNames streams)

theorem pairwise_apart_steps (library : Library) (streams : List Stream) :
    (library.steps streams).Pairwise Step.Apart := by
  apply (pairwise_steps library streams).imp_of_mem
  intro early late _ hlate hprecedes
  exact hprecedes.apart (Table.opening_of_mem_stepsAll hlate).right.left

/-!
## Shared indices
-/

theorem exists_isLast_of_shared_index
    {host : Host} {streams : List Stream} {one other : String} {index : Nat}
    (hne : one ≠ other)
    (hone : ((fresh host).after streams).table.index? one = some index)
    (hother : ((fresh host).after streams).table.index? other = some index) :
    exists first second,
      Step.IsLast ((fresh host).steps streams) first ∧ first.name = one ∧ first.index = index ∧
        Step.IsLast ((fresh host).steps streams) second ∧ second.name = other ∧
        second.index = index ∧
        first.pass ≠ second.pass ∧
        (fresh host).WarnsAt streams (max first.pass second.pass) := by
  have hleads : Step.Leads Table.empty ((fresh host).steps streams) _ :=
    leads_steps (fresh host) streams
  rcases hleads.exists_isLast hone with ⟨first, hfirst, hfirstName, hfirstIndex⟩
  rcases hleads.exists_isLast hother with ⟨second, hsecond, hsecondName, hsecondIndex⟩
  refine ⟨first, second, hfirst, hfirstName, hfirstIndex, hsecond, hsecondName, hsecondIndex, ?_⟩
  have hsteps : first ≠ second := by
    rintro rfl
    exact hne (hfirstName.symm.trans hsecondName)
  have hapart : Step.Apart first second :=
    (pairwise_apart_steps (fresh host) streams).forall hfirst.mem hsecond.mem hsteps
  rcases hapart (hfirstIndex.trans hsecondIndex.symm) with ⟨hpass, hlow⟩ | ⟨hpass, hlow⟩
  · refine ⟨Nat.ne_of_lt hpass, ?_⟩
    rw [Nat.max_eq_right (Nat.le_of_lt hpass)]
    exact warnsAt_of_startsLow hsecond.mem hlow
  · refine ⟨Nat.ne_of_gt hpass, ?_⟩
    rw [Nat.max_eq_left (Nat.le_of_lt hpass)]
    exact warnsAt_of_startsLow hfirst.mem hlow

/-- If two names share an index in the table that a run leaves, then different passes gave it to
them, and the later of the two passes started low and warned of it.  If no pass that bound a line
warned, the indices in use are all different. -/
theorem shared_index_warned (host : Host) (streams : List Stream) :
    let library := fresh host
    let table := (library.after streams).table
    let steps := library.steps streams
    (forall one other index,
      one ≠ other -> table.index? one = some index -> table.index? other = some index ->
      exists first second,
        Step.IsLast steps first ∧ first.name = one ∧ first.index = index ∧
          Step.IsLast steps second ∧ second.name = other ∧ second.index = index ∧
          first.pass ≠ second.pass ∧
          library.WarnsAt streams (max first.pass second.pass)) ∧
      ((forall pass, ¬library.WarnsAt streams pass) -> table.indices.Nodup) := by
  intro library table steps
  constructor
  · intro one other index hne hone hother
    exact exists_isLast_of_shared_index hne hone hother
  · intro hquiet
    apply Table.nodup_indices (readyFor_after host streams).nodup_names
    intro one other index hone hother
    apply Classical.byContradiction
    intro hne
    rcases exists_isLast_of_shared_index hne hone hother with
      ⟨first, second, _, _, _, _, _, _, _, hwarns⟩
    exact hquiet _ hwarns

/-- A manifest that repeats a name has three indices for two names, so that the next one gives out the
last of them again. -/
theorem shared_index_warned_two :
    let library := fresh (.scratch "lib")
    let streams := [.ofText "x\ny\nx\n", .ofText "z\n"]
    let table := (library.after streams).table
    table.index? "x" = some 2 ∧ table.index? "z" = some 2 ∧
      exists first second,
        Step.IsLast (library.steps streams) first ∧ first.name = "x" ∧
          Step.IsLast (library.steps streams) second ∧ second.name = "z" ∧
          first.pass ≠ second.pass ∧
          library.WarnsAt streams (max first.pass second.pass) := by
  intro library streams table
  have hx : table.index? "x" = some 2 := rfl
  have hz : table.index? "z" = some 2 := rfl
  rcases (shared_index_warned (.scratch "lib") streams).left "x" "z" 2 (by decide) hx hz with
    ⟨first, second, hfirst, hfirstName, _, hsecond, hsecondName, _, hpass, hwarns⟩
  exact ⟨hx, hz, first, second, hfirst, hfirstName, hsecond, hsecondName, hpass, hwarns⟩

end Library
end HostBridge
