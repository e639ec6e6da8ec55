import HostBridge.Proofs.Symbol.Steps
import Mathlib.Data.List.Nodup

/-!
# Indices of tables in a run

A pass that has come to an index finds a table with no more names than that index, and with a
high-water mark that is not below it and lies above every index in use.  Each step keeps this, a new
pass starts from it, and so it holds wherever a run comes.
-/

namespace HostBridge

namespace Table

/-!
## Names and their indices
-/

theorem mem_bindings_iff
    {table : Table} (hnames : table.names.Nodup) (name : String) (index : Nat) :
    (name, index) ∈ table.bindings <-> table.index? name = some index := by
  rw [index?, List.lookup_eq_some_iff]
  constructor
  · intro hmem
    rcases List.append_of_mem hmem with ⟨front, back, hsplit⟩
    refine ⟨front, back, hsplit, ?_⟩
    intro other hother
    rw [names, hsplit, List.map_append, List.map_cons] at hnames
    have hne := (List.nodup_append.mp hnames).right.right other.1 (List.mem_map_of_mem hother)
      name List.mem_cons_self
    exact bne_iff_ne.mpr (Ne.symm hne)
  · intro hsplit
    rcases hsplit with ⟨front, back, hsplit, _⟩
    rw [hsplit]
    exact List.mem_append_right front List.mem_cons_self

theorem mem_indices_iff {table : Table} (hnames : table.names.Nodup) (index : Nat) :
    index ∈ table.indices <-> exists name, table.index? name = some index := by
  rw [indices, List.mem_map]
  constructor
  · intro hmem
    rcases hmem with ⟨⟨name, found⟩, hmem, rfl⟩
    exact ⟨name, (mem_bindings_iff hnames name found).mp hmem⟩
  · intro hname
    rcases hname with ⟨name, hindex⟩
    exact ⟨(name, index), (mem_bindings_iff hnames name index).mpr hindex, rfl⟩

theorem nodup_indices
    {table : Table} (hnames : table.names.Nodup)
    (hshared : forall one other index,
      table.index? one = some index -> table.index? other = some index -> one = other) :
    table.indices.Nodup := by
  have hbindings : table.bindings.Nodup := List.Nodup.of_map Prod.fst hnames
  apply List.Nodup.map_on _ hbindings
  rintro ⟨one, index⟩ hone ⟨other, _⟩ hother rfl
  have hname : one = other :=
    hshared one other index ((mem_bindings_iff hnames one index).mp hone)
      ((mem_bindings_iff hnames other index).mp hother)
  rw [hname]

theorem mem_unreachable_iff
    {table : Table} (hnames : table.names.Nodup) (index : Nat) :
    index ∈ table.unreachable <->
      index < table.highWater ∧ forall name, table.index? name ≠ some index := by
  rw [unreachable, List.mem_filter, List.mem_range, decide_eq_true_iff, mem_indices_iff hnames,
    not_exists]

theorem nodup_names_bind {table : Table} (hnames : table.names.Nodup) (name : String) (index : Nat) :
    (table.bind name index).names.Nodup := by
  rw [names_bind]
  by_cases hname : name ∈ table.names
  · rw [if_pos hname]
    exact hnames
  · rw [if_neg hname]
    exact List.nodup_append.mpr ⟨hnames, List.nodup_singleton name, fun other hother _ hmem h =>
      hname (List.mem_singleton.mp hmem ▸ h ▸ hother)⟩

/-!
## Tables in the middle of a pass
-/

/-- What a pass that has come to the index `next` relies on. -/
structure ReadyFor (table : Table) (next : Nat) : Prop where
  nodup_names : table.names.Nodup
  size_le : table.size ≤ next
  le_highWater : next ≤ table.highWater
  index_lt : forall {name index}, table.index? name = some index -> index < table.highWater

theorem readyFor_empty : Table.empty.ReadyFor 0 where
  nodup_names := List.nodup_nil
  size_le := Nat.le_refl 0
  le_highWater := Nat.le_refl 0
  index_lt := by
    intro name index hindex
    cases hindex

theorem ReadyFor.bind {table : Table} {next : Nat} (hready : table.ReadyFor next) (name : String) :
    (table.bind name next).ReadyFor (next + 1) where
  nodup_names := nodup_names_bind hready.nodup_names name next
  size_le := Nat.le_trans (size_bind_le table name next) (Nat.succ_le_succ hready.size_le)
  le_highWater := Nat.le_max_right table.highWater (next + 1)
  index_lt := by
    intro other index hindex
    rw [index?_bind] at hindex
    rw [highWater_bind]
    by_cases hname : other = name
    · rw [if_pos hname] at hindex
      cases hindex
      exact Nat.lt_of_lt_of_le (Nat.lt_succ_self next) (Nat.le_max_right _ _)
    · rw [if_neg hname] at hindex
      exact Nat.lt_of_lt_of_le (hready.index_lt hindex) (Nat.le_max_left _ _)

theorem ReadyFor.restart {table : Table} {next : Nat} (hready : table.ReadyFor next) :
    table.ReadyFor table.size where
  nodup_names := hready.nodup_names
  size_le := Nat.le_refl table.size
  le_highWater := Nat.le_trans hready.size_le hready.le_highWater
  index_lt := hready.index_lt

theorem ReadyFor.bindAll
    {table : Table} {next : Nat} (hready : table.ReadyFor next) (names : List String) :
    (table.bindAll (names.zipIdx next)).ReadyFor (next + names.length) := by
  induction names generalizing table next with
  | nil => exact hready
  | cons name rest ih =>
      have hrest := ih (hready.bind name)
      rw [Nat.add_assoc, Nat.add_comm 1] at hrest
      exact hrest

theorem ReadyFor.of_mem_stepsFrom
    {pass index : Nat} {opening table : Table} {names : List String} {step : Step}
    (hready : table.ReadyFor index) (hstep : step ∈ stepsFrom pass opening table index names) :
    step.before.ReadyFor step.index := by
  induction names generalizing table index with
  | nil => cases hstep
  | cons name rest ih =>
      rcases List.mem_cons.mp hstep with rfl | hrest
      · exact hready
      · exact ih (hready.bind name) hrest

theorem ReadyFor.of_mem_stepsAll
    {pass : Nat} {table : Table} {passes : List (List String)} {step : Step}
    (hready : table.ReadyFor table.size) (hstep : step ∈ table.stepsAll pass passes) :
    step.before.ReadyFor step.index := by
  induction passes generalizing pass table with
  | nil => cases hstep
  | cons names rest ih =>
      rcases List.mem_append.mp hstep with hfirst | hrest
      · exact hready.of_mem_stepsFrom hfirst
      · exact ih (hready.bindAll names).restart hrest

theorem ReadyFor.extendAll
    {table : Table} (hready : table.ReadyFor table.size) (passes : List (List String)) :
    (table.extendAll passes).ReadyFor (table.extendAll passes).size := by
  induction passes generalizing table with
  | nil => exact hready
  | cons names rest ih => exact ih (hready.bindAll names).restart

end Table

namespace Step

theorem readyFor_after {step : Step} (hready : step.before.ReadyFor step.index) :
    step.after.ReadyFor (step.index + 1) :=
  hready.bind step.name

/-- The index that a name had before a step stays below the high-water mark, so it is unreachable as
soon as no name has it. -/
theorem mem_unreachable_after_iff
    {step : Step} {previous : Nat}
    (hready : step.before.ReadyFor step.index) (hprevious : step.previous? = some previous) :
    previous ∈ step.after.unreachable <->
      forall name, step.after.index? name ≠ some previous := by
  have hlt : previous < step.after.highWater :=
    Nat.lt_of_lt_of_le (hready.index_lt hprevious) (Nat.le_max_left _ _)
  rw [Table.mem_unreachable_iff (readyFor_after hready).nodup_names]
  exact and_iff_right hlt

end Step

namespace Library

theorem readyFor_after (host : Host) (streams : List Stream) :
    ((fresh host).after streams).table.ReadyFor ((fresh host).after streams).table.size := by
  rw [table_after]
  exact Table.readyFor_empty.extendAll (passNames streams)

theorem readyFor_of_mem_steps
    {host : Host} {streams : List Stream} {step : Step}
    (hstep : step ∈ (fresh host).steps streams) :
    step.before.ReadyFor step.index :=
  Table.readyFor_empty.of_mem_stepsAll hstep

end Library
end HostBridge
