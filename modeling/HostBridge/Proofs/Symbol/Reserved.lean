import HostBridge.Proofs.Symbol.Indices

/-!
# Reserved indices

Names that a table got in order, all of them new, have their positions as indices.  No later pass can
give one of these positions away: it starts from the number of names, which never falls, so all that
it gives out lies above them.
-/

namespace HostBridge

namespace Table

/-!
## Names in order
-/

/-- The names of a table are different, and each has its position as its index. -/
structure InOrder (table : Table) (names : List String) : Prop where
  bindings_eq : table.bindings = names.zipIdx
  nodup : names.Nodup

theorem inOrder_empty : Table.empty.InOrder [] where
  bindings_eq := rfl
  nodup := List.nodup_nil

theorem InOrder.names_eq
    {table : Table} {names : List String} (horder : table.InOrder names) :
    table.names = names := by
  rw [Table.names, horder.bindings_eq, List.zipIdx_map_fst]

theorem InOrder.size_eq
    {table : Table} {names : List String} (horder : table.InOrder names) :
    table.size = names.length := by
  rw [size_eq_length_names, horder.names_eq]

theorem InOrder.index?_eq_some_iff
    {table : Table} {names : List String} (horder : table.InOrder names)
    (name : String) (index : Nat) :
    table.index? name = some index <-> names[index]? = some name := by
  have hnames : table.names.Nodup := by
    rw [horder.names_eq]
    exact horder.nodup
  rw [← mem_bindings_iff hnames, horder.bindings_eq, List.mk_mem_zipIdx_iff_getElem?]

theorem InOrder.bind
    {table : Table} {names : List String} (horder : table.InOrder names)
    {name : String} (hname : name ∉ names) :
    (table.bind name names.length).InOrder (names ++ [name]) where
  bindings_eq := by
    have hnew : name ∉ table.bindings.map Prod.fst := by
      rw [← Table.names, horder.names_eq]
      exact hname
    rw [Table.bind, assign_of_not_mem hnew, horder.bindings_eq, List.zipIdx_append, Nat.zero_add]
    rfl
  nodup := List.nodup_append.mpr ⟨horder.nodup, List.nodup_singleton name,
    fun other hother _ hmem h => hname (List.mem_singleton.mp hmem ▸ h ▸ hother)⟩

theorem InOrder.bindAll
    {table : Table} {names more : List String} (horder : table.InOrder names)
    (hmore : (names ++ more).Nodup) :
    (table.bindAll (more.zipIdx names.length)).InOrder (names ++ more) := by
  induction more generalizing table names with
  | nil =>
      rw [List.append_nil]
      exact horder
  | cons name rest ih =>
      have hname : name ∉ names := by
        intro hmem
        exact (List.nodup_append.mp hmore).right.right name hmem name List.mem_cons_self rfl
      rw [List.append_cons] at hmore
      have hrest := ih (horder.bind hname) hmore
      rw [List.length_append, List.append_assoc] at hrest
      exact hrest

theorem InOrder.extend
    {table : Table} {names more : List String} (horder : table.InOrder names)
    (hmore : (names ++ more).Nodup) :
    (table.extend more).InOrder (names ++ more) := by
  rw [Table.extend, horder.size_eq]
  exact horder.bindAll hmore

/-!
## Indices kept for names
-/

/-- The first indices are kept for some names: no other name has one of them, and each of the names
has its own or one above them all. -/
structure Reserves (table : Table) (names : List String) : Prop where
  length_le : names.length ≤ table.size
  owner : forall {name index},
    index < names.length -> table.index? name = some index -> names[index]? = some name
  kept : forall {name position}, names[position]? = some name ->
    exists index, table.index? name = some index ∧ (index = position ∨ names.length ≤ index)

theorem InOrder.reserves
    {table : Table} {names : List String} (horder : table.InOrder names) :
    table.Reserves names where
  length_le := Nat.le_of_eq horder.size_eq.symm
  owner := by
    intro name index _ hindex
    exact (horder.index?_eq_some_iff name index).mp hindex
  kept := by
    intro name position hposition
    exact ⟨position, (horder.index?_eq_some_iff name position).mpr hposition, Or.inl rfl⟩

theorem size_le_size_bind (table : Table) (name : String) (index : Nat) :
    table.size ≤ (table.bind name index).size := by
  rw [size_eq_length_names, size_eq_length_names, names_bind]
  split
  · exact Nat.le_refl table.names.length
  · rw [List.length_append]
    exact Nat.le_add_right table.names.length 1

theorem Reserves.bind
    {table : Table} {names : List String} (hreserves : table.Reserves names)
    (name : String) {index : Nat} (hindex : names.length ≤ index) :
    (table.bind name index).Reserves names where
  length_le := Nat.le_trans hreserves.length_le (size_le_size_bind table name index)
  owner := by
    intro other found hfound hother
    rw [index?_bind] at hother
    by_cases hname : other = name
    · rw [if_pos hname] at hother
      cases hother
      exact absurd hfound (Nat.not_lt.mpr hindex)
    · rw [if_neg hname] at hother
      exact hreserves.owner hfound hother
  kept := by
    intro other position hposition
    rw [index?_bind]
    by_cases hname : other = name
    · rw [if_pos hname]
      exact ⟨index, rfl, Or.inr hindex⟩
    · rw [if_neg hname]
      exact hreserves.kept hposition

end Table

namespace Step

theorem Leads.size_le
    {first final : Table} {steps : List Step} (hleads : Leads first steps final) :
    first.size ≤ final.size := by
  induction hleads with
  | refl table => exact Nat.le_refl table.size
  | step step _ ih =>
      exact Nat.le_trans (Table.size_le_size_bind step.before step.name step.index) ih

theorem Leads.reserves
    {first final : Table} {steps : List Step} (hleads : Leads first steps final)
    {names : List String} (hfirst : first.Reserves names)
    (habove : forall step, step ∈ steps -> names.length ≤ step.index) :
    final.Reserves names ∧
      forall step, step ∈ steps -> step.before.Reserves names ∧ step.after.Reserves names := by
  induction hleads with
  | refl table => exact ⟨hfirst, fun step hstep => absurd hstep List.not_mem_nil⟩
  | step step _ ih =>
      rcases List.forall_mem_cons.mp habove with ⟨hindex, hrest⟩
      have hafter : step.after.Reserves names := hfirst.bind step.name hindex
      rcases ih hafter hrest with ⟨hfinal, hsteps⟩
      exact ⟨hfinal, List.forall_mem_cons.mpr ⟨⟨hfirst, hafter⟩, hsteps⟩⟩

end Step

namespace Table

theorem size_le_index_of_mem_stepsAll
    {pass : Nat} {table : Table} {passes : List (List String)} {step : Step}
    (hstep : step ∈ table.stepsAll pass passes) :
    table.size ≤ step.index := by
  induction passes generalizing pass table with
  | nil => cases hstep
  | cons names rest ih =>
      rcases List.mem_append.mp hstep with hfirst | hrest
      · exact (mem_stepsFrom hfirst).right.right.right
      · exact Nat.le_trans (leads_steps pass table names).size_le (ih hrest)

end Table

namespace Library

theorem reserves_after
    {library : Library} {names : List String} (hreserves : library.table.Reserves names)
    (later : List Stream) :
    (library.after later).table.Reserves names ∧
      forall step, step ∈ library.steps later ->
        step.before.Reserves names ∧ step.after.Reserves names := by
  apply (leads_steps library later).reserves hreserves
  intro step hstep
  exact Nat.le_trans hreserves.length_le (Table.size_le_index_of_mem_stepsAll hstep)

theorem inOrder_first_pass
    (host : Host) {first : Stream} (hfirst : (LineReading.names first.lines).Nodup) :
    ((fresh host).after [first]).table.InOrder (LineReading.names first.lines) := by
  rw [table_after]
  exact Table.inOrder_empty.extend hfirst

end Library
end HostBridge
