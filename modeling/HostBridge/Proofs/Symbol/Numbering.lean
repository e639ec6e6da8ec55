import HostBridge.Proofs.Symbol.Runs
import HostBridge.Proofs.Text.Lines
import Mathlib.Data.List.Induction

/-!
# Numbering of manifests

What loading manifests into a fresh library comes to, told from the manifests alone: each pass starts
at the number of different names before it; the last occurrence in the last manifest that gives a
name decides its index, its first occurrence decides its place, and the high-water mark is the
farthest end of a pass.
-/

namespace HostBridge

theorem exists_last_split {α : Type} {kind : α -> Prop} {items : List α}
    (hitems : exists item, item ∈ items ∧ kind item) :
    exists front item back,
      items = front ++ item :: back ∧ kind item ∧ forall other, other ∈ back -> ¬kind other := by
  induction items with
  | nil =>
      rcases hitems with ⟨item, hitem, _⟩
      cases hitem
  | cons first rest ih =>
      by_cases hrest : exists item, item ∈ rest ∧ kind item
      · rcases ih hrest with ⟨front, item, back, rfl, hkind, hback⟩
        exact ⟨first :: front, item, back, rfl, hkind, hback⟩
      · rcases hitems with ⟨item, hitem, hkind⟩
        rcases List.mem_cons.mp hitem with rfl | htail
        · exact ⟨[], item, rest, rfl, hkind, fun other hother h => hrest ⟨other, hother, h⟩⟩
        · exact absurd ⟨item, htail, hkind⟩ hrest

namespace Manifest

/-- The names of a manifest text: its lines up to the first empty one. -/
def names (manifest : String) : List String :=
  (textLines manifest).takeWhile fun line => line ≠ ""

def distinctNames (manifests : List String) : List String :=
  (manifests.flatMap names).eraseDups

/-- The last manifest that gives a name is loaded from the number of different names before it on,
and has the name for the last time where the index says. -/
def Numbers (manifests : List String) (name : String) (index : Nat) : Prop :=
  exists earlier manifest later front back,
    manifests = earlier ++ manifest :: later ∧
      (forall other, other ∈ later -> name ∉ names other) ∧
      names manifest = front ++ name :: back ∧
      name ∉ back ∧
      index = (distinctNames earlier).length + front.length

/-- A pass with at least one name ends before `next`. -/
def EndsBefore (manifests : List String) (next : Nat) : Prop :=
  exists earlier manifest later,
    manifests = earlier ++ manifest :: later ∧
      names manifest ≠ [] ∧
      next = (distinctNames earlier).length + (names manifest).length

def table (manifests : List String) : Table :=
  Table.empty.extendAll (manifests.map names)

/-!
## The table after manifests
-/

theorem table_append_singleton (manifests : List String) (manifest : String) :
    table (manifests ++ [manifest]) = (table manifests).extend (names manifest) := by
  rw [table, List.map_append, Table.extendAll_append]
  rfl

theorem names_extendAll
    {bound : Table} {seen : List String} (hbound : bound.names = seen.eraseDups)
    (passes : List (List String)) :
    (bound.extendAll passes).names = (seen ++ passes.flatten).eraseDups := by
  induction passes generalizing bound seen with
  | nil => simpa using hbound
  | cons pass rest ih =>
      have hpass : (bound.extend pass).names = (seen ++ pass).eraseDups := by
        have h := Table.names_bindAll hbound (pass.zipIdx bound.size)
        rw [List.zipIdx_map_fst] at h
        exact h
      rw [Table.extendAll_cons, ih hpass, List.flatten_cons, List.append_assoc]

theorem names_table (manifests : List String) :
    (table manifests).names = distinctNames manifests := by
  have hempty : Table.empty.names = [].eraseDups := rfl
  have h := names_extendAll hempty (manifests.map names)
  rw [List.nil_append] at h
  rw [table, h, distinctNames, List.flatMap_def]

theorem size_table (manifests : List String) :
    (table manifests).size = (distinctNames manifests).length := by
  rw [Table.size_eq_length_names, names_table]

/-!
## Indices
-/

theorem index?_extend_of_not_mem
    {name : String} {pass : List String} (hname : name ∉ pass) (bound : Table) :
    (bound.extend pass).index? name = bound.index? name := by
  apply Table.index?_bindAll_of_not_mem
  rw [List.zipIdx_map_fst]
  exact hname

theorem index?_extendAll_of_not_mem
    {name : String} {passes : List (List String)}
    (hname : forall pass, pass ∈ passes -> name ∉ pass) (bound : Table) :
    (bound.extendAll passes).index? name = bound.index? name := by
  induction passes generalizing bound with
  | nil => rfl
  | cons pass rest ih =>
      have hrest : forall other, other ∈ rest -> name ∉ other :=
        fun other h => hname other (List.mem_cons_of_mem pass h)
      rw [Table.extendAll_cons, ih hrest,
        index?_extend_of_not_mem (hname pass List.mem_cons_self)]

theorem index?_extend_last
    {name : String} {back : List String} (hback : name ∉ back)
    (bound : Table) (front : List String) :
    (bound.extend (front ++ name :: back)).index? name = some (bound.size + front.length) := by
  rw [Table.extend, List.zipIdx_append, List.zipIdx_cons]
  apply Table.index?_bindAll_last
  rw [List.zipIdx_map_fst]
  exact hback

theorem index?_table_of_numbers
    {manifests : List String} {name : String} {index : Nat}
    (hnumbers : Numbers manifests name index) :
    (table manifests).index? name = some index := by
  rcases hnumbers with ⟨earlier, manifest, later, front, back, rfl, hlater, hnames, hback, rfl⟩
  have hpasses : forall pass, pass ∈ later.map names -> name ∉ pass := by
    intro pass hpass
    rcases List.mem_map.mp hpass with ⟨other, hother, rfl⟩
    exact hlater other hother
  have hsplit : table (earlier ++ manifest :: later) =
      ((table earlier).extend (names manifest)).extendAll (later.map names) := by
    rw [table, List.map_append, Table.extendAll_append]
    rfl
  rw [hsplit, index?_extendAll_of_not_mem hpasses, hnames, index?_extend_last hback, size_table]

theorem exists_numbers
    {manifests : List String} {name : String}
    (hname : exists manifest, manifest ∈ manifests ∧ name ∈ names manifest) :
    exists index, Numbers manifests name index := by
  rcases exists_last_split hname with ⟨earlier, manifest, later, hmanifests, hmem, hlater⟩
  rcases exists_last_split ⟨name, hmem, rfl⟩ with ⟨front, found, back, hnames, rfl, hback⟩
  exact ⟨_, earlier, manifest, later, front, back, hmanifests, hlater, hnames,
    fun h => hback _ h rfl, rfl⟩

theorem index?_table_eq_none_iff (manifests : List String) (name : String) :
    (table manifests).index? name = none <->
      forall manifest, manifest ∈ manifests -> name ∉ names manifest := by
  rw [Table.index?_eq_none_iff, names_table, distinctNames, List.mem_eraseDups]
  simp

theorem index?_table_eq_some_iff (manifests : List String) (name : String) (index : Nat) :
    (table manifests).index? name = some index <-> Numbers manifests name index := by
  constructor
  · intro hindex
    by_cases hname : exists manifest, manifest ∈ manifests ∧ name ∈ names manifest
    · rcases exists_numbers hname with ⟨found, hfound⟩
      rw [index?_table_of_numbers hfound] at hindex
      cases hindex
      exact hfound
    · have hnone := (index?_table_eq_none_iff manifests name).mpr
        fun manifest hmanifest hmem => hname ⟨manifest, hmanifest, hmem⟩
      rw [hnone] at hindex
      cases hindex
  · exact index?_table_of_numbers

/-!
## The high-water mark
-/

theorem endsBefore_append_singleton_iff (manifests : List String) (manifest : String) (next : Nat) :
    EndsBefore (manifests ++ [manifest]) next <->
      EndsBefore manifests next ∨
        names manifest ≠ [] ∧
          next = (distinctNames manifests).length + (names manifest).length := by
  constructor
  · intro hends
    rcases hends with ⟨earlier, ending, later, hsplit, hne, hnext⟩
    rcases List.eq_nil_or_concat later with rfl | ⟨others, last, rfl⟩
    · rcases List.append_inj' hsplit rfl with ⟨rfl, hlast⟩
      cases hlast
      exact Or.inr ⟨hne, hnext⟩
    · have hassoc : manifests ++ [manifest] = (earlier ++ ending :: others) ++ [last] := by
        simpa using hsplit
      rcases List.append_inj' hassoc rfl with ⟨rfl, _⟩
      exact Or.inl ⟨earlier, ending, others, rfl, hne, hnext⟩
  · intro hends
    rcases hends with ⟨earlier, ending, later, rfl, hne, hnext⟩ | ⟨hne, hnext⟩
    · exact ⟨earlier, ending, later ++ [manifest], by simp, hne, hnext⟩
    · exact ⟨manifests, manifest, [], rfl, hne, hnext⟩

theorem highWater_table_append_singleton (manifests : List String) (manifest : String) :
    (table (manifests ++ [manifest])).highWater =
      if names manifest = [] then (table manifests).highWater
      else max (table manifests).highWater
        ((distinctNames manifests).length + (names manifest).length) := by
  rw [table_append_singleton, Table.extend, Table.highWater_bindAll_zipIdx, size_table]

theorem highWater_table (manifests : List String) :
    (forall next, EndsBefore manifests next -> next ≤ (table manifests).highWater) ∧
      (EndsBefore manifests (table manifests).highWater ∨
        (table manifests).highWater = 0 ∧ forall next, ¬EndsBefore manifests next) := by
  induction manifests using List.reverseRecOn with
  | nil =>
      have hnone : forall next, ¬EndsBefore [] next := by
        rintro next ⟨earlier, manifest, later, hsplit, _⟩
        cases earlier <;> cases hsplit
      exact ⟨fun next h => absurd h (hnone next), Or.inr ⟨rfl, hnone⟩⟩
  | append_singleton manifests manifest ih =>
      rcases ih with ⟨hbound, hreached⟩
      rw [highWater_table_append_singleton]
      simp only [endsBefore_append_singleton_iff]
      by_cases hempty : names manifest = []
      · simpa [hempty] using ⟨hbound, hreached⟩
      · rw [if_neg hempty]
        constructor
        · rintro next (hearlier | ⟨_, rfl⟩)
          · exact Nat.le_trans (hbound next hearlier) (Nat.le_max_left _ _)
          · exact Nat.le_max_right _ _
        · left
          rcases Nat.le_total (table manifests).highWater
            ((distinctNames manifests).length + (names manifest).length) with hle | hle
          · rw [Nat.max_eq_right hle]
            exact Or.inr ⟨hempty, rfl⟩
          · rw [Nat.max_eq_left hle]
            rcases hreached with hends | ⟨hzero, _⟩
            · exact Or.inl hends
            · exact Or.inr ⟨hempty, Nat.le_antisymm (hzero ▸ Nat.zero_le _) hle⟩

theorem highWater_table_le (manifests : List String) :
    (table manifests).highWater ≤ (manifests.flatMap names).length := by
  have hempty : Table.empty.highWater ≤ 0 := Nat.le_refl 0
  have hmark := (Table.extendAll_le (Nat.le_refl 0) hempty (manifests.map names)).right
  rw [Nat.zero_add, ← List.flatMap_def] at hmark
  exact hmark

/-!
## Loading manifests
-/

theorem names_lines_ofText (manifest : String) :
    LineReading.names (Stream.ofText manifest).lines = names manifest := by
  rw [Stream.lines_ofText, LineReading.names_map_ok, names]

theorem load_ofText_outcome (library : Library) (manifest : String) :
    (library.load (.ofText manifest)).result.1 = .ok (names manifest).length := by
  rw [Library.load_outcome, names_lines_ofText, Stream.lines_ofText, LineReading.fault?_map_ok]
  rfl

theorem load_ofText_library (library : Library) (manifest : String) :
    (library.load (.ofText manifest)).result.2 =
      ⟨library.host, library.table.extend (names manifest)⟩ := by
  rw [Library.load_library, names_lines_ofText]

theorem load_ofText_result (library : Library) (manifest : String) :
    (library.load (.ofText manifest)).result =
      (.ok (names manifest).length, ⟨library.host, library.table.extend (names manifest)⟩) :=
  Prod.ext (load_ofText_outcome library manifest) (load_ofText_library library manifest)

theorem loadAll_ofText_outcomes (library : Library) (manifests : List String) :
    (library.loadAll (manifests.map .ofText)).result.1 =
      manifests.map fun manifest => .ok (names manifest).length := by
  induction manifests generalizing library with
  | nil => rfl
  | cons manifest rest ih =>
      rw [List.map_cons, List.map_cons, ← load_ofText_outcome library manifest, ← ih]
      rfl

theorem table_after_ofText (host : Host) (manifests : List String) :
    (Library.after { host := host } (manifests.map .ofText)).table = table manifests := by
  rw [Library.table_after, table, Library.passNames, List.map_map]
  congr 1
  apply List.map_congr_left
  intro manifest _
  exact names_lines_ofText manifest

/-- A text falls into lines in one way, and those before the first empty one are the names of a manifest.
Every pass over a manifest returns the number of its names and numbers them from the number of
different names before it on.  Afterwards names are resolved as the manifests number them, stand in
the order in which they first came, and the high-water mark is the farthest end of a pass.  No number
exceeds the number of names given. -/
theorem loadAll_ofText (host : Host) (manifests : List String) :
    let fresh : Library := { host := host }
    let run := fresh.loadAll (manifests.map .ofText)
    let loaded := run.result.2.table
    (forall manifest lines, textLines manifest = lines <-> HasLines manifest.toList lines) ∧
      run.result.1 = manifests.map (fun manifest => .ok (names manifest).length) ∧
      (forall earlier manifest later, manifests = earlier ++ manifest :: later ->
        let before := fresh.after (earlier.map .ofText)
        before.table.size = (distinctNames earlier).length ∧
          (before.load (.ofText manifest)).events.filterMap Event.assignment? =
            (names manifest).zipIdx (distinctNames earlier).length) ∧
      (forall name index, loaded.index? name = some index <-> Numbers manifests name index) ∧
      (forall name, loaded.index? name = none <->
        forall manifest, manifest ∈ manifests -> name ∉ names manifest) ∧
      loaded.names = distinctNames manifests ∧
      (forall next, EndsBefore manifests next -> next ≤ loaded.highWater) ∧
      (EndsBefore manifests loaded.highWater ∨
        loaded.highWater = 0 ∧ forall next, ¬EndsBefore manifests next) ∧
      loaded.highWater ≤ (manifests.flatMap names).length := by
  intro fresh run loaded
  have hloaded : loaded = table manifests := table_after_ofText host manifests
  rw [hloaded]
  refine ⟨textLines_eq_iff, loadAll_ofText_outcomes fresh manifests, ?_,
    index?_table_eq_some_iff manifests, index?_table_eq_none_iff manifests, names_table manifests,
    (highWater_table manifests).left, (highWater_table manifests).right,
    highWater_table_le manifests⟩
  intro earlier manifest later _ before
  have hsize : before.table.size = (distinctNames earlier).length := by
    rw [table_after_ofText host earlier, size_table]
  refine ⟨hsize, ?_⟩
  rw [Library.load_assignments, names_lines_ofText, hsize]

end Manifest
end HostBridge
