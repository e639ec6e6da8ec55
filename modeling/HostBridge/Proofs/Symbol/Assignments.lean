import HostBridge.Symbol.Table

/-!
# Assignments

A table after a list of assignments: a name has the index of its last assignment, names stand in the
order of their first ones, and the high-water mark is one past the largest index assigned.
-/

namespace HostBridge
namespace Table

/-!
## One assignment
-/

theorem keys_assign (name : String) (index : Nat) (bindings : List (String × Nat)) :
    (assign name index bindings).map Prod.fst =
      if name ∈ bindings.map Prod.fst then bindings.map Prod.fst
      else bindings.map Prod.fst ++ [name] := by
  induction bindings with
  | nil => rfl
  | cons binding rest ih =>
      rcases binding with ⟨known, old⟩
      rw [assign]
      by_cases hknown : known = name
      · simp [hknown]
      · rw [if_neg hknown, List.map_cons, List.map_cons, ih]
        by_cases hrest : name ∈ rest.map Prod.fst
        · simp [hrest]
        · simp [hrest, Ne.symm hknown]

theorem names_bind (table : Table) (name : String) (index : Nat) :
    (table.bind name index).names =
      if name ∈ table.names then table.names else table.names ++ [name] :=
  keys_assign name index table.bindings

theorem names_bind_of_eraseDups
    {table : Table} {seen : List String} (hnames : table.names = seen.eraseDups)
    (name : String) (index : Nat) :
    (table.bind name index).names = (seen ++ [name]).eraseDups := by
  rw [names_bind, hnames, List.eraseDups_append]
  by_cases hseen : name ∈ seen
  · simp [hseen, List.removeAll]
  · simp [hseen, List.removeAll, List.eraseDups_cons]

theorem size_eq_length_names (table : Table) : table.size = table.names.length := by
  simp [size, names]

theorem size_bind_le (table : Table) (name : String) (index : Nat) :
    (table.bind name index).size ≤ table.size + 1 := by
  rw [size_eq_length_names, size_eq_length_names, names_bind]
  split
  · exact Nat.le_succ table.names.length
  · exact Nat.le_of_eq List.length_append

theorem index?_eq_none_iff (table : Table) (name : String) :
    table.index? name = none <-> name ∉ table.names := by
  rw [index?, names]
  induction table.bindings with
  | nil => simp
  | cons binding rest ih =>
      rcases binding with ⟨known, index⟩
      by_cases hknown : name = known
      · simp [hknown]
      · have hbeq : (name == known) = false := by simp [hknown]
        simp [List.lookup_cons, hbeq, ih, hknown]

theorem assign_of_lookup
    {name : String} {index : Nat} {bindings : List (String × Nat)}
    (hlookup : bindings.lookup name = some index) : assign name index bindings = bindings := by
  induction bindings with
  | nil => cases hlookup
  | cons binding rest ih =>
      rcases binding with ⟨known, old⟩
      rw [assign]
      by_cases hknown : known = name
      · rw [hknown, List.lookup_cons_self] at hlookup
        cases hlookup
        rw [if_pos hknown, hknown]
      · have hbeq : (name == known) = false := beq_eq_false_iff_ne.mpr (Ne.symm hknown)
        rw [List.lookup_cons, hbeq] at hlookup
        rw [if_neg hknown, ih hlookup]

theorem assign_of_not_mem
    {name : String} {bindings : List (String × Nat)} (hname : name ∉ bindings.map Prod.fst)
    (index : Nat) :
    assign name index bindings = bindings ++ [(name, index)] := by
  induction bindings with
  | nil => rfl
  | cons binding rest ih =>
      rcases binding with ⟨known, old⟩
      rw [List.map_cons, List.mem_cons, not_or] at hname
      rw [assign, if_neg (Ne.symm hname.left), ih hname.right, List.cons_append]

/-- Two names that get the same index leave the same table just where both had it before. -/
theorem bind_eq_bind_iff
    {name other : String} (hname : name ≠ other) (table : Table) (index : Nat) :
    table.bind name index = table.bind other index <->
      table.index? name = some index ∧ table.index? other = some index := by
  constructor
  · intro hsame
    have hfirst := congrArg (fun bound => bound.index? name) hsame
    have hsecond := congrArg (fun bound => bound.index? other) hsame
    simp only [index?_bind, if_pos, if_neg hname, if_neg (Ne.symm hname)] at hfirst hsecond
    exact ⟨hfirst.symm, hsecond⟩
  · rintro ⟨hfirst, hsecond⟩
    rw [bind, bind, assign_of_lookup hfirst, assign_of_lookup hsecond]

/-!
## Lists of assignments
-/

def bindAll (table : Table) (assignments : List (String × Nat)) : Table :=
  assignments.foldl (fun bound assignment => bound.bind assignment.1 assignment.2) table

@[simp] theorem bindAll_nil (table : Table) : table.bindAll [] = table := rfl

@[simp] theorem bindAll_cons (table : Table) (name : String) (index : Nat)
    (rest : List (String × Nat)) :
    table.bindAll ((name, index) :: rest) = (table.bind name index).bindAll rest := rfl

theorem bindAll_append (table : Table) (front back : List (String × Nat)) :
    table.bindAll (front ++ back) = (table.bindAll front).bindAll back :=
  List.foldl_append

theorem index?_bindAll_of_not_mem
    {name : String} {assignments : List (String × Nat)}
    (hname : name ∉ assignments.map Prod.fst) (table : Table) :
    (table.bindAll assignments).index? name = table.index? name := by
  induction assignments generalizing table with
  | nil => rfl
  | cons assignment rest ih =>
      rcases assignment with ⟨other, index⟩
      simp only [List.map_cons, List.mem_cons, not_or] at hname
      rw [bindAll_cons, ih hname.right, index?_bind, if_neg hname.left]

theorem index?_bindAll_last
    {name : String} {back : List (String × Nat)} (hback : name ∉ back.map Prod.fst)
    (table : Table) (front : List (String × Nat)) (index : Nat) :
    (table.bindAll (front ++ (name, index) :: back)).index? name = some index := by
  rw [bindAll_append, bindAll_cons, index?_bindAll_of_not_mem hback, index?_bind, if_pos rfl]

theorem names_bindAll
    {table : Table} {seen : List String} (hnames : table.names = seen.eraseDups)
    (assignments : List (String × Nat)) :
    (table.bindAll assignments).names = (seen ++ assignments.map Prod.fst).eraseDups := by
  induction assignments generalizing table seen with
  | nil => simpa using hnames
  | cons assignment rest ih =>
      rcases assignment with ⟨name, index⟩
      rw [bindAll_cons, ih (names_bind_of_eraseDups hnames name index)]
      simp

theorem size_bindAll_le (table : Table) (assignments : List (String × Nat)) :
    (table.bindAll assignments).size ≤ table.size + assignments.length := by
  induction assignments generalizing table with
  | nil => exact Nat.le_refl table.size
  | cons assignment rest ih =>
      rcases assignment with ⟨name, index⟩
      have hstep := size_bind_le table name index
      have hrest := ih (table.bind name index)
      rw [bindAll_cons, List.length_cons]
      omega

theorem highWater_bindAll_zipIdx (table : Table) (names : List String) (first : Nat) :
    (table.bindAll (names.zipIdx first)).highWater =
      if names = [] then table.highWater else max table.highWater (first + names.length) := by
  induction names generalizing table first with
  | nil => rfl
  | cons name rest ih =>
      rw [List.zipIdx_cons, bindAll_cons, ih, highWater_bind, if_neg (List.cons_ne_nil name rest),
        List.length_cons]
      split
      · rename_i hrest
        rw [hrest, List.length_nil]
      · omega

end Table
end HostBridge
