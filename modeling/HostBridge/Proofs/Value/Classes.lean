import HostBridge.Value.Classes
import Mathlib.Data.Set.Card

/-!
# Classes of equal handles

Data are equal if their tags and their words are, and floating numbers count as words here.  This is an
equivalence, and what a hash is made of tells its classes apart.  So a hash map in which the first of
each class stays answers every handle of a list with the least position of an equal one, wherever the
handles are, and has as many entries as there are classes.
-/

namespace HostBridge

/-!
## Equal data
-/

namespace Datum

/-- One tag, and one number, code or word of bits under it. -/
inductive Matches : Datum → Datum → Prop where
  | integer {left right : Int32} :
      left.toInt = right.toInt -> Matches (.integer left) (.integer right)
  | character {left right : UInt16} :
      left.toNat = right.toNat -> Matches (.character left) (.character right)
  | long {left right : Int64} : left.toInt = right.toInt -> Matches (.long left) (.long right)
  | single {left right : Single} : left.bits = right.bits -> Matches (.single left) (.single right)
  | double {left right : Double} : left.bits = right.bits -> Matches (.double left) (.double right)

theorem Matches.eq {left right : Datum} (hmatches : Matches left right) : left = right := by
  cases hmatches with
  | integer hnumber => rw [Int32.toInt_inj.mp hnumber]
  | character hunit => rw [UInt16.toNat_inj.mp hunit]
  | long hnumber => rw [Int64.toInt_inj.mp hnumber]
  | single hbits => exact congrArg (fun bits => Datum.single ⟨bits⟩) hbits
  | double hbits => exact congrArg (fun bits => Datum.double ⟨bits⟩) hbits

theorem matches_self (datum : Datum) : Matches datum datum := by
  cases datum with
  | integer number => exact .integer rfl
  | character unit => exact .character rfl
  | long number => exact .long rfl
  | single number => exact .single rfl
  | double number => exact .double rfl

theorem beq_iff_matches (left right : Datum) : (left == right) = true <-> Matches left right := by
  rw [beq_iff_eq]
  constructor
  · intro heq
    rw [heq]
    exact matches_self right
  · exact Matches.eq

theorem equivalence_beq : Equivalence fun left right : Datum => (left == right) = true :=
  ⟨fun _ => BEq.rfl, BEq.symm, BEq.trans⟩

/-!
## What a hash is made of
-/

theorem toUInt64_injective : Function.Injective Int64.toUInt64 := by
  intro left right heq
  rw [← Int64.toInt64_toUInt64 left, heq, Int64.toInt64_toUInt64]

theorem toInt64_injective : Function.Injective Int32.toInt64 := by
  intro left right heq
  rw [← Int32.toInt_inj, ← Int32.toInt_toInt64, heq, Int32.toInt_toInt64]

/-- The number of the tag keeps the tags apart, and each word is widened without loss. -/
theorem hashData_injective : Function.Injective hashData := by
  intro left right heq
  cases left <;> cases right <;> injection heq with htag hword <;> try cases htag
  case integer left right => rw [toInt64_injective (toUInt64_injective hword)]
  case character left right => rw [UInt16.toUInt64_inj.mp hword]
  case long left right => rw [toUInt64_injective hword]
  case single left right => exact (Matches.single (UInt32.toUInt64_inj.mp hword)).eq
  case double left right => exact (Matches.double hword).eq

end Datum

/-!
## Equal handles
-/

namespace Handle

theorem beq_eq (left right : Handle) : (left == right) = (left.datum == right.datum) :=
  rfl

theorem hash_eq (handle : Handle) : hash handle = hash handle.datum.hashData :=
  rfl

instance : EquivBEq Handle where
  rfl := Datum.equivalence_beq.refl _
  symm := Datum.equivalence_beq.symm
  trans := Datum.equivalence_beq.trans

instance : LawfulHashable Handle where
  hash_eq left right heq := by
    rw [beq_eq, beq_iff_eq] at heq
    rw [hash_eq, hash_eq, heq]

instance setoid : Setoid Handle where
  r left right := (left == right) = true
  iseqv := ⟨fun _ => BEq.rfl, BEq.symm, BEq.trans⟩

theorem beq_iff_hashData (left right : Handle) :
    (left == right) = true <-> left.datum.hashData = right.datum.hashData := by
  rw [beq_eq, beq_iff_eq, Datum.hashData_injective.eq_iff]

end Handle

/-!
## The map of first handles
-/

namespace Classes

def met (handles : List Handle) : Set (Quotient Handle.setoid) :=
  {kind | exists handle, handle ∈ handles ∧ ⟦handle⟧ = kind}

theorem met_nil : met [] = ∅ := by
  ext kind
  simp [met]

theorem met_append_singleton (seen : List Handle) (handle : Handle) :
    met (seen ++ [handle]) = insert ⟦handle⟧ (met seen) := by
  ext kind
  simp only [met, List.mem_append, List.mem_singleton, Set.mem_ofPred_eq, Set.mem_insert_iff]
  constructor
  · intro hkind
    rcases hkind with ⟨other, hother | rfl, rfl⟩
    · exact Or.inr ⟨other, hother, rfl⟩
    · exact Or.inl rfl
  · intro hkind
    rcases hkind with rfl | ⟨other, hother, rfl⟩
    · exact ⟨handle, Or.inr rfl, rfl⟩
    · exact ⟨other, Or.inl hother, rfl⟩

theorem finite_met (handles : List Handle) : (met handles).Finite :=
  (List.finite_toSet handles).image fun handle => ⟦handle⟧

theorem mem_met_iff (seen : List Handle) (handle : Handle) :
    ⟦handle⟧ ∈ met seen <-> (seen.findIdx? (· == handle)).isSome := by
  rw [List.findIdx?_isSome, List.any_eq_true]
  constructor
  · intro hmet
    rcases hmet with ⟨other, hother, hclass⟩
    exact ⟨other, hother, Quotient.exact hclass⟩
  · intro hseen
    rcases hseen with ⟨other, hother, heq⟩
    exact ⟨other, hother, Quotient.sound heq⟩

/-- For every handle the map tells where the first equal one stands among those seen, and it has one
entry for each of their classes. -/
structure Records (first : Std.HashMap Handle Nat) (seen : List Handle) : Prop where
  getElem?_eq : forall handle, first[handle]? = seen.findIdx? (· == handle)
  size_eq : first.size = (met seen).ncard

theorem records_nil : Records {} [] := by
  refine ⟨fun handle => Std.HashMap.getElem?_empty, ?_⟩
  rw [met_nil, Set.ncard_empty, Std.HashMap.size_empty]

namespace Records

variable {first : Std.HashMap Handle Nat} {seen : List Handle}

theorem mem_iff (hrecords : Records first seen) (handle : Handle) :
    handle ∈ first <-> ⟦handle⟧ ∈ met seen := by
  rw [Std.HashMap.mem_iff_isSome_getElem?, hrecords.getElem?_eq, mem_met_iff]

theorem insertIfNew (hrecords : Records first seen) (handle : Handle) :
    Records (first.insertIfNew handle seen.length) (seen ++ [handle]) := by
  constructor
  · intro other
    have hmem : (handle == other) = true -> (handle ∈ first <-> first[other]?.isSome) := by
      intro heq
      rw [Std.HashMap.mem_congr heq, Std.HashMap.mem_iff_isSome_getElem?]
    rw [Std.HashMap.getElem?_insertIfNew, List.findIdx?_append, List.findIdx?_singleton,
      ← hrecords.getElem?_eq]
    cases hother : first[other]? with
    | some position =>
        have hknown : ¬((handle == other) = true ∧ handle ∉ first) := by
          intro h
          exact h.2 ((hmem h.1).mpr (by rw [hother]; rfl))
        rw [if_neg hknown, Option.some_or]
    | none =>
        rw [Option.none_or]
        by_cases heq : (handle == other) = true
        · have hnew : handle ∉ first := by
            rw [hmem heq, hother]
            exact Bool.false_ne_true
          rw [if_pos ⟨heq, hnew⟩, if_pos heq, Option.map_some, Nat.zero_add]
        · rw [if_neg fun h => heq h.1, if_neg heq, Option.map_none]
  · classical
    rw [Std.HashMap.size_insertIfNew, met_append_singleton,
      Set.ncard_insert_eq_ite (finite_met seen), hrecords.size_eq]
    simp only [hrecords.mem_iff]

end Records

/-!
## Entering a list
-/

theorem enter_cons
    (position : Nat) (first : Std.HashMap Handle Nat) (handle : Handle) (rest : List Handle) :
    enter position first (handle :: rest) =
      (first[handle]?.getD position ::
          (enter (position + 1) (first.insertIfNew handle position) rest).1,
        (enter (position + 1) (first.insertIfNew handle position) rest).2) := by
  rw [← Std.HashMap.getThenInsertIfNew?_fst, ← Std.HashMap.getThenInsertIfNew?_snd]
  rfl

theorem findIdx_append_cons_self (seen rest : List Handle) (handle : Handle) :
    (seen ++ handle :: rest).findIdx (· == handle) =
      (seen.findIdx? (· == handle)).getD seen.length := by
  rw [List.findIdx_eq_getD_findIdx?, List.findIdx?_append, List.findIdx?_cons, if_pos BEq.rfl]
  cases seen.findIdx? (· == handle) with
  | some position => rfl
  | none => rw [Option.none_or, Option.map_some, Option.getD_some, Option.getD_none, Nat.zero_add]

theorem enter_of_records
    {first : Std.HashMap Handle Nat} {seen : List Handle} (hrecords : Records first seen)
    (rest : List Handle) :
    (enter seen.length first rest).1 =
        (rest.map fun handle => (seen ++ rest).findIdx (· == handle)) ∧
      Records (enter seen.length first rest).2 (seen ++ rest) := by
  induction rest generalizing first seen with
  | nil =>
      rw [List.append_nil]
      exact ⟨rfl, hrecords⟩
  | cons handle rest ih =>
      have htail := ih (hrecords.insertIfNew handle)
      rw [List.length_append, List.length_singleton, List.append_assoc, List.singleton_append] at htail
      rw [enter_cons, List.map_cons, findIdx_append_cons_self, hrecords.getElem?_eq, htail.1]
      exact ⟨rfl, htail.2⟩

theorem firstPositions_eq (handles : List Handle) :
    firstPositions handles = handles.map fun handle => handles.findIdx (· == handle) :=
  (enter_of_records records_nil handles).1

theorem count_eq (handles : List Handle) : count handles = (met handles).ncard :=
  (enter_of_records records_nil handles).2.size_eq

/-- Two zeros, one word that is no number twice, and one number under three tags. -/
example :
    let handles : List Handle :=
      [⟨.fresh 0, .double ⟨0⟩⟩, ⟨.fresh 1, .double ⟨0x8000000000000000⟩⟩,
        ⟨.fresh 2, .single ⟨0x7FC00000⟩⟩, ⟨.fresh 3, .single ⟨0x7FC00000⟩⟩,
        ⟨.integerSlot 193, .integer 65⟩, ⟨.characterSlot 65, .character 65⟩, ⟨.fresh 4, .long 65⟩,
        ⟨.fresh 5, .integer 65⟩]
    firstPositions handles = [0, 1, 2, 2, 4, 5, 6, 4] := by
  intro handles
  rw [firstPositions_eq]
  decide

theorem isLeast_findIdx {handles : List Handle} {handle : Handle} (hhandle : handle ∈ handles) :
    IsLeast {position | exists other, handles[position]? = some other ∧ (other == handle) = true}
      (handles.findIdx (· == handle)) := by
  have hlength : handles.findIdx (· == handle) < handles.length :=
    List.findIdx_lt_length_of_exists ⟨handle, hhandle, BEq.rfl⟩
  constructor
  · exact ⟨_, List.getElem?_eq_getElem hlength, List.findIdx_getElem (p := (· == handle)) (w := hlength)⟩
  · intro position hequal
    rcases hequal with ⟨other, hother, heq⟩
    rcases List.getElem?_eq_some_iff.mp hother with ⟨hposition, rfl⟩
    apply Nat.le_of_not_lt
    intro hlt
    rw [List.not_of_lt_findIdx hlt] at heq
    cases heq

/-- Equality is an equivalence of data, by tag and word, and two handles are equal exactly if their
hashes are made of the same.  So a hash map in which the first of each class stays tells, for every
handle of a list, the least position of an equal one, and has one entry for each class. -/
theorem equal_handles_classified :
    (Equivalence fun left right : Datum => (left == right) = true) ∧
      (forall left right : Datum, (left == right) = true <-> left.Matches right) ∧
      (Equivalence fun left right : Handle => (left == right) = true) ∧
      (forall left right : Handle, (left == right) = (left.datum == right.datum)) ∧
      (forall left right : Handle,
        (left == right) = true <-> left.datum.hashData = right.datum.hashData) ∧
      (forall handle : Handle, hash handle = hash handle.datum.hashData) ∧
      forall handles : List Handle,
        List.Forall₂
            (fun handle first =>
              IsLeast {position | exists other, handles[position]? = some other ∧ other == handle} first)
            handles (firstPositions handles) ∧
          count handles = (met handles).ncard := by
  refine ⟨Datum.equivalence_beq, Datum.beq_iff_matches, Handle.setoid.iseqv, Handle.beq_eq,
    Handle.beq_iff_hashData, Handle.hash_eq, ?_⟩
  intro handles
  refine ⟨?_, count_eq handles⟩
  rw [firstPositions_eq, List.forall₂_map_right_iff, List.forall₂_same]
  intro handle hhandle
  exact isLeast_findIdx hhandle

end Classes
end HostBridge
