import HostBridge.Proofs.Primitive.WholeNumbers
import Mathlib.Order.MinMax

/-!
# Order of whole numbers

Comparing promoted operands compares the numbers that they stand for, whatever their tags.  So whole
numbers have the order of the integers, and the larger or the smaller of two is one of them in the joint
width.
-/

namespace HostBridge
namespace Whole

/-!
## Comparison
-/

theorem compare_eq (left right : Whole) :
    Arithmetic.compare left.value right.value =
      .ok (some (compareOfLessAndEq left.number right.number)) := by
  have hleft := fits_left left right
  have hright := fits_right left right
  rw [Arithmetic.compare, promote_value]
  cases hwidth : jointWidth left right with
  | integer =>
      rw [hwidth] at hleft hright
      show Except.ok (some (compareOfLessAndEq (Int32.ofInt _) (Int32.ofInt _))) = _
      simp only [compareOfLessAndEq, int32_ofInt_lt_iff hleft hright, int32_ofInt_inj hleft hright]
  | long =>
      rw [hwidth] at hleft hright
      show Except.ok (some (compareOfLessAndEq (Int64.ofInt _) (Int64.ofInt _))) = _
      simp only [compareOfLessAndEq, int64_ofInt_lt_iff hleft hright, int64_ofInt_inj hleft hright]

theorem lt_eq (left right : Whole) :
    Arithmetic.lt left.value right.value = .ok (.ofBool (left.number < right.number)) := by
  rw [Arithmetic.lt, compare_eq]
  show Except.ok (Value.ofBool (some (compareOfLessAndEq _ _) = some .lt)) = _
  simp only [Option.some.injEq, compareOfLessAndEq_eq_lt]

theorem eq_eq (left right : Whole) :
    Arithmetic.eq left.value right.value = .ok (.ofBool (left.number = right.number)) := by
  have heq : Arithmetic.eq left.value right.value =
      (do return .ofBool ((← Arithmetic.compare left.value right.value) = some .eq)) := rfl
  rw [heq, compare_eq]
  show Except.ok (Value.ofBool (some (compareOfLessAndEq _ _) = some .eq)) = _
  simp only [Option.some.injEq, compareOfLessAndEq_eq_eq Int.le_refl Int.not_le]

/-!
## The larger and the smaller number
-/

/-- An operation gives one of two numbers, in their joint width. -/
structure Selects (operation : Value → Value → Except Failure Value) (choose : Int → Int → Int) :
    Prop where
  eq_or_eq : forall left right, choose left right = left ∨ choose left right = right
  eq_ofInt : forall left right : Whole,
    operation left.value right.value =
      .ok ((jointWidth left right).ofInt (choose left.number right.number)).value

namespace Selects

variable {operation : Value → Value → Except Failure Value} {choose : Int → Int → Int}

theorem fits (hselects : Selects operation choose) (left right : Whole) :
    (jointWidth left right).Fits (choose left.number right.number) := by
  rcases hselects.eq_or_eq left.number right.number with hleft | hright
  · rw [hleft]
    exact fits_left left right
  · rw [hright]
    exact fits_right left right

theorem comm
    (hselects : Selects operation choose) (hcomm : forall x y, choose x y = choose y x)
    (left right : Whole) : operation left.value right.value = operation right.value left.value := by
  rw [hselects.eq_ofInt, hselects.eq_ofInt, hcomm, jointWidth, Width.join_comm, ← jointWidth]

theorem bind_eq (hselects : Selects operation choose) (first second third : Whole) :
    (do operation (← operation first.value second.value) third.value) =
      .ok (((jointWidth first second).join third.width).ofInt
        (choose (choose first.number second.number) third.number)).value := by
  have hthird := hselects.eq_ofInt
    ((jointWidth first second).ofInt (choose first.number second.number)) third
  rw [jointWidth_ofInt_left, number_ofInt_of_fits (hselects.fits first second)] at hthird
  rw [hselects.eq_ofInt first second]
  exact hthird

theorem assoc
    (hselects : Selects operation choose) (hcomm : forall x y, choose x y = choose y x)
    (hassoc : forall x y z, choose (choose x y) z = choose x (choose y z))
    (first second third : Whole) :
    (do operation (← operation first.value second.value) third.value) =
      (do operation first.value (← operation second.value third.value)) := by
  have hturned : (do operation first.value (← operation second.value third.value)) =
      (do operation (← operation second.value third.value) first.value) := by
    rw [hselects.eq_ofInt second third]
    exact hselects.comm hcomm first _
  rw [hturned, hselects.bind_eq, hselects.bind_eq, hassoc, hcomm first.number, jointWidth, jointWidth,
    Width.join_assoc, Width.join_comm first.width]

end Selects

theorem selects_max : Selects Arithmetic.max max := by
  refine ⟨max_choice, ?_⟩
  intro left right
  have hleft := fits_left left right
  have hright := fits_right left right
  rw [Arithmetic.max, promote_value, max_def_lt]
  cases hwidth : jointWidth left right with
  | integer =>
      rw [hwidth] at hleft hright
      show Except.ok (Value.integer (if Int32.ofInt _ < Int32.ofInt _ then _ else _)) = _
      simp only [int32_ofInt_lt_iff hleft hright]
      split <;> rfl
  | long =>
      rw [hwidth] at hleft hright
      show Except.ok (Value.long (if Int64.ofInt _ < Int64.ofInt _ then _ else _)) = _
      simp only [int64_ofInt_lt_iff hleft hright]
      split <;> rfl

theorem selects_min : Selects Arithmetic.min min := by
  refine ⟨min_choice, ?_⟩
  intro left right
  have hleft := fits_left left right
  have hright := fits_right left right
  rw [Arithmetic.min, promote_value, min_comm, min_def_lt]
  cases hwidth : jointWidth left right with
  | integer =>
      rw [hwidth] at hleft hright
      show Except.ok (Value.integer (if Int32.ofInt _ < Int32.ofInt _ then _ else _)) = _
      simp only [int32_ofInt_lt_iff hright hleft]
      split <;> rfl
  | long =>
      rw [hwidth] at hleft hright
      show Except.ok (Value.long (if Int64.ofInt _ < Int64.ofInt _ then _ else _)) = _
      simp only [int64_ofInt_lt_iff hright hleft]
      split <;> rfl

theorem min_max_eq (left right : Whole) :
    (do Arithmetic.min left.value (← Arithmetic.max left.value right.value)) =
      .ok ((jointWidth left right).ofInt left.number).value := by
  have hmin := selects_min.eq_ofInt left
    ((jointWidth left right).ofInt (max left.number right.number))
  have hwidth : left.width.join (jointWidth left right) = jointWidth left right := by
    rw [jointWidth, ← Width.join_assoc, Width.join_self]
  rw [jointWidth_ofInt_right, hwidth, number_ofInt_of_fits (selects_max.fits left right),
    min_eq_left (le_max_left _ _)] at hmin
  rw [selects_max.eq_ofInt]
  exact hmin

/-!
## The laws of the order
-/

def IsTrue (result : Except Failure Value) : Prop :=
  result = .ok (.ofBool true)

theorem isTrue_ofBool_iff (proposition : Prop) [Decidable proposition] :
    IsTrue (.ok (.ofBool proposition)) <-> proposition := by
  by_cases hproposition : proposition
  · simp [IsTrue, hproposition]
  · simp [IsTrue, hproposition, Value.ofBool, Datum.ofBool]

def Less (left right : Whole) : Prop :=
  IsTrue (Arithmetic.lt left.value right.value)

def Equal (left right : Whole) : Prop :=
  IsTrue (Arithmetic.eq left.value right.value)

theorem less_iff (left right : Whole) : Less left right <-> left.number < right.number := by
  rw [Less, lt_eq, isTrue_ofBool_iff]

theorem equal_iff (left right : Whole) : Equal left right <-> left.number = right.number := by
  rw [Equal, eq_eq, isTrue_ofBool_iff]

structure OrderLaws (first second third : Whole) : Prop where
  lt_number : Arithmetic.lt first.value second.value = .ok (.ofBool (first.number < second.number))
  eq_number : Arithmetic.eq first.value second.value = .ok (.ofBool (first.number = second.number))
  trichotomy :
    (Less first second ∧ ¬Equal first second ∧ ¬Less second first) ∨
      (¬Less first second ∧ Equal first second ∧ ¬Less second first) ∨
        (¬Less first second ∧ ¬Equal first second ∧ Less second first)
  equal_refl : Equal first first
  equal_symm : Equal first second -> Equal second first
  equal_trans : Equal first second -> Equal second third -> Equal first third
  less_trans : Less first second -> Less second third -> Less first third
  fits_first : (jointWidth first second).Fits first.number
  fits_second : (jointWidth first second).Fits second.number
  max_number :
    Arithmetic.max first.value second.value =
      .ok ((jointWidth first second).ofInt (max first.number second.number)).value
  min_number :
    Arithmetic.min first.value second.value =
      .ok ((jointWidth first second).ofInt (min first.number second.number)).value
  max_comm : Arithmetic.max first.value second.value = Arithmetic.max second.value first.value
  min_comm : Arithmetic.min first.value second.value = Arithmetic.min second.value first.value
  max_assoc :
    (do Arithmetic.max (← Arithmetic.max first.value second.value) third.value) =
      (do Arithmetic.max first.value (← Arithmetic.max second.value third.value))
  min_assoc :
    (do Arithmetic.min (← Arithmetic.min first.value second.value) third.value) =
      (do Arithmetic.min first.value (← Arithmetic.min second.value third.value))
  min_max :
    (do Arithmetic.min first.value (← Arithmetic.max first.value second.value)) =
      .ok ((jointWidth first second).ofInt first.number).value
  max_of_less :
    Less first second ->
      Arithmetic.max first.value second.value =
        .ok ((jointWidth first second).ofInt second.number).value
  min_of_less :
    Less first second ->
      Arithmetic.min first.value second.value =
        .ok ((jointWidth first second).ofInt first.number).value

/-- Integers, characters and longs are ordered by the numbers that they stand for, whatever their tags,
and the larger and the smaller of two are given in the joint width. -/
theorem order_laws (first second third : Whole) : OrderLaws first second third where
  lt_number := lt_eq first second
  eq_number := eq_eq first second
  trichotomy := by
    simp only [less_iff, equal_iff]
    omega
  equal_refl := (equal_iff first first).mpr rfl
  equal_symm := by
    intro hequal
    rw [equal_iff] at hequal ⊢
    exact hequal.symm
  equal_trans := by
    intro hfirst hsecond
    rw [equal_iff] at hfirst hsecond ⊢
    exact hfirst.trans hsecond
  less_trans := by
    intro hfirst hsecond
    rw [less_iff] at hfirst hsecond ⊢
    exact Int.lt_trans hfirst hsecond
  fits_first := fits_left first second
  fits_second := fits_right first second
  max_number := selects_max.eq_ofInt first second
  min_number := selects_min.eq_ofInt first second
  max_comm := selects_max.comm Int.max_comm first second
  min_comm := selects_min.comm Int.min_comm first second
  max_assoc := selects_max.assoc Int.max_comm Int.max_assoc first second third
  min_assoc := selects_min.assoc Int.min_comm Int.min_assoc first second third
  min_max := min_max_eq first second
  max_of_less := by
    intro hless
    rw [selects_max.eq_ofInt, max_eq_right_of_lt ((less_iff first second).mp hless)]
  min_of_less := by
    intro hless
    rw [selects_min.eq_ofInt, min_eq_left_of_lt ((less_iff first second).mp hless)]

/-- The negative one, a character and a long, in ascending order. -/
theorem order_laws_mixed :
    let first := Whole.integer (-1)
    let second := Whole.character 65
    let third := Whole.long 4294967296
    Less first second ∧ Less second third ∧ Less first third ∧
      Arithmetic.max first.value second.value = .ok (.integer 65) ∧
      Arithmetic.min second.value third.value = .ok (.long 65) := by
  intro first second third
  have hfirst : Less first second := (less_iff _ _).mpr (by decide)
  have hsecond : Less second third := (less_iff _ _).mpr (by decide)
  have hlaws := order_laws first second third
  exact ⟨hfirst, hsecond, hlaws.less_trans hfirst hsecond, hlaws.max_of_less hfirst,
    (order_laws second third first).min_of_less hsecond⟩

end Whole
end HostBridge
