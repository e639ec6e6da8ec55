import HostBridge.Proofs.Primitive.WholeNumbers

/-!
# Arithmetic that wraps

Sums, differences and products of whole numbers are computed in their joint width and wrap there.  A
negation stays in its operand's own width.  So a subtraction is the addition of a negation unless the
negation has wrapped in a width that is not the joint one.
-/

namespace HostBridge
namespace Whole

theorem add_eq (left right : Whole) :
    Arithmetic.add left.value right.value =
      .ok ((jointWidth left right).ofInt (left.number + right.number)).value := by
  rw [Arithmetic.add, promote_value]
  cases jointWidth left right with
  | integer =>
      show Except.ok (Value.integer (Int32.ofInt _ + Int32.ofInt _)) = _
      rw [← Int32.ofInt_add]
      rfl
  | long =>
      show Except.ok (Value.long (Int64.ofInt _ + Int64.ofInt _)) = _
      rw [← Int64.ofInt_add]
      rfl

theorem sub_eq (left right : Whole) :
    Arithmetic.sub left.value right.value =
      .ok ((jointWidth left right).ofInt (left.number - right.number)).value := by
  rw [Arithmetic.sub, promote_value]
  cases jointWidth left right with
  | integer =>
      show Except.ok (Value.integer (Int32.ofInt _ - Int32.ofInt _)) = _
      rw [← Int32.ofInt_sub]
      rfl
  | long =>
      show Except.ok (Value.long (Int64.ofInt _ - Int64.ofInt _)) = _
      rw [← Int64.ofInt_sub]
      rfl

theorem mul_eq (left right : Whole) :
    Arithmetic.mul left.value right.value =
      .ok ((jointWidth left right).ofInt (left.number * right.number)).value := by
  rw [Arithmetic.mul, promote_value]
  cases jointWidth left right with
  | integer =>
      show Except.ok (Value.integer (Int32.ofInt _ * Int32.ofInt _)) = _
      rw [← Int32.ofInt_mul]
      rfl
  | long =>
      show Except.ok (Value.long (Int64.ofInt _ * Int64.ofInt _)) = _
      rw [← Int64.ofInt_mul]
      rfl

theorem neg_eq (whole : Whole) :
    Arithmetic.neg whole.value = .ok (whole.width.ofInt (-whole.number)).value := by
  cases whole with
  | integer word =>
      show Except.ok (Value.integer (-word)) = .ok (.integer (Int32.ofInt (-word.toInt)))
      rw [Int32.ofInt_neg, Int32.ofInt_toInt]
  | character unit =>
      show Except.ok (Value.integer (-Int32.ofNat unit.toNat)) =
        .ok (.integer (Int32.ofInt (-(unit.toNat : Int))))
      rw [Int32.ofInt_neg, Int32.ofInt_eq_ofNat]
  | long word =>
      show Except.ok (Value.long (-word)) = .ok (.long (Int64.ofInt (-word.toInt)))
      rw [Int64.ofInt_neg, Int64.ofInt_toInt]

/-!
## Negation
-/

theorem neg_eq_sub (whole : Whole) :
    Arithmetic.neg whole.value = Arithmetic.sub (.integer 0) whole.value := by
  have hsub := sub_eq (.integer 0) whole
  rw [jointWidth, width, Width.integer_join] at hsub
  rw [neg_eq, ← Int.zero_sub]
  exact hsub.symm

theorem number_ofInt_neg (whole : Whole) :
    (whole.width.ofInt (-whole.number)).number + whole.number =
      if whole.number = whole.width.lowest then -(whole.width.size : Int) else 0 := by
  have hfits := whole.fits_number
  split
  · rename_i hlowest
    have hwraps : whole.width.Wraps (-whole.number) whole.width.lowest := by
      refine ⟨hlowest ▸ hfits, ?_⟩
      rw [hlowest, Width.lowest, Width.size, Int.modEq_iff_dvd]
      exact ⟨1, by omega⟩
    rw [← hwraps.ofInt_eq, number_ofInt_of_fits hwraps.fits, hlowest, Width.lowest, Width.size]
    omega
  · rename_i hlowest
    have hopposite : whole.width.Fits (-whole.number) := by
      rw [Width.Fits, Width.lowest] at hfits ⊢
      rw [Width.lowest] at hlowest
      omega
    rw [number_ofInt_of_fits hopposite]
    omega

theorem size_join_dvd_size_iff (first second : Width) :
    ((first.join second).size : Int) ∣ -(second.size : Int) <->
      ¬(first = .long ∧ second = .integer) := by
  cases first <;> cases second <;> decide

theorem isLowestInteger_iff (whole : Whole) :
    whole = .integer Int32.minValue <-> whole.width = .integer ∧ whole.number = whole.width.lowest := by
  cases whole with
  | integer word =>
      rw [integer.injEq, ← Int32.toInt_inj]
      exact ⟨fun hword => ⟨rfl, hword⟩, fun hlowest => hlowest.2⟩
  | character unit =>
      constructor
      · intro hword
        cases hword
      · rintro ⟨_, hlowest⟩
        have hunit : (0 : Int) ≤ unit.toNat := Int.natCast_nonneg _
        rw [number, width, Width.lowest, Width.half] at hlowest
        omega
  | long word =>
      constructor
      · intro hword
        cases hword
      · rintro ⟨hwidth, _⟩
        cases hwidth

theorem add_neg_eq_sub_iff (left right : Whole) :
    (do Arithmetic.add left.value (← Arithmetic.neg right.value)) =
        Arithmetic.sub left.value right.value <->
      ¬(left.width = .long ∧ right = .integer Int32.minValue) := by
  have hneg : (do Arithmetic.add left.value (← Arithmetic.neg right.value)) =
      Arithmetic.add left.value (right.width.ofInt (-right.number)).value := by
    rw [neg_eq]
    rfl
  have hdifference :
      left.number + (right.width.ofInt (-right.number)).number - (left.number - right.number) =
        (right.width.ofInt (-right.number)).number + right.number := by
    omega
  rw [hneg, add_eq, sub_eq, Except.ok.injEq, value_inj, jointWidth_ofInt_right, ← jointWidth,
    Width.ofInt_eq_ofInt_iff, Int.modEq_comm, Int.modEq_iff_dvd, hdifference, number_ofInt_neg,
    isLowestInteger_iff]
  split
  · rename_i hlowest
    rw [jointWidth, size_join_dvd_size_iff]
    simp only [hlowest, and_true]
  · rename_i hlowest
    simp only [hlowest, Int.dvd_zero, and_false, not_false_eq_true]

/-- The lowest integer is its own opposite, but not among longs. -/
example :
    (do Arithmetic.add (.long 5) (← Arithmetic.neg (.integer Int32.minValue))) =
        .ok (.long (-2147483643)) ∧
      Arithmetic.sub (.long 5) (.integer Int32.minValue) = .ok (.long 2147483653) :=
  ⟨rfl, rfl⟩

/-!
## The laws together
-/

/-- A result has the tag of a width, and its number is the only one of the width that is congruent to
the exact number. -/
def IsWrapped (result : Except Failure Value) (width : Width) (exact : Int) : Prop :=
  exists number,
    width.Wraps exact number ∧ (forall other, width.Wraps exact other -> other = number) ∧
      result = .ok (width.ofInt number).value

theorem isWrapped_ofInt (width : Width) (exact : Int) :
    IsWrapped (.ok (width.ofInt exact).value) width exact := by
  have hwraps := width.wraps_bmod exact
  refine ⟨exact.bmod width.size, hwraps, ?_, ?_⟩
  · intro other hother
    exact hother.unique hwraps
  · rw [hwraps.ofInt_eq]

/-- Sums, differences and products of integers, characters and longs wrap in the joint width of their
operands, which is that of longs if one of them is a long.  A negation is a difference from zero.  A
difference is the sum with the negation except where a long meets the lowest integer. -/
theorem arithmetic_wraps (left right : Whole) :
    IsWrapped (Arithmetic.add left.value right.value) (jointWidth left right)
        (left.number + right.number) ∧
      IsWrapped (Arithmetic.sub left.value right.value) (jointWidth left right)
        (left.number - right.number) ∧
      IsWrapped (Arithmetic.mul left.value right.value) (jointWidth left right)
        (left.number * right.number) ∧
      Arithmetic.neg left.value = Arithmetic.sub (.integer 0) left.value ∧
      ((do Arithmetic.add left.value (← Arithmetic.neg right.value)) =
          Arithmetic.sub left.value right.value <->
        ¬(left.width = .long ∧ right = .integer Int32.minValue)) := by
  refine ⟨?_, ?_, ?_, neg_eq_sub left, add_neg_eq_sub_iff left right⟩
  · rw [add_eq]
    exact isWrapped_ofInt _ _
  · rw [sub_eq]
    exact isWrapped_ofInt _ _
  · rw [mul_eq]
    exact isWrapped_ofInt _ _

end Whole
end HostBridge
