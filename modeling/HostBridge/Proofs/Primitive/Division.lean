import HostBridge.Proofs.Primitive.Wrapping

/-!
# Division and remainder

Whole numbers are divided in their joint width, toward zero.  The quotient fits that width unless the
lowest number is divided by minus one; the remainder always does.  Product and sum lead back from both
to the dividend, also where the quotient has wrapped.
-/

namespace HostBridge

namespace Width

/-!
## Bounds
-/

theorem natAbs_le_half {width : Width} {number : Int} (hfits : width.Fits number) :
    number.natAbs ≤ width.half := by
  rcases hfits with ⟨hlow, hhigh⟩
  rw [lowest] at hlow
  omega

theorem fits_of_natAbs_lt {width : Width} {number : Int} (hlt : number.natAbs < width.half) :
    width.Fits number := by
  rw [Fits, lowest]
  omega

theorem fits_tmod
    {width : Width} {divisor : Int} (hdivisor : width.Fits divisor) (hne : divisor ≠ 0)
    (dividend : Int) : width.Fits (dividend.tmod divisor) := by
  apply fits_of_natAbs_lt
  rw [Int.natAbs_tmod]
  exact Nat.lt_of_lt_of_le (Nat.mod_lt _ (Int.natAbs_pos.mpr hne)) (natAbs_le_half hdivisor)

theorem fits_tdiv
    {width : Width} {dividend divisor : Int} (hdividend : width.Fits dividend)
    (hfar : 1 < divisor.natAbs) : width.Fits (dividend.tdiv divisor) := by
  apply fits_of_natAbs_lt
  rw [Int.natAbs_tdiv]
  calc dividend.natAbs / divisor.natAbs
      ≤ width.half / divisor.natAbs := Nat.div_le_div_right (natAbs_le_half hdividend)
    _ < width.half := Nat.div_lt_self width.half_pos hfar

theorem fits_tdiv_iff
    {width : Width} {dividend divisor : Int} (hdividend : width.Fits dividend) (hne : divisor ≠ 0) :
    width.Fits (dividend.tdiv divisor) <-> ¬(dividend = width.lowest ∧ divisor = -1) := by
  have hhalf := width.half_pos
  have hcases : divisor = 1 ∨ divisor = -1 ∨ 1 < divisor.natAbs := by
    omega
  rcases hcases with rfl | rfl | hfar
  · rw [Int.tdiv_one]
    simp [hdividend]
  · rw [Int.tdiv_neg, Int.tdiv_one]
    simp only [Fits, lowest, and_true] at hdividend ⊢
    omega
  · have hdivisor : divisor ≠ -1 := by
      rintro rfl
      exact absurd hfar (by decide)
    simp [fits_tdiv hdividend hfar, hdivisor]

/-- A width has a quotient for every dividend in it and every divisor but zero.  The lowest number
divided by minus one is itself, and every other quotient is exact. -/
theorem exists_quotient
    {width : Width} {dividend divisor : Int} (hdividend : width.Fits dividend) (hne : divisor ≠ 0) :
    exists quotient,
      width.Wraps (dividend.tdiv divisor) quotient ∧
        if dividend = width.lowest ∧ divisor = -1 then
          quotient = width.lowest ∧ dividend.tmod divisor = 0
        else
          quotient = dividend.tdiv divisor := by
  split
  · rename_i hlowest
    rcases hlowest with ⟨rfl, rfl⟩
    refine ⟨width.lowest, ⟨hdividend, ?_⟩, rfl, ?_⟩
    · rw [Int.tdiv_neg, Int.tdiv_one, Int.modEq_iff_dvd, lowest, size]
      exact ⟨1, by omega⟩
    · rw [Int.tmod_neg, Int.tmod_one]
  · rename_i hexact
    have hfits := (fits_tdiv_iff hdividend hne).mpr hexact
    exact ⟨_, ⟨hfits, .rfl⟩, rfl⟩

end Width

/-!
## Quotients and remainders
-/

namespace Whole

theorem int32_bounds {number : Int} (hfits : Width.integer.Fits number) :
    Int32.minValue.toInt ≤ number ∧ number ≤ Int32.maxValue.toInt :=
  ⟨hfits.1, Int.le_of_lt_add_one hfits.2⟩

theorem int64_bounds {number : Int} (hfits : Width.long.Fits number) :
    Int64.minValue.toInt ≤ number ∧ number ≤ Int64.maxValue.toInt :=
  ⟨hfits.1, Int.le_of_lt_add_one hfits.2⟩

end Whole

open Whole

/-- Quotients or remainders: those of exact numbers, which the words of a width follow, and those of
doubles. -/
structure Division where
  exact : Int → Int → Int
  integers : Int32 → Int32 → Int32
  longs : Int64 → Int64 → Int64
  doubles : Double → Double → Double
  integers_ofInt : forall {left right : Int},
    Width.integer.Fits left -> Width.integer.Fits right ->
      integers (Int32.ofInt left) (Int32.ofInt right) = Int32.ofInt (exact left right)
  longs_ofInt : forall {left right : Int},
    Width.long.Fits left -> Width.long.Fits right ->
      longs (Int64.ofInt left) (Int64.ofInt right) = Int64.ofInt (exact left right)

namespace Division

def quotient : Division where
  exact := Int.tdiv
  integers := (· / ·)
  longs := (· / ·)
  doubles := Double.div
  integers_ofInt := by
    intro left right hleft hright
    rw [Int32.ofInt_tdiv (int32_bounds hleft).1 (int32_bounds hleft).2 (int32_bounds hright).1
      (int32_bounds hright).2]
  longs_ofInt := by
    intro left right hleft hright
    rw [Int64.ofInt_tdiv (int64_bounds hleft).1 (int64_bounds hleft).2 (int64_bounds hright).1
      (int64_bounds hright).2]

def remainder : Division where
  exact := Int.tmod
  integers := (· % ·)
  longs := (· % ·)
  doubles := Double.rem
  integers_ofInt := by
    intro left right hleft hright
    rw [Int32.ofInt_tmod (int32_bounds hleft).1 (int32_bounds hleft).2 (int32_bounds hright).1
      (int32_bounds hright).2]
  longs_ofInt := by
    intro left right hleft hright
    rw [Int64.ofInt_tmod (int64_bounds hleft).1 (int64_bounds hleft).2 (int64_bounds hright).1
      (int64_bounds hright).2]

def apply (division : Division) (left right : Value) : Except Failure Value := do
  match ← Arithmetic.promote left right with
  | .integers x y =>
      if y = 0 then .error .divisionByZero else return .integer (division.integers x y)
  | .longs x y => if y = 0 then .error .divisionByZero else return .long (division.longs x y)
  | .doubles x y => return .double (division.doubles x y)

theorem quotient_apply (left right : Value) :
    quotient.apply left right = Arithmetic.div left right := rfl

theorem remainder_apply (left right : Value) :
    remainder.apply left right = Arithmetic.rem left right := rfl

theorem apply_value (division : Division) (left right : Whole) :
    division.apply left.value right.value =
      if right.number = 0 then .error .divisionByZero
      else .ok ((jointWidth left right).ofInt (division.exact left.number right.number)).value := by
  have hleft := fits_left left right
  have hright := fits_right left right
  rw [apply, promote_value]
  cases hwidth : jointWidth left right with
  | integer =>
      rw [hwidth] at hleft hright
      have hzero : Int32.ofInt right.number = 0 <-> right.number = 0 :=
        int32_ofInt_inj hright Width.integer.fits_zero
      show (if Int32.ofInt right.number = 0 then Except.error Failure.divisionByZero
        else Except.ok (Value.integer (division.integers _ (Int32.ofInt right.number)))) = _
      simp only [hzero, division.integers_ofInt hleft hright]
      rfl
  | long =>
      rw [hwidth] at hleft hright
      have hzero : Int64.ofInt right.number = 0 <-> right.number = 0 :=
        int64_ofInt_inj hright Width.long.fits_zero
      show (if Int64.ofInt right.number = 0 then Except.error Failure.divisionByZero
        else Except.ok (Value.long (division.longs _ (Int64.ofInt right.number)))) = _
      simp only [hzero, division.longs_ofInt hleft hright]
      rfl

end Division

namespace Whole

theorem div_eq (left right : Whole) :
    Arithmetic.div left.value right.value =
      if right.number = 0 then .error .divisionByZero
      else .ok ((jointWidth left right).ofInt (left.number.tdiv right.number)).value :=
  Division.quotient.apply_value left right

theorem rem_eq (left right : Whole) :
    Arithmetic.rem left.value right.value =
      if right.number = 0 then .error .divisionByZero
      else .ok ((jointWidth left right).ofInt (left.number.tmod right.number)).value :=
  Division.remainder.apply_value left right

/-!
## The division law
-/

theorem mul_add_eq (dividend divisor : Whole) (quotient remainder : Int) :
    (do Arithmetic.add
          (← Arithmetic.mul ((jointWidth dividend divisor).ofInt quotient).value divisor.value)
          ((jointWidth dividend divisor).ofInt remainder).value) =
      .ok ((jointWidth dividend divisor).ofInt (quotient * divisor.number + remainder)).value := by
  have hwidth : (jointWidth dividend divisor).join divisor.width = jointWidth dividend divisor := by
    rw [jointWidth, Width.join_assoc, Width.join_self]
  generalize jointWidth dividend divisor = width at hwidth ⊢
  have hproduct : Arithmetic.mul (width.ofInt quotient).value divisor.value =
      .ok (width.ofInt ((width.ofInt quotient).number * divisor.number)).value := by
    rw [mul_eq, jointWidth_ofInt_left, hwidth]
  have hcongruent :
      (width.ofInt ((width.ofInt quotient).number * divisor.number)).number +
          (width.ofInt remainder).number ≡
        quotient * divisor.number + remainder [ZMOD width.size] := by
    apply Int.ModEq.add _ (number_ofInt_modEq width remainder)
    exact (number_ofInt_modEq width _).trans ((number_ofInt_modEq width quotient).mul_right _)
  have hsum : Arithmetic.add (width.ofInt ((width.ofInt quotient).number * divisor.number)).value
      (width.ofInt remainder).value =
        .ok (width.ofInt (quotient * divisor.number + remainder)).value := by
    rw [add_eq, jointWidth_ofInt_left, width_ofInt, Width.join_self,
      (width.ofInt_eq_ofInt_iff _ _).mpr hcongruent]
  rw [hproduct]
  exact hsum

theorem natAbs_tmod_lt {divisor : Int} (hne : divisor ≠ 0) (dividend : Int) :
    (dividend.tmod divisor).natAbs < divisor.natAbs := by
  rw [Int.natAbs_tmod]
  exact Nat.mod_lt _ (Int.natAbs_pos.mpr hne)

theorem tmod_eq_zero_or_sign_eq (dividend divisor : Int) :
    dividend.tmod divisor = 0 ∨ (dividend.tmod divisor).sign = dividend.sign := by
  have hsign := Int.sign_tmod dividend divisor
  split at hsign
  · exact Or.inl (Int.sign_eq_zero_iff_zero.mp hsign)
  · exact Or.inr hsign

/-- Integers, characters and longs are divided in the joint width of dividend and divisor, toward zero.
The remainder is smaller than the divisor and has the sign of the dividend, and product and sum give the
dividend back.  Only the lowest number of the width divided by minus one has itself as its quotient.  A
divisor of zero is refused. -/
theorem division_law (dividend divisor : Whole) :
    let width := jointWidth dividend divisor
    let quotientResult := Arithmetic.div dividend.value divisor.value
    let remainderResult := Arithmetic.rem dividend.value divisor.value
    (divisor.number ≠ 0 ->
      exists quotient remainder,
        width.Fits quotient ∧ quotientResult = .ok (width.ofInt quotient).value ∧
          width.Fits remainder ∧ remainderResult = .ok (width.ofInt remainder).value ∧
          width.Fits dividend.number ∧
          (do Arithmetic.add (← Arithmetic.mul (← quotientResult) divisor.value) (← remainderResult)) =
            .ok (width.ofInt dividend.number).value ∧
          remainder.natAbs < divisor.number.natAbs ∧
          (remainder = 0 ∨ remainder.sign = dividend.number.sign) ∧
          (if dividend.number = width.lowest ∧ divisor.number = -1 then
            quotient = width.lowest ∧ remainder = 0
          else
            quotient = dividend.number.tdiv divisor.number)) ∧
      (divisor.number = 0 ->
        quotientResult = .error (.argument "division by zero") ∧
          remainderResult = .error (.argument "division by zero")) := by
  intro width quotientResult remainderResult
  have hdividend := fits_left dividend divisor
  have hdivisor := fits_right dividend divisor
  have hdiv := div_eq dividend divisor
  have hrem := rem_eq dividend divisor
  constructor
  · intro hne
    rcases Width.exists_quotient hdividend hne with ⟨quotient, hwraps, hquotient⟩
    rw [if_neg hne, ← hwraps.ofInt_eq] at hdiv
    rw [if_neg hne] at hrem
    refine ⟨quotient, dividend.number.tmod divisor.number, hwraps.fits, hdiv,
      Width.fits_tmod hdivisor hne _, hrem, hdividend, ?_, natAbs_tmod_lt hne _,
      tmod_eq_zero_or_sign_eq _ _, hquotient⟩
    have hback := mul_add_eq dividend divisor (dividend.number.tdiv divisor.number)
      (dividend.number.tmod divisor.number)
    rw [Int.tdiv_mul_add_tmod, ← hwraps.ofInt_eq] at hback
    rw [show quotientResult = _ from hdiv, show remainderResult = _ from hrem]
    exact hback
  · intro hzero
    rw [if_pos hzero] at hdiv hrem
    exact ⟨hdiv, hrem⟩

/-- The lowest long divided by the integer minus one, and an integer by the character of code zero. -/
theorem division_law_lowest_and_zero :
    let lowest := Whole.long Int64.minValue
    let minusOne := Whole.integer (-1)
    let zero := Whole.character 0
    minusOne.number ≠ 0 ∧ lowest.number = Width.long.lowest ∧ minusOne.number = -1 ∧
      Arithmetic.div lowest.value minusOne.value = .ok lowest.value ∧
      Arithmetic.rem lowest.value minusOne.value = .ok (.long 0) ∧
      zero.number = 0 ∧
      Arithmetic.rem minusOne.value zero.value = .error (.argument "division by zero") := by
  intro lowest minusOne zero
  have hne : minusOne.number ≠ 0 := by decide
  have hlowest : lowest.number = Width.long.lowest := by decide
  have hminusOne : minusOne.number = -1 := by decide
  have hzero : zero.number = 0 := by decide
  rcases (division_law lowest minusOne).1 hne with
    ⟨quotient, remainder, _, hdiv, _, hrem, _, _, _, _, hcase⟩
  rw [if_pos ⟨hlowest, hminusOne⟩] at hcase
  rcases hcase with ⟨rfl, rfl⟩
  exact ⟨hne, hlowest, hminusOne, hdiv, hrem, hzero, ((division_law minusOne zero).2 hzero).2⟩

end Whole
end HostBridge
