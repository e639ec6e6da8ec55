import HostBridge.Number.BinaryFormat

/-!
# Rounding of quotients

Rounding to a magnitude depends on the quotient alone, and the units of a magnitude round to the
magnitude.
-/

namespace HostBridge
namespace BinaryFormat

/-!
## Quotients
-/

theorem nearest_mul (numerator denominator : Nat) {factor : Nat} (hfactor : 0 < factor) :
    nearest (numerator * factor) (denominator * factor) = nearest numerator denominator := by
  have hleft : 2 * (numerator % denominator * factor) = 2 * (numerator % denominator) * factor :=
    (Nat.mul_assoc _ _ _).symm
  rw [nearest, nearest, Nat.mul_div_mul_right _ _ hfactor, Nat.mul_mod_mul_right, hleft]
  simp only [Nat.mul_lt_mul_right hfactor]

theorem nearest_mul_left (quotient : Nat) {denominator : Nat} (hdenominator : 0 < denominator) :
    nearest (quotient * denominator) denominator = quotient := by
  rw [nearest, Nat.mul_div_cancel _ hdenominator, Nat.mul_mod_left, if_pos (by omega)]

theorem round_mul
    (format : BinaryFormat) (numerator denominator : Nat) {factor : Nat} (hfactor : 0 < factor) :
    format.round (numerator * factor) (denominator * factor) =
      format.round numerator denominator := by
  have hscaled : numerator * factor * 2 ^ format.scale =
      numerator * 2 ^ format.scale * factor :=
    Nat.mul_right_comm _ _ _
  rw [round, round, hscaled, Nat.mul_div_mul_right _ _ hfactor]
  simp only [Nat.mul_right_comm denominator factor, nearest_mul _ _ hfactor]

theorem round_congr
    (format : BinaryFormat) {numerator denominator other otherDenominator : Nat}
    (hdenominator : 0 < denominator) (hother : 0 < otherDenominator)
    (hquotient : numerator * otherDenominator = other * denominator) :
    format.round numerator denominator = format.round other otherDenominator := by
  rw [← round_mul format numerator denominator hother, ← round_mul format other _ hdenominator,
    hquotient, Nat.mul_comm denominator]

/-!
## Units
-/

theorem stride_pos (format : BinaryFormat) : 0 < format.stride :=
  Nat.two_pow_pos _

/-- Units of a magnitude are a significand and a number of doublings, from which its number is put
together again. -/
theorem exists_units_eq
    {format : BinaryFormat} (hprecision : 0 < format.precision) (magnitude : Nat) :
    exists significand shift,
      format.units magnitude = significand * 2 ^ shift ∧
        magnitude = shift * format.stride + significand ∧
        significand < 2 ^ format.precision ∧
        (shift = 0 ∨ format.stride ≤ significand) := by
  have hpower : 2 ^ format.precision = 2 * format.stride := by
    rw [stride, ← Nat.pow_succ', Nat.succ_eq_add_one, Nat.sub_add_cancel hprecision]
  have hmod := Nat.mod_lt magnitude format.stride_pos
  by_cases hsmall : magnitude < format.stride
  · refine ⟨magnitude, 0, ?_, by omega, by omega, Or.inl rfl⟩
    rw [units, if_pos hsmall, Nat.pow_zero, Nat.mul_one]
  · have hshift : 0 < magnitude / format.stride :=
      Nat.div_pos (Nat.le_of_not_lt hsmall) format.stride_pos
    have hnumber : magnitude =
        (magnitude / format.stride - 1) * format.stride +
          (magnitude % format.stride + format.stride) := by
      have hdivision := Nat.div_add_mod magnitude format.stride
      have hsplit : magnitude / format.stride * format.stride =
          (magnitude / format.stride - 1) * format.stride + format.stride := by
        rw [← Nat.succ_mul, Nat.succ_eq_add_one, Nat.sub_add_cancel hshift]
      rw [Nat.mul_comm] at hdivision
      omega
    refine ⟨magnitude % format.stride + format.stride, magnitude / format.stride - 1, ?_, hnumber,
      by omega, Or.inr (Nat.le_add_left _ _)⟩
    rw [units, if_neg hsmall]

theorem log2_significand
    {format : BinaryFormat} (hprecision : 0 < format.precision) {significand shift : Nat}
    (hbound : significand < 2 ^ format.precision)
    (hnormal : shift = 0 ∨ format.stride ≤ significand) :
    (significand * 2 ^ shift).log2 + 1 - format.precision = shift := by
  by_cases hzero : significand * 2 ^ shift = 0
  · have hsignificand : significand = 0 := by
      rcases Nat.mul_eq_zero.mp hzero with h | h
      · exact h
      · exact absurd h (Nat.ne_of_gt (Nat.two_pow_pos shift))
    have hpositive := format.stride_pos
    have hshift : shift = 0 := by omega
    rw [hzero, hshift, Nat.log2_zero]
    omega
  · have hupper : significand * 2 ^ shift < 2 ^ (format.precision + shift) := by
      rw [Nat.pow_add]
      exact Nat.mul_lt_mul_of_pos_right hbound (Nat.two_pow_pos shift)
    have hlog := (Nat.log2_lt hzero).mpr hupper
    rcases hnormal with hshift | hstride
    · omega
    · have hlower : 2 ^ (format.precision - 1 + shift) ≤ significand * 2 ^ shift := by
        rw [Nat.pow_add]
        exact Nat.mul_le_mul_right _ hstride
      have hlog' := (Nat.le_log2 hzero).mpr hlower
      omega

theorem round_units
    {format : BinaryFormat} (hprecision : 0 < format.precision)
    {magnitude : Nat} (hmagnitude : magnitude ≤ format.infinity) :
    format.round (format.units magnitude) (2 ^ format.scale) = magnitude := by
  rcases exists_units_eq hprecision magnitude with
    ⟨significand, shift, hunits, hnumber, hbound, hnormal⟩
  have hscaled : format.units magnitude * 2 ^ format.scale / 2 ^ format.scale =
      significand * 2 ^ shift := by
    rw [Nat.mul_div_cancel _ (Nat.two_pow_pos _), hunits]
  have hnearest : nearest (significand * 2 ^ shift * 2 ^ format.scale)
      (2 ^ format.scale * 2 ^ shift) = significand := by
    rw [Nat.mul_comm (2 ^ format.scale), nearest_mul _ _ (Nat.two_pow_pos _),
      nearest_mul_left _ (Nat.two_pow_pos shift)]
  rw [round, hscaled, log2_significand hprecision hbound hnormal, hunits, hnearest, ← hnumber,
    Nat.min_eq_right hmagnitude]

end BinaryFormat
end HostBridge
