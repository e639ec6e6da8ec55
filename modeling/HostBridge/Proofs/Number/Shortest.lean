import HostBridge.Number.Shortest
import HostBridge.Proofs.Number.Decimal
import HostBridge.Proofs.Number.Rounding

/-!
# The shortest decimal of a magnitude

A decimal rounds to one magnitude, however many zeros are at the end of its digits.  The shortest
decimal of a positive finite magnitude rounds to the magnitude, whether the search by numbers of
digits ends or the exact decimal is taken.
-/

namespace HostBridge

namespace BinaryFormat

/-!
## Decimals of one value
-/

theorem ofDecimal_pad (format : BinaryFormat) (decimal : Decimal) (zeros : Nat) :
    format.ofDecimal (decimal.pad zeros) = format.ofDecimal decimal := by
  by_cases hzero : decimal.digits = 0
  · have hpadded : (decimal.pad zeros).digits = 0 := by
      rw [Decimal.pad, hzero, Nat.zero_mul]
    rw [ofDecimal, ofDecimal, if_pos (Or.inl hzero), if_pos (Or.inl hpadded)]
  · have hpadded : (decimal.pad zeros).digits ≠ 0 :=
      Nat.mul_ne_zero hzero (Nat.ne_of_gt (Nat.pow_pos (by decide)))
    have hround :
        format.round ((decimal.pad zeros).digits * 10 ^ (decimal.pad zeros).exponent.toNat)
            (10 ^ (-(decimal.pad zeros).exponent).toNat) =
          format.round (decimal.digits * 10 ^ decimal.exponent.toNat)
            (10 ^ (-decimal.exponent).toNat) := by
      apply round_congr
      · exact Nat.pow_pos (by decide)
      · exact Nat.pow_pos (by decide)
      · unfold Decimal.pad
        simp only [Nat.mul_assoc, ← Nat.pow_add]
        congr 2
        omega
    rw [ofDecimal, ofDecimal, Decimal.lead_pad (Nat.pos_of_ne_zero hzero), hround]
    simp only [hzero, hpadded]

theorem ofDecimal_trim (format : BinaryFormat) (decimal : Decimal) :
    format.ofDecimal decimal.trim = format.ofDecimal decimal := by
  rw [← ofDecimal_pad format decimal.trim (Decimal.trailingZeros decimal.digits), Decimal.pad_trim]

theorem ofDecimal_le_infinity (format : BinaryFormat) (decimal : Decimal) :
    format.ofDecimal decimal ≤ format.infinity := by
  unfold ofDecimal round
  split
  · exact Nat.zero_le _
  · split
    · exact Nat.le_refl _
    · exact Nat.min_le_left _ _

/-!
## The shortest decimal
-/

/-- The lead beyond which no power of ten is formed. -/
def reach : Nat :=
  400

/-- What both widths have in common: a word has room for more than its significand, and the powers
of ten at which rounding gives up are outside the finite magnitudes. -/
structure Standard (format : BinaryFormat) : Prop where
  precision_pos : 0 < format.precision
  precision_lt : format.precision < format.width
  largest : 2 ^ (format.precision + format.infinity / format.stride) ≤
    10 ^ reach * 2 ^ format.scale
  smallest : 10 ^ (format.scale - reach) ≤ 5 ^ format.scale

theorem single_standard : single.Standard := by
  constructor <;> decide +kernel

theorem double_standard : double.Standard := by
  constructor <;> decide +kernel

theorem units_pos {format : BinaryFormat} (hformat : format.Standard)
    {magnitude : Nat} (hmagnitude : 0 < magnitude) : 0 < format.units magnitude := by
  rcases exists_units_eq hformat.precision_pos magnitude with
    ⟨significand, shift, hunits, hnumber, _, hnormal⟩
  have hsignificand : 0 < significand := by
    rcases hnormal with hshift | hstride
    · rw [hshift, Nat.zero_mul, Nat.zero_add] at hnumber
      rw [← hnumber]
      exact hmagnitude
    · exact Nat.lt_of_lt_of_le format.stride_pos hstride
  rw [hunits]
  exact Nat.mul_pos hsignificand (Nat.two_pow_pos shift)

theorem units_lt {format : BinaryFormat} (hformat : format.Standard)
    {magnitude : Nat} (hmagnitude : magnitude ≤ format.infinity) :
    format.units magnitude < 10 ^ reach * 2 ^ format.scale := by
  rcases exists_units_eq hformat.precision_pos magnitude with
    ⟨significand, shift, hunits, hnumber, hbound, _⟩
  have hshift : shift ≤ format.infinity / format.stride := by
    rw [Nat.le_div_iff_mul_le format.stride_pos]
    omega
  calc format.units magnitude
      = significand * 2 ^ shift := hunits
    _ < 2 ^ format.precision * 2 ^ shift :=
        Nat.mul_lt_mul_of_pos_right hbound (Nat.two_pow_pos shift)
    _ = 2 ^ (format.precision + shift) := (Nat.pow_add 2 _ _).symm
    _ ≤ 2 ^ (format.precision + format.infinity / format.stride) :=
        Nat.pow_le_pow_right (by decide) (Nat.add_le_add_left hshift _)
    _ ≤ 10 ^ reach * 2 ^ format.scale := hformat.largest

theorem lead_exactly {format : BinaryFormat} (hformat : format.Standard)
    {magnitude : Nat} (hpositive : 0 < magnitude) (hmagnitude : magnitude ≤ format.infinity) :
    -400 ≤ (format.exactly magnitude).lead ∧ (format.exactly magnitude).lead ≤ 400 := by
  have hupper : format.units magnitude * 5 ^ format.scale < 10 ^ (reach + format.scale) := by
    calc format.units magnitude * 5 ^ format.scale
        < 10 ^ reach * 2 ^ format.scale * 5 ^ format.scale :=
          Nat.mul_lt_mul_of_pos_right (units_lt hformat hmagnitude) (Nat.pow_pos (by decide))
      _ = 10 ^ reach * (2 * 5) ^ format.scale := by rw [Nat.mul_assoc, ← Nat.mul_pow]
      _ = 10 ^ (reach + format.scale) := (Nat.pow_add 10 _ _).symm
  have hlower : 10 ^ (format.scale - reach) ≤ format.units magnitude * 5 ^ format.scale :=
    Nat.le_trans hformat.smallest (Nat.le_mul_of_pos_left _ (units_pos hformat hpositive))
  have hreach : reach = 400 := rfl
  have hcount := digitCount_le (by omega) hupper
  have hcount' := lt_digitCount hlower
  unfold Decimal.lead exactly
  constructor
  · show -400 ≤ -(format.scale : Int) + digitCount (format.units magnitude * 5 ^ format.scale) - 1
    omega
  · show -(format.scale : Int) + digitCount (format.units magnitude * 5 ^ format.scale) - 1 ≤ 400
    omega

theorem ofDecimal_exactly {format : BinaryFormat} (hformat : format.Standard)
    {magnitude : Nat} (hpositive : 0 < magnitude) (hmagnitude : magnitude ≤ format.infinity) :
    format.ofDecimal (format.exactly magnitude) = magnitude := by
  rcases lead_exactly hformat hpositive hmagnitude with ⟨hlower, hupper⟩
  have hdigits : (format.exactly magnitude).digits ≠ 0 :=
    Nat.mul_ne_zero (Nat.ne_of_gt (units_pos hformat hpositive))
      (Nat.ne_of_gt (Nat.pow_pos (by decide)))
  rw [ofDecimal, if_neg, if_neg (Int.not_lt.mpr hupper)]
  · calc
      format.round ((format.exactly magnitude).digits *
            10 ^ (format.exactly magnitude).exponent.toNat)
          (10 ^ (-(format.exactly magnitude).exponent).toNat)
          = format.round (format.units magnitude) (2 ^ format.scale) := by
        apply round_congr
        · exact Nat.pow_pos (by decide)
        · exact Nat.two_pow_pos _
        · have hnonpositive : (-(format.scale : Int)).toNat = 0 := by omega
          have hscale : (-(-(format.scale : Int))).toNat = format.scale := by omega
          unfold exactly
          simp only [hnonpositive, hscale, Nat.pow_zero, Nat.mul_one]
          rw [Nat.mul_assoc, ← Nat.mul_pow]
      _ = magnitude := round_units hformat.precision_pos hmagnitude
  · intro hor
    rcases hor with hzero | hlow
    · exact hdigits hzero
    · exact absurd hlow (Int.not_lt.mpr hlower)

theorem ofDecimal_shortest {format : BinaryFormat} (hformat : format.Standard)
    {magnitude : Nat} (hpositive : 0 < magnitude) (hmagnitude : magnitude ≤ format.infinity) :
    format.ofDecimal (format.shortest magnitude) = magnitude := by
  rw [shortest, ofDecimal_trim]
  cases hfound : (List.range' 1 17).findSome? (format.onGrid magnitude) with
  | none =>
      exact ofDecimal_exactly hformat hpositive hmagnitude
  | some decimal =>
      rcases List.exists_of_findSome?_eq_some hfound with ⟨count, _, hcount⟩
      exact ofDecimal_of_onGrid hcount

end BinaryFormat
end HostBridge
