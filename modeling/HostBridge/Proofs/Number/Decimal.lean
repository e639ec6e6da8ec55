import HostBridge.Number.Decimal

/-!
# Zeros of decimals

Zeros may move between the digits of a decimal and its exponent.  Its lead does not change by that,
and a trimmed decimal is what it was before with its zeros put back.
-/

namespace HostBridge

/-!
## Digits and zeros
-/

theorem digitCount_mul_ten {number : Nat} (hnumber : 0 < number) :
    digitCount (number * 10) = digitCount number + 1 := by
  have hdigits := Nat.toDigits_of_base_le (b := 10) (n := number * 10) (by decide) (by omega)
  rw [Nat.mul_div_cancel _ (by decide)] at hdigits
  rw [digitCount, digitCount, hdigits, List.length_append]
  rfl

theorem digitCount_mul_pow {number : Nat} (hnumber : 0 < number) (zeros : Nat) :
    digitCount (number * 10 ^ zeros) = digitCount number + zeros := by
  induction zeros with
  | zero =>
      rw [Nat.pow_zero, Nat.mul_one, Nat.add_zero]
  | succ zeros ih =>
      have hpositive : 0 < number * 10 ^ zeros := Nat.mul_pos hnumber (Nat.pow_pos (by decide))
      rw [Nat.pow_succ, ← Nat.mul_assoc, digitCount_mul_ten hpositive, ih, Nat.add_assoc]

theorem digitCount_le {number count : Nat} (hcount : 0 < count) (hnumber : number < 10 ^ count) :
    digitCount number ≤ count :=
  (Nat.length_toDigits_le_iff (by decide) hcount).mpr hnumber

theorem lt_digitCount {number count : Nat} (hnumber : 10 ^ count ≤ number) :
    count < digitCount number := by
  cases count with
  | zero =>
      exact Nat.length_toDigits_pos
  | succ count =>
      have hnot : ¬ digitCount number ≤ count + 1 := by
        intro hle
        have hlt := (Nat.length_toDigits_le_iff (by decide) (Nat.succ_pos count)).mp hle
        exact absurd hnumber (Nat.not_le_of_lt hlt)
      exact Nat.lt_of_not_le hnot

namespace Decimal

theorem toDigits_trailingZeros (number : Nat) :
    exists leading,
      Nat.toDigits 10 number = leading ++ List.replicate (trailingZeros number) '0' := by
  let zeros := (Nat.toDigits 10 number).reverse.takeWhile (· = '0')
  let leading := ((Nat.toDigits 10 number).reverse.dropWhile (· = '0')).reverse
  have hreplicate : zeros.reverse = List.replicate (trailingZeros number) '0' := by
    rw [List.eq_replicate_iff]
    constructor
    · exact List.length_reverse
    · intro character hcharacter
      have hzero := List.all_takeWhile (l := (Nat.toDigits 10 number).reverse)
        (p := fun character => decide (character = '0'))
      rw [List.all_eq_true] at hzero
      exact of_decide_eq_true (hzero character (List.mem_reverse.mp hcharacter))
  refine ⟨leading, ?_⟩
  rw [← hreplicate, ← List.reverse_append, List.takeWhile_append_dropWhile, List.reverse_reverse]

theorem pow_trailingZeros_dvd (number : Nat) : 10 ^ trailingZeros number ∣ number := by
  rcases toDigits_trailingZeros number with ⟨leading, hdigits⟩
  refine ⟨Nat.ofDigitChars 10 leading 0, ?_⟩
  rw [← Nat.ofDigitChars_replicate_zero, ← Nat.ofDigitChars_append, ← hdigits,
    Nat.ofDigitChars_ten_toDigits]

/-- The same number with more zeros at the end of its digits. -/
def pad (zeros : Nat) (decimal : Decimal) : Decimal :=
  ⟨decimal.digits * 10 ^ zeros, decimal.exponent - zeros⟩

theorem pad_trim (decimal : Decimal) :
    decimal.trim.pad (trailingZeros decimal.digits) = decimal := by
  have hdigits := Nat.div_mul_cancel (pow_trailingZeros_dvd decimal.digits)
  unfold pad trim
  cases decimal with
  | mk digits exponent =>
      rw [Decimal.mk.injEq]
      constructor
      · exact hdigits
      · exact Int.add_sub_cancel exponent _

theorem lead_pad {decimal : Decimal} (hdigits : 0 < decimal.digits) (zeros : Nat) :
    (decimal.pad zeros).lead = decimal.lead := by
  show decimal.exponent - zeros + digitCount (decimal.digits * 10 ^ zeros) - 1 = decimal.lead
  rw [digitCount_mul_pow hdigits, lead]
  omega

end Decimal
end HostBridge
