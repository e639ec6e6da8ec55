import HostBridge.Number.BinaryFormat

/-!
# Shortest decimals

The decimal with the fewest digits that reads back as a magnitude.  Each number of digits gives a
grid, and if any point of it reads back, one of the magnitude's two neighbours on it does; of two
the nearer is taken, and the upper one if they are equally near.
-/

namespace HostBridge
namespace BinaryFormat

/-- The least power of ten above a positive quotient. -/
def decimalBound (numerator denominator : Nat) : Int :=
  if denominator ≤ numerator then digitCount (numerator / denominator)
  else 1 - digitCount ((denominator - 1) / numerator)

def onGrid (format : BinaryFormat) (magnitude count : Nat) : Option Decimal :=
  let units := format.units magnitude
  let exponent := decimalBound units (2 ^ format.scale) - count
  let numerator := units * 10 ^ (-exponent).toNat
  let denominator := 2 ^ format.scale * 10 ^ exponent.toNat
  let lower : Decimal := ⟨numerator / denominator, exponent⟩
  let upper : Decimal := ⟨numerator / denominator + 1, exponent⟩
  let nearLower := 2 * (numerator % denominator) < denominator
  if format.ofDecimal lower = magnitude ∧ (nearLower ∨ format.ofDecimal upper ≠ magnitude) then
    some lower
  else if format.ofDecimal upper = magnitude then
    some upper
  else
    none

/-- The magnitude itself: a power of two below one is a power of five in finer decimals. -/
def exactly (format : BinaryFormat) (magnitude : Nat) : Decimal :=
  ⟨format.units magnitude * 5 ^ format.scale, -format.scale⟩

/-- Seventeen digits are enough for both formats; the exact decimal closes the search for any. -/
def shortest (format : BinaryFormat) (magnitude : Nat) : Decimal :=
  (((List.range' 1 17).findSome? (format.onGrid magnitude)).getD (format.exactly magnitude)).trim

theorem ofDecimal_of_onGrid {format : BinaryFormat} {magnitude count : Nat} {decimal : Decimal}
    (found : format.onGrid magnitude count = some decimal) :
    format.ofDecimal decimal = magnitude := by
  grind [onGrid]

end BinaryFormat
end HostBridge
