/-!
# Decimal numbers and their text

A decimal is a whole number of units of a power of ten.  Its text is positional or has an exponent
mark; a style says which, and whether a whole number keeps a fraction of zero.
-/

namespace HostBridge

/-- The power of natural numbers, also where they are known as a monoid. -/
scoped instance powNat : Pow Nat Nat :=
  instPowNat

/-- The number `digits * 10 ^ exponent`. -/
structure Decimal where
  digits : Nat
  exponent : Int
  deriving DecidableEq, Repr

def digitCount (number : Nat) : Nat :=
  (Nat.toDigits 10 number).length

structure DecimalStyle where
  pointZero : Bool
  isPositional : Int → Bool

namespace DecimalStyle

/-- Digits alone, however many it takes. -/
def plain : DecimalStyle :=
  ⟨false, fun _ => true⟩

/-- A fraction is always shown; below a ten-thousandth and from ten quadrillion on the exponent is
written. -/
def pointed : DecimalStyle :=
  ⟨true, fun lead => -4 ≤ lead && lead < 16⟩

end DecimalStyle

namespace Decimal

/-- The exponent of the first digit. -/
def lead (decimal : Decimal) : Int :=
  decimal.exponent + digitCount decimal.digits - 1

def trailingZeros (number : Nat) : Nat :=
  ((Nat.toDigits 10 number).reverse.takeWhile (· = '0')).length

/-- The same number without zeros at the end of its digits. -/
def trim (decimal : Decimal) : Decimal :=
  let zeros := trailingZeros decimal.digits
  ⟨decimal.digits / 10 ^ zeros, decimal.exponent + zeros⟩

def positional (pointZero : Bool) (decimal : Decimal) : List Char :=
  let digits := Nat.toDigits 10 decimal.digits
  let places := (-decimal.exponent).toNat
  if places = 0 then
    digits ++ List.replicate decimal.exponent.toNat '0' ++ (if pointZero then ['.', '0'] else [])
  else if places < digits.length then
    digits.take (digits.length - places) ++ '.' :: digits.drop (digits.length - places)
  else
    '0' :: '.' :: (List.replicate (places - digits.length) '0' ++ digits)

def scientific (decimal : Decimal) : List Char :=
  let exponent := (toString decimal.lead).toList
  match Nat.toDigits 10 decimal.digits with
  | first :: second :: rest => first :: '.' :: second :: rest ++ 'e' :: exponent
  | short => short ++ 'e' :: exponent

def text (style : DecimalStyle) (decimal : Decimal) : List Char :=
  if style.isPositional decimal.lead then decimal.positional style.pointZero
  else decimal.scientific

end Decimal
end HostBridge
