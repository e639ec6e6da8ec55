import HostBridge.Number.BinaryFormat

/-!
# Reading floating numbers

A floating number is an optional sign before digits with at most one point among them and an
optional exponent, or before one of the words for infinity and for no number, in any case.
-/

namespace HostBridge

inductive FloatFault where
  | empty
  | invalid
  deriving DecidableEq, Repr

def FloatFault.message : FloatFault → String
  | .empty => "cannot parse float from empty string"
  | .invalid => "invalid float literal"

/-- Whether a minus leads a text, and what follows its sign. -/
def takeSign : List Char → Bool × List Char
  | '-' :: rest => (true, rest)
  | '+' :: rest => (false, rest)
  | rest => (false, rest)

namespace Decimal

/-- A run of digits with at most one point, and what follows it. -/
def readDigits (text : List Char) : Option (Decimal × List Char) :=
  let whole := text.takeWhile Char.isDigit
  let rest := text.dropWhile Char.isDigit
  let fraction := match rest with
    | '.' :: after => after.takeWhile Char.isDigit
    | _ => []
  let after := match rest with
    | '.' :: after => after.dropWhile Char.isDigit
    | _ => rest
  if whole ++ fraction = [] then none
  else some (⟨Nat.ofDigitChars 10 (whole ++ fraction) 0, -fraction.length⟩, after)

/-- The exponent at the end of a text; without an exponent mark it is zero. -/
def readExponent : List Char → Option Int
  | [] => some 0
  | mark :: rest =>
      let (negative, digits) := takeSign rest
      if (mark = 'e' ∨ mark = 'E') ∧ digits ≠ [] ∧ digits.all Char.isDigit then
        let size : Int := Nat.ofDigitChars 10 digits 0
        some (if negative then -size else size)
      else
        none

def read (text : List Char) : Option Decimal := do
  let (decimal, rest) ← readDigits text
  let exponent ← readExponent rest
  return ⟨decimal.digits, decimal.exponent + exponent⟩

end Decimal

namespace BinaryFormat

def readMagnitude (format : BinaryFormat) (text : List Char) : Option Nat :=
  let word := text.map Char.toLower
  if word = "inf".toList ∨ word = "infinity".toList then some format.infinity
  else if word = "nan".toList then some format.quietNaN
  else (Decimal.read text).map format.ofDecimal

def read (format : BinaryFormat) (text : List Char) : Except FloatFault Nat :=
  if text = [] then .error .empty
  else
    let (negative, rest) := takeSign text
    match format.readMagnitude rest with
    | some magnitude => .ok (if negative then format.sign + magnitude else magnitude)
    | none => .error .invalid

end BinaryFormat
end HostBridge
