import HostBridge.Number.DecimalReading

/-!
# Reading integers

An integer is an optional sign before one or more digits, and has to fit its width.  Digits are taken
from the left, so the first character that is no digit and the first digit that makes the number too
long compete by position.
-/

namespace HostBridge

inductive IntegerFault where
  | empty
  | invalidDigit
  | tooLarge
  | tooSmall
  deriving DecidableEq, Repr

def IntegerFault.message : IntegerFault → String
  | .empty => "cannot parse integer from empty string"
  | .invalidDigit => "invalid digit found in string"
  | .tooLarge => "number too large to fit in target type"
  | .tooSmall => "number too small to fit in target type"

namespace IntegerReading

/-- Digits after `sofar`, none of which may take the number above `limit`. -/
def readSize (limit : Nat) (overflow : IntegerFault) : Nat → List Char → Except IntegerFault Nat
  | sofar, [] => .ok sofar
  | sofar, first :: rest =>
      let next := 10 * sofar + (first.toNat - '0'.toNat)
      if ¬first.isDigit then .error .invalidDigit
      else if next ≤ limit then readSize limit overflow next rest
      else .error overflow

def read (width : Nat) (text : List Char) : Except IntegerFault Int :=
  match takeSign text with
  | (negative, []) => .error (if negative ∨ text ≠ [] then .invalidDigit else .empty)
  | (true, digits) => (readSize (2 ^ (width - 1)) .tooSmall 0 digits).map fun size => -size
  | (false, digits) => (readSize (2 ^ (width - 1) - 1) .tooLarge 0 digits).map Int.ofNat

end IntegerReading
end HostBridge
