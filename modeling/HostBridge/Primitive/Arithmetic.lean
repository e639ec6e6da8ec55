import HostBridge.Failure
import HostBridge.Value.Unboxing

/-!
# Arithmetic primitives

Two operands are promoted to one width: to doubles if either is floating, else to longs if either is
long, else to integers, which characters count as.  Integer arithmetic wraps at its width; division
truncates, and only integers refuse to divide by zero.
-/

namespace HostBridge
namespace Arithmetic

inductive Operands where
  | integers (x y : Int32)
  | longs (x y : Int64)
  | doubles (x y : Double)
  deriving DecidableEq, Repr

/-!
## Promotion
-/

def number (value : Value) : Except Failure Datum :=
  match value.datum? with
  | some datum => .ok datum
  | none => .error (.typeMismatch "number" value.typeName)

def toDouble : Datum → Double
  | .integer number => Double.ofInt number.toInt
  | .character unit => Double.ofInt unit.toNat
  | .long number => Double.ofInt number.toInt
  | .single number => number.toDouble
  | .double number => number

def pair (left right : Datum) : Operands :=
  match left.whole?, right.whole? with
  | some x, some y =>
      match left, right with
      | .long _, _ => .longs (Int64.ofInt x) (Int64.ofInt y)
      | _, .long _ => .longs (Int64.ofInt x) (Int64.ofInt y)
      | _, _ => .integers (Int32.ofInt x) (Int32.ofInt y)
  | _, _ => .doubles (toDouble left) (toDouble right)

def promote (left right : Value) : Except Failure Operands := do
  let left ← number left
  let right ← number right
  return pair left right

/-!
## Operations
-/

def add (left right : Value) : Except Failure Value := do
  match ← promote left right with
  | .integers x y => return .integer (x + y)
  | .longs x y => return .long (x + y)
  | .doubles x y => return .double (x.add y)

def sub (left right : Value) : Except Failure Value := do
  match ← promote left right with
  | .integers x y => return .integer (x - y)
  | .longs x y => return .long (x - y)
  | .doubles x y => return .double (x.sub y)

def mul (left right : Value) : Except Failure Value := do
  match ← promote left right with
  | .integers x y => return .integer (x * y)
  | .longs x y => return .long (x * y)
  | .doubles x y => return .double (x.mul y)

def div (left right : Value) : Except Failure Value := do
  match ← promote left right with
  | .integers x y => if y = 0 then .error .divisionByZero else return .integer (x / y)
  | .longs x y => if y = 0 then .error .divisionByZero else return .long (x / y)
  | .doubles x y => return .double (x.div y)

def rem (left right : Value) : Except Failure Value := do
  match ← promote left right with
  | .integers x y => if y = 0 then .error .divisionByZero else return .integer (x % y)
  | .longs x y => if y = 0 then .error .divisionByZero else return .long (x % y)
  | .doubles x y => return .double (x.rem y)

/-- Negation keeps the width; a character becomes an integer first. -/
def neg (value : Value) : Except Failure Value := do
  match ← number value with
  | .integer number => return .integer (-number)
  | .character unit => return .integer (-Int32.ofNat unit.toNat)
  | .long number => return .long (-number)
  | .single number => return .single number.negate
  | .double number => return .double number.negate

def not (value : Value) : Except Failure Value := do
  let truth ← Unboxing.truth value
  return .ofBool !truth

/-!
## Order
-/

def compare (left right : Value) : Except Failure (Option Ordering) := do
  match ← promote left right with
  | .integers x y => return some (compareOfLessAndEq x y)
  | .longs x y => return some (compareOfLessAndEq x y)
  | .doubles x y => return x.compare y

/-- Numbers are equal as numbers, and all else as values. -/
def eq (left right : Value) : Except Failure Value :=
  match left, right with
  | .boxed _, .boxed _ => do return .ofBool ((← compare left right) = some .eq)
  | _, _ => .ok (.ofBool (left = right))

def lt (left right : Value) : Except Failure Value := do
  return .ofBool ((← compare left right) = some .lt)

def max (left right : Value) : Except Failure Value := do
  match ← promote left right with
  | .integers x y => return .integer (if x < y then y else x)
  | .longs x y => return .long (if x < y then y else x)
  | .doubles x y => return .double (x.max y)

def min (left right : Value) : Except Failure Value := do
  match ← promote left right with
  | .integers x y => return .integer (if y < x then y else x)
  | .longs x y => return .long (if y < x then y else x)
  | .doubles x y => return .double (x.min y)

end Arithmetic
end HostBridge
