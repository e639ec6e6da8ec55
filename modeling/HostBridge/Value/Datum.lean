import HostBridge.Number.Floating

/-!
# Data and values

A datum is a number or a character with the tag it travels under.  A value is a datum, a text, or
nothing.  Equality is by tag and content, so equal data of different tags differ.  A truth value is
the integer one or zero.
-/

namespace HostBridge

inductive Datum where
  | integer (number : Int32)
  | character (unit : UInt16)
  | long (number : Int64)
  | single (number : Single)
  | double (number : Double)
  deriving DecidableEq, Repr

namespace Datum

def typeName : Datum → String
  | .integer _ => "int"
  | .character _ => "char"
  | .long _ => "long"
  | .single _ => "f32"
  | .double _ => "f64"

/-- What a hash is made of: the number of the tag and the word under it. -/
def hashData : Datum → Nat × UInt64
  | .integer number => (0, number.toInt64.toUInt64)
  | .character unit => (1, unit.toUInt64)
  | .long number => (2, number.toUInt64)
  | .single number => (3, number.bits.toUInt64)
  | .double number => (4, number.bits)

instance : Hashable Datum := ⟨fun datum => hash datum.hashData⟩

def ofBool (truth : Bool) : Datum :=
  .integer (if truth then 1 else 0)

def asInteger? : Datum → Option Int32
  | .integer number => some number
  | .character unit => some (Int32.ofNat unit.toNat)
  | _ => none

/-- The character view: an integer loses its high half. -/
def asCharacter? : Datum → Option UInt16
  | .character unit => some unit
  | .integer number => some (UInt16.ofNat (number.toBitVec.toNat))
  | _ => none

/-- The whole number that an integer, a character or a long stands for. -/
def whole? : Datum → Option Int
  | .integer number => some number.toInt
  | .character unit => some unit.toNat
  | .long number => some number.toInt
  | _ => none

end Datum

/-!
## Values
-/

inductive Value where
  | null
  | boxed (datum : Datum)
  | text (content : String)
  deriving DecidableEq, Repr

namespace Value

def integer (number : Int32) : Value := .boxed (.integer number)

def character (unit : UInt16) : Value := .boxed (.character unit)

def long (number : Int64) : Value := .boxed (.long number)

def single (number : Single) : Value := .boxed (.single number)

def double (number : Double) : Value := .boxed (.double number)

def ofBool (truth : Bool) : Value := .boxed (Datum.ofBool truth)

def typeName : Value → String
  | .null => "null"
  | .boxed datum => datum.typeName
  | .text _ => "string"

def isNull : Value → Bool
  | .null => true
  | _ => false

def datum? : Value → Option Datum
  | .boxed datum => some datum
  | _ => none

def text? : Value → Option String
  | .text content => some content
  | _ => none

end Value
end HostBridge
