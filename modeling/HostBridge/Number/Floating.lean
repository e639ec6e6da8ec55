import HostBridge.Number.DecimalReading
import HostBridge.Number.Shortest

/-!
# Floating numbers

The two floating widths as words.  Equality is equality of words: a number is equal to itself also
where it is no number, and the two zeros differ.  Arithmetic order is a relation of its own.
-/

namespace HostBridge

structure Single where
  bits : UInt32
  deriving DecidableEq, Repr

structure Double where
  bits : UInt64
  deriving DecidableEq, Repr

namespace BinaryFormat

/-- The text of a word: words that are no number have one text and no sign. -/
def text (format : BinaryFormat) (style : DecimalStyle) (word : Nat) : String :=
  let magnitude := word % format.sign
  let unsigned :=
    if magnitude = format.infinity then "inf".toList
    else if magnitude = 0 then Decimal.positional style.pointZero ⟨0, 0⟩
    else (format.shortest magnitude).text style
  if format.infinity < magnitude then "NaN"
  else String.ofList (if format.sign ≤ word then '-' :: unsigned else unsigned)

end BinaryFormat

/-!
## Single width
-/

namespace Single

def text (style : DecimalStyle) (number : Single) : String :=
  BinaryFormat.single.text style number.bits.toNat

def read (text : List Char) : Except FloatFault Single :=
  (BinaryFormat.single.read text).map fun word => ⟨UInt32.ofNat word⟩

def toDouble (number : Single) : Double :=
  ⟨(Float32.ofBits number.bits).toFloat.toBits⟩

def negate (number : Single) : Single :=
  ⟨number.bits ^^^ UInt32.ofNat BinaryFormat.single.sign⟩

end Single

/-!
## Double width
-/

namespace Double

def text (style : DecimalStyle) (number : Double) : String :=
  BinaryFormat.double.text style number.bits.toNat

def read (text : List Char) : Except FloatFault Double :=
  (BinaryFormat.double.read text).map fun word => ⟨UInt64.ofNat word⟩

def ofInt (number : Int) : Double :=
  let magnitude := BinaryFormat.double.round number.natAbs 1
  ⟨UInt64.ofNat (if number < 0 then BinaryFormat.double.sign + magnitude else magnitude)⟩

def negate (number : Double) : Double :=
  ⟨number.bits ^^^ UInt64.ofNat BinaryFormat.double.sign⟩

def toFloat (number : Double) : Float :=
  Float.ofBits number.bits

def ofFloat (number : Float) : Double :=
  ⟨number.toBits⟩

def add (x y : Double) : Double :=
  ofFloat (x.toFloat + y.toFloat)

def sub (x y : Double) : Double :=
  ofFloat (x.toFloat - y.toFloat)

def mul (x y : Double) : Double :=
  ofFloat (x.toFloat * y.toFloat)

def div (x y : Double) : Double :=
  ofFloat (x.toFloat / y.toFloat)

def magnitude (number : Double) : Nat :=
  number.bits.toNat % BinaryFormat.double.sign

def isNaN (number : Double) : Bool :=
  BinaryFormat.double.infinity < number.magnitude

/-- What is left of `x` after taking `y` away as often as it fits, with the sign of `x`.  Both are
whole numbers of units, so the remainder is exact. -/
def rem (x y : Double) : Double :=
  let format := BinaryFormat.double
  if x.isNaN ∨ y.isNaN ∨ x.magnitude = format.infinity ∨ y.magnitude = 0 then
    ⟨UInt64.ofNat format.quietNaN⟩
  else if y.magnitude = format.infinity then x
  else
    let left := format.units x.magnitude % format.units y.magnitude
    let magnitude := format.round left (2 ^ format.scale)
    ⟨UInt64.ofNat (if format.sign ≤ x.bits.toNat then format.sign + magnitude else magnitude)⟩

def compare (x y : Double) : Option Ordering :=
  if x.toFloat < y.toFloat then some .lt
  else if y.toFloat < x.toFloat then some .gt
  else if x.isNaN ∨ y.isNaN then none
  else some .eq

def max (x y : Double) : Double :=
  if x.isNaN then y
  else if y.isNaN then x
  else if x.compare y = some .lt then y
  else x

def min (x y : Double) : Double :=
  if x.isNaN then y
  else if y.isNaN then x
  else if y.compare x = some .lt then y
  else x

end Double
end HostBridge
