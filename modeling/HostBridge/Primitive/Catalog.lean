import HostBridge.Library
import HostBridge.Primitive.Characters

/-!
# The core library

The primitives in the order of their indices, each with its name, its number of arguments and its
function.  Two manifests list the names, which are loaded in order and numbered from zero on.
-/

namespace HostBridge

inductive Primitive where
  | add
  | sub
  | mul
  | div
  | rem
  | neg
  | not
  | eq
  | lt
  | max
  | min
  | charCode
  | fromCharCode
  | isDigit
  | toLong
  | toDouble
  | toText
  deriving DecidableEq, Repr

/-- A function of one value or of two. -/
inductive Operation where
  | unary (apply : Value → Except Failure Value)
  | binary (apply : Value → Value → Except Failure Value)

namespace Operation

def arity : Operation → Nat
  | .unary _ => 1
  | .binary _ => 2

/-- The number of arguments is checked before any of them is looked at. -/
def run (name : String) : Operation → List Value → Except Failure Value
  | .unary apply, [value] => apply value
  | .binary apply, [left, right] => apply left right
  | operation, arguments => .error (.arity name operation.arity arguments.length)

end Operation

namespace Primitive

/-- Each primitive at its index. -/
def all : List Primitive :=
  [.add, .sub, .mul, .div, .rem, .neg, .not, .eq, .lt, .max, .min,
    .charCode, .fromCharCode, .isDigit, .toLong, .toDouble, .toText]

def name : Primitive → String
  | .add => "add"
  | .sub => "sub"
  | .mul => "mul"
  | .div => "div"
  | .rem => "rem"
  | .neg => "neg"
  | .not => "not"
  | .eq => "eq"
  | .lt => "lt"
  | .max => "max"
  | .min => "min"
  | .charCode => "char_code"
  | .fromCharCode => "from_char_code"
  | .isDigit => "is_digit"
  | .toLong => "to_long"
  | .toDouble => "to_double"
  | .toText => "to_string"

def operation : Primitive → Operation
  | .add => .binary Arithmetic.add
  | .sub => .binary Arithmetic.sub
  | .mul => .binary Arithmetic.mul
  | .div => .binary Arithmetic.div
  | .rem => .binary Arithmetic.rem
  | .neg => .unary Arithmetic.neg
  | .not => .unary Arithmetic.not
  | .eq => .binary Arithmetic.eq
  | .lt => .binary Arithmetic.lt
  | .max => .binary Arithmetic.max
  | .min => .binary Arithmetic.min
  | .charCode => .unary Characters.charCode
  | .fromCharCode => .unary Characters.fromCharCode
  | .isDigit => .unary Characters.isDigit
  | .toLong => .unary Characters.toLong
  | .toDouble => .unary Characters.toDouble
  | .toText => .unary Characters.toText

def run (primitive : Primitive) (arguments : List Value) : Except Failure Value :=
  primitive.operation.run primitive.name arguments

end Primitive

/-!
## The library
-/

namespace CoreLibrary

def soname : String := "kiln.core"

def answer (index : Nat) (arguments : List Value) : Except Failure Value :=
  match Primitive.all[index]? with
  | some primitive => primitive.run arguments
  | none => .error (.unknownIndex soname index)

def host : Host :=
  ⟨soname, fun call => pure (.ofExcept (answer call.index call.arguments))⟩

def arithmeticManifest : String :=
  "add\nsub\nmul\ndiv\nrem\nneg\nnot\neq\nlt\nmax\nmin\n"

def conversionsManifest : String :=
  "char_code\nfrom_char_code\nis_digit\nto_long\nto_double\nto_string\n"

/-- The library with both manifests loaded. -/
def opened : Recorded (Except LoadFailure Library) := do
  let (first, library) ← Library.load ⟨host, {}⟩ (.ofText arithmeticManifest)
  match first with
  | .error failure => return .error failure
  | .ok arithmetic =>
      let (second, library) ← library.load (.ofText conversionsManifest)
      match second with
      | .error failure => return .error failure
      | .ok conversions =>
          Recorded.log (.opened soname arithmetic conversions)
          return .ok library

end CoreLibrary
end HostBridge
