import HostBridge.Primitive.Arithmetic
import HostBridge.Value.Pool
import HostBridge.Value.Printing

/-!
# Character and conversion primitives
-/

namespace HostBridge
namespace Characters

def charCode (value : Value) : Except Failure Value := do
  let unit ← Unboxing.character value
  return .integer (Int32.ofNat unit.toNat)

def fromCharCode (value : Value) : Except Failure Value := do
  let code ← Unboxing.long value
  let unit ← characterUnit code.toInt
  return .character unit

def isDigit (value : Value) : Except Failure Value := do
  let unit ← Unboxing.character value
  return .ofBool ('0'.toNat ≤ unit.toNat && unit.toNat ≤ '9'.toNat)

def toLong (value : Value) : Except Failure Value := do
  let number ← Unboxing.long value
  return .long number

/-- Any number as a double; unlike unboxing this takes longs and characters too. -/
def toDouble (value : Value) : Except Failure Value := do
  let datum ← Arithmetic.number value
  return .double (Arithmetic.toDouble datum)

def toText : Value → Except Failure Value
  | .null => .ok (.text "null")
  | .boxed datum => .ok (.text datum.text)
  | .text content => .ok (.text content)

end Characters
end HostBridge
