import HostBridge.Text.Quoted
import HostBridge.Value.Datum

/-!
# Printed values

The plain text of a datum, and the text of data and values in diagnostics, which shows the tag.
-/

namespace HostBridge
namespace Datum

/-- The character of a code unit, or its code where it is half of a pair. -/
def unitText (unit : UInt16) : String :=
  if unit.toNat.isValidChar then String.singleton (Char.ofNat unit.toNat)
  else Quoted.codePoint (Quoted.fourHexDigits unit.toNat)

def text : Datum → String
  | .integer number => toString number.toInt
  | .character unit => unitText unit
  | .long number => toString number.toInt
  | .single number => number.text .plain
  | .double number => number.text .plain

def describe : Datum → String
  | .integer number => "Integer(" ++ toString number.toInt ++ ")"
  | .character unit => "Character(0x" ++ Quoted.fourHexDigits unit.toNat ++ ")"
  | .long number => "Long(" ++ toString number.toInt ++ ")"
  | .single number => "Float32(" ++ number.text .plain ++ ")"
  | .double number => "Float64(" ++ number.text .plain ++ ")"

end Datum

namespace Value

def describe : Value → String
  | .null => "NativeValue::Null"
  | .boxed datum => "NativeValue::" ++ datum.describe
  | .text content => "NativeValue::String(" ++ Quoted.text content ++ ")"

def describeAll (values : List Value) : String :=
  "[" ++ ", ".intercalate (values.map describe) ++ "]"

end Value
end HostBridge
