import HostBridge.Value.Printing

/-!
# Writing literals

The text of a value in the form in which literals are read: nothing is escaped, and the last letter
or the shape of a number tells its type.
-/

namespace HostBridge
namespace Literal

def writeDatum : Datum → String
  | .integer number => toString number.toInt
  | .character unit => "'" ++ Datum.unitText unit ++ "'"
  | .long number => toString number.toInt ++ "L"
  | .single number => number.text .pointed ++ "f"
  | .double number => number.text .pointed

def write : Value → String
  | .null => "null"
  | .boxed datum => writeDatum datum
  | .text content => "\"" ++ content ++ "\""

end Literal
end HostBridge
