import HostBridge.Number.IntegerReading
import HostBridge.Value.Datum

/-!
# Reading literals

The forms are told apart in this order: the word for nothing, a text in double quotes, a character in
single quotes, a long with its final letter, a single with its, a double by a point or an exponent
letter, and an integer.
-/

namespace HostBridge

inductive LiteralFault where
  | characterCount (text : String)
  | characterWidth (text : String)
  | long (text : String) (cause : IntegerFault)
  | single (text : String) (cause : FloatFault)
  | double (text : String) (cause : FloatFault)
  | integer (text : String) (cause : IntegerFault)
  deriving DecidableEq, Repr

def LiteralFault.message : LiteralFault → String
  | .characterCount text => "character literal " ++ text ++ " must hold exactly one character"
  | .characterWidth text => "character " ++ text ++ " does not fit in one code unit"
  | .long text cause => "invalid long literal: " ++ text ++ ": " ++ cause.message
  | .single text cause => "invalid float literal: " ++ text ++ ": " ++ cause.message
  | .double text cause => "invalid double literal: " ++ text ++ ": " ++ cause.message
  | .integer text cause => "invalid integer literal: " ++ text ++ ": " ++ cause.message

namespace Literal

/-- What comes before a final character. -/
def dropSuffix? (suffix : Char) (text : List Char) : Option (List Char) :=
  if text.getLast? = some suffix then some text.dropLast else none

/-- What is between two quotes. -/
def unquote? (quote : Char) : List Char → Option (List Char)
  | [] => none
  | first :: rest => if first = quote then dropSuffix? quote rest else none

def readCharacter (text : String) : List Char → Except LiteralFault Value
  | [character] =>
      if character.toNat < 65536 then .ok (.character (UInt16.ofNat character.toNat))
      else .error (.characterWidth text)
  | _ => .error (.characterCount text)

def readLong (text : String) (digits : List Char) : Except LiteralFault Value :=
  match IntegerReading.read 64 digits with
  | .ok number => .ok (.long (Int64.ofInt number))
  | .error cause => .error (.long text cause)

def readSingle (text : String) (digits : List Char) : Except LiteralFault Value :=
  match Single.read digits with
  | .ok number => .ok (.single number)
  | .error cause => .error (.single text cause)

def readDouble (text : String) : Except LiteralFault Value :=
  match Double.read text.toList with
  | .ok number => .ok (.double number)
  | .error cause => .error (.double text cause)

def readInteger (text : String) : Except LiteralFault Value :=
  match IntegerReading.read 32 text.toList with
  | .ok number => .ok (.integer (Int32.ofInt number))
  | .error cause => .error (.integer text cause)

def marksDouble (character : Char) : Bool :=
  character = '.' || character = 'e' || character = 'E'

def readNumber (text : String) : Except LiteralFault Value :=
  match dropSuffix? 'L' text.toList, dropSuffix? 'f' text.toList with
  | some digits, _ => readLong text digits
  | none, some digits => readSingle text digits
  | none, none =>
      if text.toList.any marksDouble then readDouble text else readInteger text

def read (text : String) : Except LiteralFault Value :=
  if text = "null" then .ok .null
  else
    match unquote? '"' text.toList, unquote? '\'' text.toList with
    | some content, _ => .ok (.text (String.ofList content))
    | none, some content => readCharacter text content
    | none, none => readNumber text

end Literal
end HostBridge
