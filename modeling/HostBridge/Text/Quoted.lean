import HostBridge.Text.Hidden

/-!
# Quoted text

The quoted form of a text in diagnostics: double quotes around it, short escapes for the characters
that have one, and the code point of every other character without a printed form.
-/

namespace HostBridge
namespace Quoted

def hexDigits (code : Nat) : String :=
  String.ofList (Nat.toDigits 16 code)

def fourHexDigits (code : Nat) : String :=
  String.ofList ((Nat.toDigits 16 code).leftpad 4 '0')

def codePoint (code : String) : String :=
  "\\u\x7b" ++ code ++ "\x7d"

def escape (character : Char) : String :=
  match character with
  | '\x00' => "\\0"
  | '\t' => "\\t"
  | '\r' => "\\r"
  | '\n' => "\\n"
  | '"' => "\\\""
  | '\\' => "\\\\"
  | other =>
      if Hidden.isHidden other then codePoint (hexDigits other.toNat)
      else String.singleton other

def text (content : String) : String :=
  "\"" ++ String.join (content.toList.map escape) ++ "\""

end Quoted
end HostBridge
