import HostBridge.Text.Octets

/-!
# Text for terminals

What is left of a text without the sequences that a terminal acts on and without its control
characters, white space apart.  White space inside a sequence is kept; what follows it is plain text
up to the next control character, where the sequence goes on.
-/

namespace HostBridge
namespace Terminal

/-- What an octet is part of: plain text, a character of several octets of which some are left, or a
sequence of one of the kinds that the escape character starts. -/
inductive Mode where
  | ground
  | character (left : Nat)
  | escape
  | escapeIntermediate
  | control
  | deviceEntry
  | deviceParameters
  | deviceIntermediate
  | deviceBody
  | systemCommand
  | privateString
  deriving DecidableEq, Repr

/-!
## Octets
-/

def isWithin (low high octet : UInt8) : Bool :=
  low ≤ octet && octet ≤ high

def isSpace (octet : UInt8) : Bool :=
  octet = 0x09 || octet = 0x0A || octet = 0x0C || octet = 0x0D

def isLead (octet : UInt8) : Bool :=
  isWithin 0xC2 0xF4 octet

def followers (lead : UInt8) : Nat :=
  if lead < 0xE0 then 1 else if lead < 0xF0 then 2 else 3

/-!
## Modes
-/

def changeEscape (octet : UInt8) : Option Mode :=
  if isWithin 0x20 0x2F octet then some .escapeIntermediate
  else if octet = 0x5B then some .control
  else if octet = 0x5D then some .systemCommand
  else if octet = 0x50 then some .deviceEntry
  else if octet = 0x58 ∨ octet = 0x5E ∨ octet = 0x5F then some .privateString
  else if isWithin 0x30 0x7E octet then some .ground
  else none

def changeDevice (parameters : UInt8) (octet : UInt8) : Option Mode :=
  if isWithin 0x20 0x2F octet then some .deviceIntermediate
  else if isWithin parameters 0x7E octet then some .deviceBody
  else none

/-- The mode that an octet leads to, where it leads to another.  Cancelling and escaping do so from
anywhere. -/
def change (mode : Mode) (octet : UInt8) : Option Mode :=
  if octet = 0x18 ∨ octet = 0x1A then some .ground
  else if octet = 0x1B then some .escape
  else
    match mode with
    | .ground => if isLead octet then some (.character (followers octet)) else none
    | .character _ => none
    | .escape => changeEscape octet
    | .escapeIntermediate => if isWithin 0x30 0x7E octet then some .ground else none
    | .control => if isWithin 0x40 0x7E octet then some .ground else none
    | .deviceEntry =>
        if isWithin 0x30 0x3F octet then some .deviceParameters else changeDevice 0x40 octet
    | .deviceParameters => changeDevice 0x3C octet
    | .deviceIntermediate => if isWithin 0x30 0x7E octet then some .deviceBody else none
    | .deviceBody => if octet = 0x9C then some .ground else none
    | .systemCommand => if octet = 0x07 then some .ground else none
    | .privateString => if octet = 0x9C then some .ground else none

def isKept (mode : Mode) (octet : UInt8) : Bool :=
  match mode with
  | .ground => isWithin 0x20 0x7E octet || isSpace octet || isLead octet
  | .escape => isSpace octet
  | .escapeIntermediate => isSpace octet
  | .control => isSpace octet
  | _ => false

/-- The octets that are kept, read in a mode or, after a kept one, as plain text. -/
def keep : Mode → (plain : Bool) → List UInt8 → List UInt8
  | _, _, [] => []
  | .character left, _, octet :: rest =>
      octet :: keep (if left ≤ 1 then .ground else .character (left - 1)) true rest
  | mode, plain, octet :: rest =>
      let reading := if plain then .ground else mode
      let next := (change reading octet).getD mode
      if isKept reading octet then octet :: keep next true rest
      else if plain then keep ((change next octet).getD next) false rest
      else keep next false rest

def plainText (text : String) : String :=
  (Octets.toText? (keep .ground false (Octets.ofText text))).getD ""

end Terminal
end HostBridge
