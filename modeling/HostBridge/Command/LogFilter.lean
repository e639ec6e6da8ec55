import HostBridge.Journal

/-!
# Log filters

A filter is a list of directives, each a level for the origins that start with a certain text.  The
longest text that fits an origin decides, and an origin that none fits is silent.
-/

namespace HostBridge

structure Directive where
  origin : String
  detail : Nat
  deriving DecidableEq, Repr

structure LogFilter where
  directives : List Directive
  deriving DecidableEq, Repr

namespace LogFilter

/-- The detail that a level's name lets through, in any case; `off` lets nothing through. -/
def detail? (text : String) : Option Nat :=
  let upper := String.ofList (text.toList.map Char.toUpper)
  if upper = "OFF" then some 0
  else (Level.all.find? fun level => level.name = upper).map Level.detail

/-!
## Reading
-/

def isBlank (character : Char) : Bool :=
  let code := character.toNat
  (9 ≤ code && code ≤ 13) || code = 0x20 || code = 0x85 || code = 0xA0 || code = 0x1680 ||
    (0x2000 ≤ code && code ≤ 0x200A) || code = 0x2028 || code = 0x2029 || code = 0x202F ||
    code = 0x205F || code = 0x3000

def trim (text : List Char) : List Char :=
  ((text.dropWhile isBlank).reverse.dropWhile isBlank).reverse

/-- The parts of a text between the places where a character stands. -/
def parts (separator : Char) : List Char → List (List Char)
  | [] => [[]]
  | first :: rest =>
      match parts separator rest with
      | [] => []
      | part :: later =>
          if first = separator then [] :: part :: later else (first :: part) :: later

/-- A directive, or the text at fault. -/
def readDirective (text : List Char) : Except String Directive :=
  match parts '=' text with
  | [only] =>
      match detail? (String.ofList only) with
      | some detail => .ok ⟨"", detail⟩
      | none => .ok ⟨String.ofList only, Level.trace.detail⟩
  | [origin, level] =>
      let level := String.ofList (trim level)
      if level = "" then .ok ⟨String.ofList origin, Level.trace.detail⟩
      else
        match detail? level with
        | some detail => .ok ⟨String.ofList origin, detail⟩
        | none => .error level
  | _ => .error (String.ofList text)

/-- A later directive for the same origin takes the earlier one's place. -/
def insert (directive : Directive) : List Directive → List Directive
  | [] => [directive]
  | first :: rest =>
      if first.origin = directive.origin then directive :: rest
      else first :: insert directive rest

def read (text : String) : LogFilter × List String :=
  let read := ((parts ',' text.toList).map trim).filter (· ≠ []) |>.map readDirective
  let directives := (read.filterMap Except.toOption).foldl (fun sofar next => insert next sofar) []
  let faults := read.filterMap fun
    | .error fault => some fault
    | .ok _ => none
  (⟨if directives = [] then [⟨"", Level.error.detail⟩] else directives⟩, faults)

/-- What is in force where no filter is given. -/
def standard : String := "warn"

/-!
## Filtering
-/

def fits (origin : String) (directive : Directive) : Bool :=
  directive.origin.toList.isPrefixOf origin.toList

def admits (filter : LogFilter) (event : Event) : Bool :=
  let fitting := filter.directives.filter (fits event.origin)
  let byLength := fitting.mergeSort fun earlier later =>
    later.origin.utf8ByteSize ≤ earlier.origin.utf8ByteSize
  match byLength with
  | [] => false
  | longest :: _ => event.level.detail ≤ longest.detail

end LogFilter
end HostBridge
