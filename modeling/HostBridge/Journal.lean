import HostBridge.Value.Datum

/-!
# Journals

What loading and calling leave behind beside their results: log events, each with its level, its
origin and its message, and the calls that a host library notes for itself.  A recorded result
carries its journal, in the order in which things happened.
-/

namespace HostBridge

inductive Level where
  | error
  | warn
  | info
  | debug
  | trace
  deriving DecidableEq, Repr

namespace Level

def all : List Level := [.error, .warn, .info, .debug, .trace]

/-- How much detail a level lets through. -/
def detail : Level → Nat
  | .error => 1
  | .warn => 2
  | .info => 3
  | .debug => 4
  | .trace => 5

def name : Level → String
  | .error => "ERROR"
  | .warn => "WARN"
  | .info => "INFO"
  | .debug => "DEBUG"
  | .trace => "TRACE"

end Level

/-!
## Log events
-/

inductive Event where
  | startedLow (soname : String) (first highWater : Nat)
  | bound (soname name : String) (index : Nat)
  | rebound (soname name : String) (previous index : Nat)
  | loaded (soname : String) (count first next : Nat)
  | opened (soname : String) (first second : Nat)
  | dispatched (soname : String) (index arguments : Nat)
  | contained (text : String)
  | calling (signature : String) (arguments : Nat)
  | manifestRead (path : String) (count : Nat)
  deriving DecidableEq, Repr

namespace Event

def level : Event → Level
  | .startedLow .. => .warn
  | .rebound .. => .warn
  | .manifestRead .. => .info
  | .loaded .. => .debug
  | .opened .. => .debug
  | .contained .. => .debug
  | .calling .. => .debug
  | .bound .. => .trace
  | .dispatched .. => .trace

/-- The part of the program that a log filter knows the event by. -/
def origin : Event → String
  | .startedLow .. => "kiln_engine::vm::symbols"
  | .bound .. => "kiln_engine::vm::symbols"
  | .rebound .. => "kiln_engine::vm::symbols"
  | .loaded .. => "kiln_engine::vm::symbols"
  | .opened .. => "kiln_stdlib::core"
  | .dispatched .. => "kiln_engine::vm::native_registry"
  | .contained .. => "kiln_engine::vm::callable"
  | .calling .. => "kiln::commands::call"
  | .manifestRead .. => "kiln::commands::symbols"

def message : Event → String
  | .startedLow soname first highWater =>
      soname ++ ": symbol pass starts at index " ++ toString first ++
        " below high-water mark " ++ toString highWater ++ "; indices may alias"
  | .bound soname name index =>
      soname ++ ": bind " ++ name ++ " -> " ++ toString index
  | .rebound soname name previous index =>
      soname ++ ": symbol '" ++ name ++ "' rebound from index " ++ toString previous ++
        " to " ++ toString index ++ "; index " ++ toString previous ++
        " is unreachable by name"
  | .loaded soname count first next =>
      soname ++ ": loaded " ++ toString count ++ " symbol(s) at indices " ++
        toString first ++ ".." ++ toString next
  | .opened soname first second =>
      soname ++ ": opened with " ++ toString first ++ " + " ++ toString second ++ " symbols"
  | .dispatched soname index arguments =>
      "dispatch " ++ soname ++ "#" ++ toString index ++ " with " ++ toString arguments ++
        " argument(s)"
  | .contained text => "host panic during native call: " ++ text
  | .calling signature arguments =>
      "calling " ++ signature ++ " with " ++ toString arguments ++ " argument(s)"
  | .manifestRead path count => path ++ ": " ++ toString count ++ " name(s)"

end Event

/-!
## Calls and journals
-/

/-- The task that calls, and whether it has asked the call to stop. -/
structure Context where
  task : Nat := 0
  interrupted : Bool := false
  deriving DecidableEq, Repr

def Context.detached : Context := {}

structure HostCall where
  index : Nat
  context : Context
  arguments : List Value
  deriving DecidableEq, Repr

inductive Entry where
  | logged (event : Event)
  | noted (call : HostCall)
  deriving DecidableEq, Repr

namespace Entry

def event? : Entry → Option Event
  | .logged event => some event
  | .noted _ => none

def call? : Entry → Option HostCall
  | .logged _ => none
  | .noted call => some call

end Entry

structure Recorded (result : Type) where
  result : result
  journal : List Entry := []

namespace Recorded

/-- Put entries in front of what was recorded. -/
def after {result : Type} (entries : List Entry) (recorded : Recorded result) :
    Recorded result :=
  ⟨recorded.result, entries ++ recorded.journal⟩

instance : Monad Recorded where
  pure result := ⟨result, []⟩
  bind recorded next := (next recorded.result).after recorded.journal

theorem result_bind {first second : Type} (recorded : Recorded first)
    (next : first → Recorded second) :
    (recorded >>= next).result = (next recorded.result).result := rfl

def log (event : Event) : Recorded Unit :=
  ⟨(), [.logged event]⟩

def note (call : HostCall) : Recorded Unit :=
  ⟨(), [.noted call]⟩

def events {result : Type} (recorded : Recorded result) : List Event :=
  recorded.journal.filterMap Entry.event?

def calls {result : Type} (recorded : Recorded result) : List HostCall :=
  recorded.journal.filterMap Entry.call?

end Recorded
end HostBridge
