import HostBridge.Journal
import HostBridge.Symbol.Stream
import HostBridge.Symbol.Table

/-!
# Loading

A pass numbers the lines of a manifest from the number of names the table has, and binds each line
to its number, up to the end or the first empty line.  The counter moves on also where a name is
bound again, so a later pass may start below indices that were given out; both are reported and
neither is put right.  A line that cannot be read ends the pass and keeps what was bound.
-/

namespace HostBridge

structure LoadFailure where
  soname : String
  line : Nat
  cause : ReadFault
  deriving DecidableEq, Repr

def LoadFailure.message (failure : LoadFailure) : String :=
  "I/O error reading symbol manifest for " ++ failure.soname ++ " at line " ++
    toString failure.line ++ ": " ++ failure.cause.message

/-- What a pass leaves: the table, the number of names or the failure, and its log. -/
structure Pass where
  table : Table
  outcome : Except LoadFailure Nat
  events : List Event

namespace Pass

/-- Put log events in front of those of a pass. -/
def after (earlier : List Event) (pass : Pass) : Pass :=
  ⟨pass.table, pass.outcome, earlier ++ pass.events⟩

end Pass

namespace Table

/-- Warn where a pass starts below indices that were given out. -/
def startEvents (soname : String) (table : Table) : List Event :=
  if table.size < table.highWater then
    [.startedLow soname table.size table.highWater]
  else
    []

def bindEvents (soname : String) (table : Table) (name : String) (index : Nat) : List Event :=
  .bound soname name index ::
    match table.index? name with
    | some previous => [.rebound soname name previous index]
    | none => []

/-- A pass that started at index `first` and has bound `count` lines. -/
def loadFrom (soname : String) (first : Nat) (table : Table) (count : Nat) :
    List LineReading → Pass
  | [] => ⟨table, .ok count, [.loaded soname count first (first + count)]⟩
  | .error fault :: _ => ⟨table, .error ⟨soname, count + 1, fault⟩, []⟩
  | .ok name :: rest =>
      if name = "" then
        ⟨table, .ok count, [.loaded soname count first (first + count)]⟩
      else
        (loadFrom soname first (table.bind name (first + count)) (count + 1) rest).after
          (table.bindEvents soname name (first + count))

def load (soname : String) (table : Table) (lines : List LineReading) : Pass :=
  (loadFrom soname table.size table 0 lines).after (table.startEvents soname)

end Table
end HostBridge
