import HostBridge.Callable
import HostBridge.Symbol.Listing
import HostBridge.Symbol.Loading
import HostBridge.Text.Quoted

/-!
# Libraries

A host with the table of its names.  Manifests extend the table; a name is resolved once, to a
callable that keeps the index it had then.
-/

namespace HostBridge

structure Library where
  host : Host
  table : Table := {}

namespace Library

def soname (library : Library) : String :=
  library.host.soname

/-- Extend the table by one manifest.  What was bound before a failure stays bound. -/
def load (library : Library) (stream : Stream) :
    Recorded (Except LoadFailure Nat × Library) :=
  let pass := library.table.load library.soname stream.lines
  ⟨(pass.outcome, ⟨library.host, pass.table⟩), pass.events.map .logged⟩

def resolve? (library : Library) (name : String) : Option Callable :=
  (library.table.index? name).map (.native library.host name)

theorem resolve?_eq_some_iff (library : Library) (name : String) (callable : Callable) :
    library.resolve? name = some callable ↔
      ∃ index, library.table.index? name = some index ∧
        .native library.host name index = callable :=
  Option.map_eq_some_iff

theorem resolve?_eq_none_iff (library : Library) (name : String) :
    library.resolve? name = none ↔ library.table.index? name = none :=
  Option.map_eq_none_iff

def listing (library : Library) : String :=
  library.table.listing library.soname

def describe (library : Library) : String :=
  "LoadedLibrary \x7b soname: " ++ Quoted.text library.soname ++ ", count: " ++
    toString library.table.size ++ " \x7d"

end Library
end HostBridge
