import Std.Data.HashMap
import HostBridge.Value.Pool

/-!
# Classes of equal handles

Handles are entered into a hash map in order, and the first of each class stays.  Every handle is
answered with the position of the first that is equal to it.
-/

namespace HostBridge
namespace Classes

/-- The positions of the first equal handles, from a position on, and the map of first handles. -/
def enter (position : Nat) (first : Std.HashMap Handle Nat) :
    List Handle → List Nat × Std.HashMap Handle Nat
  | [] => ([], first)
  | handle :: rest =>
      let (known, grown) := first.getThenInsertIfNew? handle position
      let (positions, all) := enter (position + 1) grown rest
      (known.getD position :: positions, all)

def firstPositions (handles : List Handle) : List Nat :=
  (enter 0 {} handles).1

def count (handles : List Handle) : Nat :=
  (enter 0 {} handles).2.size

end Classes
end HostBridge
