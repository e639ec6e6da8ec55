import HostBridge.Symbol.Table

/-!
# Listings

The printed form of a table: its names by ascending index, names that share an index in the order in
which they came, then the lost indices.
-/

namespace HostBridge
namespace Table

def byIndex (table : Table) : List (String × Nat) :=
  table.bindings.mergeSort fun earlier later => earlier.2 ≤ later.2

/-- A number at the right of six columns, or as wide as it is. -/
def column (number : Nat) : String :=
  String.ofList ((Nat.toDigits 10 number).leftpad 6 ' ')

def bindingLine (binding : String × Nat) : String :=
  column binding.2 ++ "  " ++ binding.1 ++ "\n"

def unreachableLine (table : Table) : String :=
  match table.unreachable with
  | [] => ""
  | lost => "unreachable: " ++ ", ".intercalate (lost.map toString) ++ "\n"

def listing (soname : String) (table : Table) : String :=
  soname ++ ": " ++ toString table.size ++ " symbol(s)\n" ++
    String.join (table.byIndex.map bindingLine) ++ table.unreachableLine

end Table
end HostBridge
