/-!
# Symbol tables

A table binds names to dispatch indices, in the order in which the names first came.  A name that is
bound again keeps its place and takes the new index.  The high-water mark is one past the largest
index that was ever given out, so indices below it that no name has are lost.

Indices are natural numbers.  A run over an empty table gives out none that reaches the number of lines it
binds, so as long as that number fits a word of 32 bits, every index and the mark do.
-/

namespace HostBridge

/-- Give a name an index: in its place if it has one, at the end otherwise. -/
def assign (name : String) (index : Nat) : List (String × Nat) → List (String × Nat)
  | [] => [(name, index)]
  | (known, old) :: rest =>
      if known = name then (known, index) :: rest
      else (known, old) :: assign name index rest

structure Table where
  bindings : List (String × Nat) := []
  highWater : Nat := 0
  deriving DecidableEq, Repr

namespace Table

def empty : Table := {}

def size (table : Table) : Nat :=
  table.bindings.length

def names (table : Table) : List String :=
  table.bindings.map Prod.fst

def indices (table : Table) : List Nat :=
  table.bindings.map Prod.snd

def index? (table : Table) (name : String) : Option Nat :=
  table.bindings.lookup name

def bind (table : Table) (name : String) (index : Nat) : Table :=
  ⟨assign name index table.bindings, max table.highWater (index + 1)⟩

def unreachable (table : Table) : List Nat :=
  (List.range table.highWater).filter fun index => index ∉ table.indices

/-!
## Binding
-/

@[simp] theorem highWater_bind (table : Table) (name : String) (index : Nat) :
    (table.bind name index).highWater = max table.highWater (index + 1) := rfl

theorem lookup_assign (name other : String) (index : Nat) (bindings : List (String × Nat)) :
    (assign name index bindings).lookup other =
      if other = name then some index else bindings.lookup other := by
  induction bindings with
  | nil => grind [assign]
  | cons binding rest ih => grind [assign]

theorem index?_bind (table : Table) (name other : String) (index : Nat) :
    (table.bind name index).index? other =
      if other = name then some index else table.index? other :=
  lookup_assign name other index table.bindings

end Table
end HostBridge
