import HostBridge.Symbol.Loading
import HostBridge.Proofs.Symbol.Assignments

/-!
# Passes

What one pass does: it assigns consecutive indices, from the number of names on, to the names before
the first empty line or the first line that cannot be read, and its outcome tells which of the two
ended it.
-/

namespace HostBridge

def Event.assignment? : Event → Option (String × Nat)
  | .bound _ name index => some (name, index)
  | _ => none

namespace LineReading

def names : List LineReading → List String
  | [] => []
  | .error _ :: _ => []
  | .ok name :: rest => if name = "" then [] else name :: names rest

/-- The fault that ends a pass; none where it ends at an empty line or with the lines. -/
def fault? : List LineReading → Option ReadFault
  | [] => none
  | .error fault :: _ => some fault
  | .ok name :: rest => if name = "" then none else fault? rest

theorem names_map_ok (texts : List String) :
    names (texts.map .ok) = texts.takeWhile (fun text => text ≠ "") := by
  induction texts with
  | nil => rfl
  | cons text rest ih =>
      by_cases hempty : text = ""
      · simp [names, hempty]
      · simp [names, hempty, ih]

theorem fault?_map_ok (texts : List String) :
    fault? (texts.map .ok) = none := by
  induction texts with
  | nil => rfl
  | cons text rest ih =>
      by_cases hempty : text = ""
      · simp [fault?, hempty]
      · simp [fault?, hempty, ih]

end LineReading

namespace Table

open LineReading (fault?)

/-!
## The three parts of a pass
-/

/-- A table after names were numbered from its size on. -/
def extend (table : Table) (names : List String) : Table :=
  table.bindAll (names.zipIdx table.size)

def passOutcome (soname : String) (count : Nat) : Option ReadFault → Except LoadFailure Nat
  | none => .ok count
  | some fault => .error ⟨soname, count + 1, fault⟩

theorem loadFrom_table
    (soname : String) (first : Nat) (table : Table) (count : Nat) (lines : List LineReading) :
    (loadFrom soname first table count lines).table =
      table.bindAll ((LineReading.names lines).zipIdx (first + count)) := by
  induction lines generalizing table count with
  | nil => rfl
  | cons reading rest ih =>
      cases reading with
      | error fault => rfl
      | ok name =>
          by_cases hempty : name = ""
          · simp [loadFrom, LineReading.names, hempty]
          · simp [loadFrom, LineReading.names, hempty, Pass.after, ih, Nat.add_assoc]

theorem loadFrom_outcome
    (soname : String) (first : Nat) (table : Table) (count : Nat) (lines : List LineReading) :
    (loadFrom soname first table count lines).outcome =
      passOutcome soname (count + (LineReading.names lines).length) (fault? lines) := by
  induction lines generalizing table count with
  | nil => rfl
  | cons reading rest ih =>
      cases reading with
      | error fault => rfl
      | ok name =>
          by_cases hempty : name = ""
          · simp [loadFrom, LineReading.names, fault?, hempty, passOutcome]
          · simp [loadFrom, LineReading.names, fault?, hempty, Pass.after, ih, Nat.add_assoc,
              Nat.add_comm 1]

theorem filterMap_assignment?_bindEvents
    (soname : String) (table : Table) (name : String) (index : Nat) :
    (table.bindEvents soname name index).filterMap Event.assignment? = [(name, index)] := by
  rw [bindEvents]
  split <;> rfl

theorem loadFrom_assignments
    (soname : String) (first : Nat) (table : Table) (count : Nat) (lines : List LineReading) :
    (loadFrom soname first table count lines).events.filterMap Event.assignment? =
      (LineReading.names lines).zipIdx (first + count) := by
  induction lines generalizing table count with
  | nil => rfl
  | cons reading rest ih =>
      cases reading with
      | error fault => rfl
      | ok name =>
          by_cases hempty : name = ""
          · simp [loadFrom, LineReading.names, hempty, Event.assignment?]
          · simp [loadFrom, LineReading.names, hempty, Pass.after,
              filterMap_assignment?_bindEvents, ih, Nat.add_assoc]

/-!
## A whole pass
-/

theorem load_table (soname : String) (table : Table) (lines : List LineReading) :
    (table.load soname lines).table = table.extend (LineReading.names lines) :=
  loadFrom_table soname table.size table 0 lines

theorem load_outcome (soname : String) (table : Table) (lines : List LineReading) :
    (table.load soname lines).outcome =
      passOutcome soname (LineReading.names lines).length (fault? lines) := by
  have h := loadFrom_outcome soname table.size table 0 lines
  rw [Nat.zero_add] at h
  exact h

theorem load_assignments (soname : String) (table : Table) (lines : List LineReading) :
    (table.load soname lines).events.filterMap Event.assignment? =
      (LineReading.names lines).zipIdx table.size := by
  have hstart : (table.startEvents soname).filterMap Event.assignment? = [] := by
    rw [startEvents]
    split <;> rfl
  have hlines := loadFrom_assignments soname table.size table 0 lines
  rw [Nat.add_zero] at hlines
  rw [load, Pass.after, List.filterMap_append, hstart, hlines, List.nil_append]

end Table
end HostBridge
