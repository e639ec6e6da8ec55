import HostBridge.Library
import HostBridge.Proofs.Symbol.Passes

/-!
# Runs of passes

A library is loaded by passes over streams, one after another.  What a run leaves in the table
depends on the names of each pass alone.
-/

namespace HostBridge

namespace Table

def extendAll (table : Table) (passes : List (List String)) : Table :=
  passes.foldl extend table

@[simp] theorem extendAll_nil (table : Table) : table.extendAll [] = table := rfl

@[simp] theorem extendAll_cons (table : Table) (names : List String) (rest : List (List String)) :
    table.extendAll (names :: rest) = (table.extend names).extendAll rest := rfl

theorem extendAll_append (table : Table) (front back : List (List String)) :
    table.extendAll (front ++ back) = (table.extendAll front).extendAll back :=
  List.foldl_append

theorem extend_le
    {table : Table} {count : Nat} (hsize : table.size ≤ count) (hmark : table.highWater ≤ count)
    (names : List String) :
    (table.extend names).size ≤ count + names.length ∧
      (table.extend names).highWater ≤ count + names.length := by
  have hnames := size_bindAll_le table (names.zipIdx table.size)
  rw [List.length_zipIdx] at hnames
  constructor
  · exact Nat.le_trans hnames (Nat.add_le_add_right hsize names.length)
  · rw [extend, highWater_bindAll_zipIdx]
    split <;> omega

theorem extendAll_le
    {table : Table} {count : Nat} (hsize : table.size ≤ count) (hmark : table.highWater ≤ count)
    (passes : List (List String)) :
    (table.extendAll passes).size ≤ count + passes.flatten.length ∧
      (table.extendAll passes).highWater ≤ count + passes.flatten.length := by
  induction passes generalizing table count with
  | nil => exact ⟨hsize, hmark⟩
  | cons names rest ih =>
      rcases extend_le hsize hmark names with ⟨hsize, hmark⟩
      rw [extendAll_cons, List.flatten_cons, List.length_append, ← Nat.add_assoc]
      exact ih hsize hmark

end Table

namespace Library

def fresh (host : Host) : Library :=
  { host := host }

/-- Passes over streams.  One that fails keeps what it bound, and the next goes on from there. -/
def loadAll (library : Library) :
    List Stream → Recorded (List (Except LoadFailure Nat) × Library)
  | [] => pure ([], library)
  | stream :: rest => do
      let (outcome, loaded) ← library.load stream
      let (outcomes, final) ← loaded.loadAll rest
      return (outcome :: outcomes, final)

def after (library : Library) (streams : List Stream) : Library :=
  (library.loadAll streams).result.2

@[simp] theorem after_nil (library : Library) : library.after [] = library := rfl

theorem after_cons (library : Library) (stream : Stream) (rest : List Stream) :
    library.after (stream :: rest) = (library.load stream).result.2.after rest := rfl

def passNames (streams : List Stream) : List (List String) :=
  streams.map fun stream => LineReading.names stream.lines

theorem load_library (library : Library) (stream : Stream) :
    (library.load stream).result.2 =
      ⟨library.host, library.table.extend (LineReading.names stream.lines)⟩ := by
  simp only [load, Table.load_table]

theorem load_outcome (library : Library) (stream : Stream) :
    (library.load stream).result.1 =
      Table.passOutcome library.soname (LineReading.names stream.lines).length
        (LineReading.fault? stream.lines) :=
  Table.load_outcome library.soname library.table stream.lines

theorem load_events (library : Library) (stream : Stream) :
    (library.load stream).events =
      (library.table.load library.soname stream.lines).events := by
  simp [load, Recorded.events, List.filterMap_map, Entry.event?, Function.comp_def]

theorem load_assignments (library : Library) (stream : Stream) :
    (library.load stream).events.filterMap Event.assignment? =
      (LineReading.names stream.lines).zipIdx library.table.size := by
  rw [load_events, Table.load_assignments]

theorem after_eq (library : Library) (streams : List Stream) :
    library.after streams = ⟨library.host, library.table.extendAll (passNames streams)⟩ := by
  induction streams generalizing library with
  | nil => rfl
  | cons stream rest ih =>
      rw [after_cons, load_library, ih]
      rfl

theorem soname_after (library : Library) (streams : List Stream) :
    (library.after streams).soname = library.soname := by
  rw [after_eq]
  rfl

theorem table_after (library : Library) (streams : List Stream) :
    (library.after streams).table = library.table.extendAll (passNames streams) := by
  rw [after_eq]

end Library
end HostBridge
