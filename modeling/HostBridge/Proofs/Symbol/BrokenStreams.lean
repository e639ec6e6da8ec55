import HostBridge.Proofs.Symbol.Runs
import HostBridge.Proofs.Text.Lines

/-!
# Streams that cannot be read to the end

A load that fails at a line leaves what loading the lines before it leaves.  Behind the first empty
line nothing matters: neither more names, nor octets that are no text, nor a fault.
-/

namespace HostBridge

namespace Stream

/-!
## Lines by position
-/

def cut (stream : Stream) : Cut UInt8 :=
  Cut.byMark lineFeed stream.octets

/-- The line at a position, from zero, cannot be read: it is no text by itself, or the stream breaks
off before its end. -/
inductive FailsAt (stream : Stream) : Nat → ReadFault → Prop where
  | ended {position : Nat} {line : List UInt8} :
      stream.cut.ended[position]? = some line ->
      Octets.toText? line = none ->
      FailsAt stream position .notText
  | pending :
      stream.ending = .complete ->
      Octets.toText? stream.cut.pending = none ->
      FailsAt stream stream.cut.ended.length .notText
  | broken {words : String} :
      stream.ending = .broken words ->
      FailsAt stream stream.cut.ended.length (.device words)

/-- The line at a position is ended and holds nothing, or a return alone. -/
def BlankAt (stream : Stream) (position : Nat) : Prop :=
  stream.cut.ended[position]? = some [] ∨ stream.cut.ended[position]? = some [carriageReturn]

/-- The first lines of a stream with their line feeds, as a stream that ends there. -/
def firstLines (stream : Stream) (count : Nat) : Stream :=
  ⟨(stream.cut.ended.take count).flatMap fun line => line ++ [lineFeed], .complete⟩

theorem lines_eq (stream : Stream) :
    stream.lines =
      stream.cut.ended.map (fun line => readLine (dropFinal carriageReturn line)) ++
        readPending stream.cut.pending stream.ending := rfl

theorem cut_firstLines (stream : Stream) (count : Nat) :
    (stream.firstLines count).cut = ⟨stream.cut.ended.take count, []⟩ := by
  have hended : forall line, line ∈ stream.cut.ended.take count -> lineFeed ∉ line :=
    fun line h => Cut.not_mem_of_mem_ended_byMark (List.mem_of_mem_take h)
  have hjoin : Cut.byMark lineFeed (Cut.join lineFeed ⟨stream.cut.ended.take count, []⟩) =
      ⟨stream.cut.ended.take count, []⟩ :=
    Cut.byMark_join hended List.not_mem_nil
  rw [Cut.join, List.append_nil] at hjoin
  exact hjoin

theorem lines_firstLines
    {stream : Stream} {count : Nat} (hcount : count ≤ stream.cut.ended.length) :
    (stream.firstLines count).lines = stream.lines.take count := by
  rw [lines_eq, cut_firstLines, lines_eq, List.take_append_of_le_length (by simpa using hcount),
    List.map_take]
  exact List.append_nil _

/-!
## Readings by position
-/

theorem readLine_eq_error_iff (line : List UInt8) (fault : ReadFault) :
    readLine line = .error fault <-> Octets.toText? line = none ∧ fault = .notText := by
  rw [readLine]
  cases Octets.toText? line with
  | none => simp [eq_comm]
  | some text => simp

theorem readLine_eq_empty_iff (line : List UInt8) : readLine line = .ok "" <-> line = [] := by
  have hempty : Octets.toText? line = some "" <-> line = [] := Octets.toText?_eq_some_iff
  rw [readLine, ← hempty]
  cases Octets.toText? line with
  | none => simp
  | some text => simp

theorem dropFinal_eq_nil_iff (line : List UInt8) :
    dropFinal carriageReturn line = [] <-> line = [] ∨ line = [carriageReturn] := by
  constructor
  · intro hdrop
    by_cases hlast : line.getLast? = some carriageReturn
    · rcases List.getLast?_eq_some_iff.mp hlast with ⟨front, rfl⟩
      rw [Cut.dropFinal_append_mark] at hdrop
      rw [hdrop]
      exact Or.inr rfl
    · rw [Cut.dropFinal_of_ne hlast] at hdrop
      exact Or.inl hdrop
  · intro hline
    rcases hline with rfl | rfl <;> rfl

theorem getElem?_lines_of_failsAt
    {stream : Stream} {position : Nat} {fault : ReadFault}
    (hfails : stream.FailsAt position fault) :
    stream.lines[position]? = some (.error fault) := by
  rw [lines_eq]
  cases hfails with
  | @ended position line hline htext =>
      have hread : readLine (dropFinal carriageReturn line) = .error .notText :=
        (readLine_eq_error_iff _ _).mpr ⟨(toText?_dropFinal_eq_none_iff line).mpr htext, rfl⟩
      have hposition : position < stream.cut.ended.length := (List.getElem?_eq_some_iff.mp hline).1
      rw [List.getElem?_append_left (by simpa using hposition), List.getElem?_map, hline,
        Option.map_some, hread]
  | pending hending htext =>
      have hne : stream.cut.pending ≠ [] := by
        intro hnil
        rw [hnil] at htext
        exact absurd htext (by rw [show Octets.toText? [] = some "" from rfl]; simp)
      have hread : readLine stream.cut.pending = .error .notText :=
        (readLine_eq_error_iff _ _).mpr ⟨htext, rfl⟩
      rw [List.getElem?_append_right (by simp), hending, readPending, if_neg hne, hread]
      simp
  | broken hending =>
      rw [List.getElem?_append_right (by simp), hending, readPending]
      simp

theorem failsAt_of_getElem?_lines
    {stream : Stream} {position : Nat} {fault : ReadFault}
    (hline : stream.lines[position]? = some (.error fault)) :
    stream.FailsAt position fault := by
  rw [lines_eq] at hline
  by_cases hposition : position < stream.cut.ended.length
  · rw [List.getElem?_append_left (by simpa using hposition), List.getElem?_map,
      List.getElem?_eq_getElem hposition, Option.map_some, Option.some.injEq,
      readLine_eq_error_iff, toText?_dropFinal_eq_none_iff] at hline
    rcases hline with ⟨htext, rfl⟩
    exact .ended (List.getElem?_eq_getElem hposition) htext
  · rw [List.getElem?_append_right (by simpa using hposition), List.length_map] at hline
    cases hending : stream.ending with
    | broken words =>
        rw [hending, readPending, List.getElem?_singleton] at hline
        split at hline
        · rename_i hzero
          have hlast : position = stream.cut.ended.length := by omega
          cases hline
          exact hlast ▸ .broken hending
        · cases hline
    | complete =>
        rw [hending, readPending] at hline
        split at hline
        · cases hline
        · rw [List.getElem?_singleton] at hline
          split at hline
          · rename_i hzero
            have hlast : position = stream.cut.ended.length := by omega
            rw [Option.some.injEq, readLine_eq_error_iff] at hline
            rcases hline with ⟨htext, rfl⟩
            exact hlast ▸ .pending hending htext
          · cases hline

theorem getElem?_lines_of_blankAt
    {stream : Stream} {position : Nat} (hblank : stream.BlankAt position) :
    stream.lines[position]? = some (.ok "") := by
  have hended : exists line, stream.cut.ended[position]? = some line ∧
      dropFinal carriageReturn line = [] := by
    rcases hblank with hline | hline
    · exact ⟨_, hline, rfl⟩
    · exact ⟨_, hline, rfl⟩
  rcases hended with ⟨line, hline, hdrop⟩
  have hposition : position < stream.cut.ended.length := (List.getElem?_eq_some_iff.mp hline).1
  rw [lines_eq, List.getElem?_append_left (by simpa using hposition), List.getElem?_map, hline,
    Option.map_some, hdrop, (readLine_eq_empty_iff []).mpr rfl]

theorem blankAt_of_getElem?_lines
    {stream : Stream} {position : Nat} (hline : stream.lines[position]? = some (.ok "")) :
    stream.BlankAt position := by
  rw [lines_eq] at hline
  by_cases hposition : position < stream.cut.ended.length
  · rw [List.getElem?_append_left (by simpa using hposition), List.getElem?_map,
      List.getElem?_eq_getElem hposition, Option.map_some, Option.some.injEq,
      readLine_eq_empty_iff, dropFinal_eq_nil_iff] at hline
    rw [BlankAt, List.getElem?_eq_getElem hposition]
    simpa using hline
  · rw [List.getElem?_append_right (by simpa using hposition)] at hline
    have hpending := List.mem_of_getElem? hline
    cases hending : stream.ending with
    | broken words =>
        rw [hending, readPending] at hpending
        simp at hpending
    | complete =>
        rw [hending, readPending] at hpending
        split at hpending
        · cases hpending
        · rename_i hne
          rw [List.mem_singleton, eq_comm, readLine_eq_empty_iff] at hpending
          exact absurd hpending hne

theorem le_length_of_failsAt
    {stream : Stream} {position : Nat} {fault : ReadFault}
    (hfails : stream.FailsAt position fault) :
    position ≤ stream.cut.ended.length := by
  cases hfails with
  | ended hline _ => exact Nat.le_of_lt (List.getElem?_eq_some_iff.mp hline).1
  | pending _ _ => exact Nat.le_refl _
  | broken _ => exact Nat.le_refl _

theorem lt_length_of_blankAt
    {stream : Stream} {position : Nat} (hblank : stream.BlankAt position) :
    position < stream.cut.ended.length := by
  rcases hblank with hline | hline
  · exact (List.getElem?_eq_some_iff.mp hline).1
  · exact (List.getElem?_eq_some_iff.mp hline).1

theorem exists_getElem?_lines_eq_ok
    {stream : Stream} {position earlier : Nat} {reading : LineReading}
    (hline : stream.lines[position]? = some reading) (hearlier : earlier < position)
    (hreads : forall fault, ¬stream.FailsAt earlier fault) :
    exists name, stream.lines[earlier]? = some (.ok name) := by
  have hposition : position < stream.lines.length := (List.getElem?_eq_some_iff.mp hline).1
  have hlength : earlier < stream.lines.length := Nat.lt_trans hearlier hposition
  cases hreading : stream.lines[earlier] with
  | error fault =>
      have hfails : stream.lines[earlier]? = some (.error fault) := by
        rw [List.getElem?_eq_getElem hlength, hreading]
      exact absurd (failsAt_of_getElem?_lines hfails) (hreads fault)
  | ok name => exact ⟨name, by rw [List.getElem?_eq_getElem hlength, hreading]⟩

theorem exists_getElem?_lines_eq_name
    {stream : Stream} {position earlier : Nat} {reading : LineReading}
    (hline : stream.lines[position]? = some reading) (hearlier : earlier < position)
    (hreads : forall fault, ¬stream.FailsAt earlier fault) (hfilled : ¬stream.BlankAt earlier) :
    exists name, stream.lines[earlier]? = some (.ok name) ∧ name ≠ "" := by
  rcases exists_getElem?_lines_eq_ok hline hearlier hreads with ⟨name, hname⟩
  refine ⟨name, hname, ?_⟩
  rintro rfl
  exact hfilled (blankAt_of_getElem?_lines hname)

end Stream

/-!
## Readings up to a position
-/

namespace LineReading

theorem names_of_fault
    {readings : List LineReading} {position : Nat} {fault : ReadFault}
    (hfault : readings[position]? = some (.error fault))
    (hnames : forall earlier, earlier < position ->
      exists name, readings[earlier]? = some (.ok name) ∧ name ≠ "") :
    names readings = names (readings.take position) ∧
      (names readings).length = position ∧
      fault? readings = some fault ∧
      fault? (readings.take position) = none := by
  induction readings generalizing position with
  | nil => cases hfault
  | cons reading rest ih =>
      cases position with
      | zero =>
          cases hfault
          exact ⟨rfl, rfl, rfl, rfl⟩
      | succ position =>
          rcases hnames 0 (Nat.succ_pos position) with ⟨name, hname, hne⟩
          cases hname
          rw [List.getElem?_cons_succ] at hfault
          have hrest : forall earlier, earlier < position ->
              exists other, rest[earlier]? = some (.ok other) ∧ other ≠ "" :=
            fun earlier h => hnames (earlier + 1) (Nat.succ_lt_succ h)
          rcases ih hfault hrest with ⟨htake, hlength, hends, hclean⟩
          simp [names, fault?, hne, ← htake, hlength, hends, hclean]

theorem fault?_of_blank
    {readings : List LineReading} {position : Nat}
    (hblank : readings[position]? = some (.ok ""))
    (hnames : forall earlier, earlier < position ->
      exists name, readings[earlier]? = some (.ok name)) :
    fault? readings = none := by
  induction readings generalizing position with
  | nil => rfl
  | cons reading rest ih =>
      cases position with
      | zero =>
          cases hblank
          rfl
      | succ position =>
          rcases hnames 0 (Nat.succ_pos position) with ⟨name, hname⟩
          cases hname
          rw [List.getElem?_cons_succ] at hblank
          have hrest := ih hblank fun earlier h => hnames (earlier + 1) (Nat.succ_lt_succ h)
          rw [fault?, hrest, ite_self]

end LineReading

namespace Table

theorem loadFrom_take_of_blank
    {readings : List LineReading} {position : Nat} (hblank : readings[position]? = some (.ok ""))
    (soname : String) (first : Nat) (table : Table) (count : Nat) :
    loadFrom soname first table count readings =
      loadFrom soname first table count (readings.take (position + 1)) := by
  induction readings generalizing position table count with
  | nil => rfl
  | cons reading rest ih =>
      cases reading with
      | error fault => rfl
      | ok name =>
          rw [List.take_succ_cons, loadFrom, loadFrom]
          by_cases hempty : name = ""
          · rw [if_pos hempty, if_pos hempty]
          · rw [if_neg hempty, if_neg hempty]
            cases position with
            | zero =>
                cases hblank
                exact absurd rfl hempty
            | succ position =>
                rw [List.getElem?_cons_succ] at hblank
                rw [ih hblank]

end Table

/-!
## Loading
-/

namespace Library

/-- A pass that stops at a line which cannot be read, with no empty line before it, tells the number
of the line and leaves the library that a successful pass over the lines before it leaves, so that
all later passes go alike.  A pass that meets an empty line before any line it cannot read succeeds,
and does just what it does where the stream ends behind that line. -/
theorem load_firstLines (library : Library) (stream : Stream) :
    (forall position fault,
      stream.FailsAt position fault ->
      (forall earlier, earlier < position ->
        (forall other, ¬stream.FailsAt earlier other) ∧ ¬stream.BlankAt earlier) ->
      let failed := (library.load stream).result
      let clean := (library.load (stream.firstLines position)).result
      failed.1 = .error ⟨library.soname, position + 1, fault⟩ ∧
        clean.1 = .ok position ∧
        failed.2 = clean.2 ∧
        forall later, failed.2.loadAll later = clean.2.loadAll later) ∧
    (forall position,
      stream.BlankAt position ->
      (forall earlier other, earlier < position -> ¬stream.FailsAt earlier other) ->
      library.load stream = library.load (stream.firstLines (position + 1)) ∧
        exists count, (library.load stream).result.1 = .ok count) := by
  constructor
  · intro position fault hfails hearlier failed clean
    have hfault := Stream.getElem?_lines_of_failsAt hfails
    have hclean := Stream.lines_firstLines (Stream.le_length_of_failsAt hfails)
    have hnames : forall earlier, earlier < position ->
        exists name, stream.lines[earlier]? = some (.ok name) ∧ name ≠ "" := by
      intro earlier hlt
      rcases hearlier earlier hlt with ⟨hreads, hfilled⟩
      exact Stream.exists_getElem?_lines_eq_name hfault hlt hreads hfilled
    rcases LineReading.names_of_fault hfault hnames with ⟨htake, hlength, hends, hfree⟩
    have hlibrary : failed.2 = clean.2 := by
      rw [load_library, load_library, hclean, htake]
    have hfailed : failed.1 = .error ⟨library.soname, position + 1, fault⟩ := by
      rw [load_outcome, hends, hlength]
      rfl
    have hcount : clean.1 = .ok position := by
      rw [load_outcome, hclean, hfree, ← htake, hlength]
      rfl
    exact ⟨hfailed, hcount, hlibrary, fun later => by rw [hlibrary]⟩
  · intro position hblank hearlier
    have hempty := Stream.getElem?_lines_of_blankAt hblank
    have hshort := Stream.lines_firstLines (Stream.lt_length_of_blankAt hblank)
    have hfree : LineReading.fault? stream.lines = none :=
      LineReading.fault?_of_blank hempty fun earlier hlt =>
        Stream.exists_getElem?_lines_eq_ok hempty hlt fun other => hearlier earlier other hlt
    have hpass : library.table.load library.soname stream.lines =
        library.table.load library.soname (stream.firstLines (position + 1)).lines := by
      rw [Table.load, Table.load, hshort, ← Table.loadFrom_take_of_blank hempty]
    refine ⟨by rw [load, load, hpass], (LineReading.names stream.lines).length, ?_⟩
    rw [load_outcome, hfree]
    rfl

/-- Two names, then an octet that no text has: the load fails at the third line, and leaves what a
load of the two names leaves. -/
theorem load_firstLines_third :
    let library : Library := { host := .scratch "lib" }
    let stream : Stream := ⟨[97, 10, 98, 13, 10, 255, 10, 99], .complete⟩
    let failed := (library.load stream).result
    let clean := (library.load (stream.firstLines 2)).result
    stream.FailsAt 2 .notText ∧
      failed.1 = .error ⟨"lib", 3, .notText⟩ ∧
      clean.1 = .ok 2 ∧
      failed.2 = clean.2 := by
  intro library stream failed clean
  have hfails : stream.FailsAt 2 .notText := .ended rfl (by decide +kernel)
  have hreads : stream.lines.take 2 = [.ok "a", .ok "b"] := rfl
  have hearlier : forall earlier, earlier < 2 ->
      (forall other, ¬stream.FailsAt earlier other) ∧ ¬stream.BlankAt earlier := by
    intro earlier hlt
    have hline : stream.lines[earlier]? = [.ok "a", .ok "b"][earlier]? := by
      rw [← hreads, List.getElem?_take_of_lt hlt]
    constructor
    · intro other h
      rw [Stream.getElem?_lines_of_failsAt h] at hline
      rcases earlier with _ | _ | earlier <;> simp at hline
    · intro h
      rw [Stream.getElem?_lines_of_blankAt h] at hline
      rcases earlier with _ | _ | earlier <;> simp at hline
  rcases (load_firstLines library stream).left 2 .notText hfails hearlier with
    ⟨hfailed, hclean, hlibrary, _⟩
  exact ⟨hfails, hfailed, hclean, hlibrary⟩

end Library
end HostBridge
