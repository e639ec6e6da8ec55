/-!
# Lines

A sequence of units cut at a mark: the lines that the mark ends, and what follows the last mark.
The cut is the same for the octets of a stream and for the characters of a text.
-/

namespace HostBridge

/-- The lines that a mark ends, without it, and the units after the last mark. -/
structure Cut (unit : Type) where
  ended : List (List unit)
  pending : List unit
  deriving DecidableEq, Repr

namespace Cut

variable {unit : Type} [DecidableEq unit]

/-- Put one unit in front of the first line. -/
def extend (first : unit) (cut : Cut unit) : Cut unit :=
  match cut.ended with
  | [] => ⟨[], first :: cut.pending⟩
  | line :: later => ⟨(first :: line) :: later, cut.pending⟩

/-- Put an empty line in front. -/
def endLine (cut : Cut unit) : Cut unit :=
  ⟨[] :: cut.ended, cut.pending⟩

def byMark (mark : unit) : List unit → Cut unit
  | [] => ⟨[], []⟩
  | first :: rest =>
      if first = mark then (byMark mark rest).endLine
      else (byMark mark rest).extend first

@[simp] theorem byMark_nil (mark : unit) : Cut.byMark mark [] = ⟨[], []⟩ := rfl

@[simp] theorem byMark_mark (mark : unit) (rest : List unit) :
    Cut.byMark mark (mark :: rest) = (Cut.byMark mark rest).endLine := by
  simp [Cut.byMark]

theorem byMark_cons_of_ne {mark first : unit} (differs : first ≠ mark) (rest : List unit) :
    Cut.byMark mark (first :: rest) = (Cut.byMark mark rest).extend first := by
  simp [Cut.byMark, differs]

/-- The units that were cut, with the mark put back after each ended line. -/
def join (mark : unit) (cut : Cut unit) : List unit :=
  cut.ended.flatMap (fun line => line ++ [mark]) ++ cut.pending

theorem join_byMark (mark : unit) (units : List unit) : (Cut.byMark mark units).join mark = units := by
  induction units with
  | nil => rfl
  | cons first rest ih =>
      by_cases marked : first = mark
      · subst first
        rw [byMark_mark]
        simpa [join, endLine] using ih
      · rw [byMark_cons_of_ne marked]
        cases shape : (Cut.byMark mark rest).ended with
        | nil => simpa [join, extend, shape] using ih
        | cons line later => simpa [join, extend, shape] using ih

end Cut

/-- A line without one `mark` at its very end, where it has one. -/
def dropFinal {unit : Type} [DecidableEq unit] (mark : unit) (line : List unit) : List unit :=
  if line.getLast? = some mark then line.dropLast else line

/-- The lines of a text: one return before a line feed goes with it, and characters after the last
line feed are one more line. -/
def textLines (text : String) : List String :=
  let cut := Cut.byMark '\n' text.toList
  let last := if cut.pending = [] then [] else [cut.pending]
  (cut.ended.map (dropFinal '\r') ++ last).map String.ofList

end HostBridge
