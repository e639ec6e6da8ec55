import HostBridge.Symbol.Stream

/-!
# Lines of octets and lines of characters

Cutting at a mark undoes joining, and commutes with every encoding under which the mark has a code of
its own.  UTF-8 is such an encoding for the line feed and the return, so the lines of a stream that
carries a text are the lines of the text.
-/

namespace HostBridge

namespace Cut

variable {unit octet : Type}

/-!
## Lines preceded by units
-/

def precede (units : List unit) (cut : Cut unit) : Cut unit :=
  units.foldr extend cut

theorem precede_mk_nil (units pending : List unit) :
    precede units ⟨[], pending⟩ = ⟨[], units ++ pending⟩ := by
  induction units with
  | nil => rfl
  | cons first rest ih =>
      show (precede rest ⟨[], pending⟩).extend first = _
      rw [ih]
      rfl

theorem precede_mk_cons (units line pending : List unit) (later : List (List unit)) :
    precede units ⟨line :: later, pending⟩ = ⟨(units ++ line) :: later, pending⟩ := by
  induction units with
  | nil => rfl
  | cons first rest ih =>
      show (precede rest ⟨line :: later, pending⟩).extend first = _
      rw [ih]
      rfl

theorem precede_endLine (units : List unit) (cut : Cut unit) :
    cut.endLine.precede units = ⟨units :: cut.ended, cut.pending⟩ := by
  have h := precede_mk_cons units [] cut.pending cut.ended
  rw [List.append_nil] at h
  exact h

/-- Under an encoding that gives every unit some codes, a mark has one code, which no other unit
uses. -/
structure IsCodeOf (encode : unit → List octet) (mark : unit) (code : octet) : Prop where
  encode_mark : encode mark = [code]
  not_mem : forall other, other ≠ mark -> code ∉ encode other
  encode_ne_nil : forall other, encode other ≠ []

def flatMap (encode : unit → List octet) (cut : Cut unit) : Cut octet :=
  ⟨cut.ended.map fun line => line.flatMap encode, cut.pending.flatMap encode⟩

theorem precede_flatMap (encode : unit → List octet) (first : unit) (cut : Cut unit) :
    (cut.flatMap encode).precede (encode first) = (cut.extend first).flatMap encode := by
  rcases cut with ⟨ended, pending⟩
  cases ended with
  | nil => exact precede_mk_nil (encode first) (pending.flatMap encode)
  | cons line later =>
      exact precede_mk_cons (encode first) (line.flatMap encode) (pending.flatMap encode)
        (later.map fun line => line.flatMap encode)

/-!
## All lines of a cut
-/

/-- The lines that marks end, and what follows the last mark as one more line. -/
def lines (cut : Cut unit) : List (List unit) :=
  cut.ended ++ [cut.pending]

theorem exists_lines_eq_cons (cut : Cut unit) :
    exists line later, cut.lines = line :: later := by
  rcases cut with ⟨ended, pending⟩
  cases ended with
  | nil => exact ⟨pending, [], rfl⟩
  | cons line later => exact ⟨line, later ++ [pending], rfl⟩

theorem eq_of_lines_eq {cut other : Cut unit} (hlines : cut.lines = other.lines) : cut = other := by
  rcases cut with ⟨ended, pending⟩
  rcases other with ⟨otherEnded, otherPending⟩
  rcases List.append_inj' hlines rfl with ⟨rfl, hpending⟩
  cases hpending
  rfl

theorem lines_precede
    {cut : Cut unit} {line : List unit} {later : List (List unit)}
    (hlines : cut.lines = line :: later) (units : List unit) :
    (cut.precede units).lines = (units ++ line) :: later := by
  rcases cut with ⟨ended, pending⟩
  cases ended with
  | nil =>
      cases hlines
      rw [precede_mk_nil]
      rfl
  | cons first rest =>
      cases hlines
      rw [precede_mk_cons]
      rfl

/-!
## Cutting and joining
-/

theorem join_mk_cons (mark : unit) (line pending : List unit) (later : List (List unit)) :
    join mark ⟨line :: later, pending⟩ = line ++ mark :: join mark ⟨later, pending⟩ := by
  simp [join]

variable [DecidableEq unit] [DecidableEq octet]

theorem byMark_append_of_not_mem
    {mark : unit} {units : List unit} (hunits : mark ∉ units) (rest : List unit) :
    byMark mark (units ++ rest) = (byMark mark rest).precede units := by
  induction units with
  | nil => rfl
  | cons first tail ih =>
      have hfirst : first ≠ mark := fun h => hunits (h ▸ List.mem_cons_self)
      have htail : mark ∉ tail := fun h => hunits (List.mem_cons_of_mem first h)
      rw [List.cons_append, byMark_cons_of_ne hfirst, ih htail]
      rfl

theorem byMark_join
    {mark : unit} {cut : Cut unit}
    (hended : forall line, line ∈ cut.ended -> mark ∉ line) (hpending : mark ∉ cut.pending) :
    byMark mark (cut.join mark) = cut := by
  rcases cut with ⟨ended, pending⟩
  induction ended with
  | nil =>
      have hcut := byMark_append_of_not_mem hpending []
      rw [byMark_nil, precede_mk_nil, List.append_nil] at hcut
      exact hcut
  | cons line later ih =>
      have hline : mark ∉ line := hended line List.mem_cons_self
      have hlater : forall other, other ∈ later -> mark ∉ other :=
        fun other h => hended other (List.mem_cons_of_mem line h)
      rw [join_mk_cons, byMark_append_of_not_mem hline, byMark_mark, precede_endLine, ih hlater hpending]

theorem not_mem_of_mem_ended_byMark
    {mark : unit} {units line : List unit} (hline : line ∈ (byMark mark units).ended) :
    mark ∉ line := by
  induction units generalizing line with
  | nil => cases hline
  | cons first rest ih =>
      by_cases hfirst : first = mark
      · rw [hfirst, byMark_mark] at hline
        rcases List.mem_cons.mp hline with rfl | hlater
        · exact List.not_mem_nil
        · exact ih hlater
      · rw [byMark_cons_of_ne hfirst] at hline
        cases hcut : (byMark mark rest).ended with
        | nil => simp [extend, hcut] at hline
        | cons head later =>
            simp only [extend, hcut, List.mem_cons] at hline
            rcases hline with rfl | hlater
            · have hhead : mark ∉ head := ih (by simp [hcut])
              simp [hhead, Ne.symm hfirst]
            · exact ih (by simp [hcut, hlater])

theorem not_mem_pending_byMark (mark : unit) (units : List unit) :
    mark ∉ (byMark mark units).pending := by
  induction units with
  | nil => exact List.not_mem_nil
  | cons first rest ih =>
      by_cases hfirst : first = mark
      · rw [hfirst, byMark_mark]
        exact ih
      · rw [byMark_cons_of_ne hfirst]
        cases hcut : (byMark mark rest).ended with
        | nil => simp [extend, hcut, Ne.symm hfirst, ih]
        | cons head later => simpa [extend, hcut] using ih

theorem lines_byMark_append
    {mark : unit} {back line : List unit} {later : List (List unit)}
    (hback : (byMark mark back).lines = line :: later) (front : List unit) :
    (byMark mark (front ++ back)).lines =
      (byMark mark front).ended ++ ((byMark mark front).pending ++ line) :: later := by
  induction front with
  | nil => exact hback
  | cons first rest ih =>
      rw [List.cons_append]
      by_cases hfirst : first = mark
      · rw [hfirst, byMark_mark, byMark_mark]
        show [] :: (byMark mark (rest ++ back)).lines = _
        rw [ih]
        rfl
      · rw [byMark_cons_of_ne hfirst, byMark_cons_of_ne hfirst]
        show ((byMark mark (rest ++ back)).precede [first]).lines = _
        cases hcut : (byMark mark rest).ended with
        | nil =>
            rw [hcut] at ih
            rw [lines_precede ih]
            simp [extend, hcut]
        | cons head tail =>
            rw [hcut] at ih
            rw [lines_precede ih]
            simp [extend, hcut]

theorem byMark_append_mark (mark : unit) (front : List unit) :
    byMark mark (front ++ [mark]) = ⟨(byMark mark front).lines, []⟩ := by
  have hback : (byMark mark [mark]).lines = [[], []] := by
    rw [byMark_mark]
    rfl
  apply eq_of_lines_eq
  rw [lines_byMark_append hback, List.append_nil]
  show _ = ((byMark mark front).ended ++ [(byMark mark front).pending]) ++ [[]]
  rw [List.append_assoc]
  rfl

/-!
## Cutting what is encoded
-/

theorem byMark_flatMap
    {encode : unit → List octet} {mark : unit} {code : octet}
    (hcode : IsCodeOf encode mark code) (units : List unit) :
    byMark code (units.flatMap encode) = (byMark mark units).flatMap encode := by
  induction units with
  | nil => rfl
  | cons first rest ih =>
      rw [List.flatMap_cons]
      by_cases hfirst : first = mark
      · rw [hfirst, hcode.encode_mark, List.singleton_append, byMark_mark, byMark_mark, ih]
        rfl
      · rw [byMark_append_of_not_mem (hcode.not_mem first hfirst), byMark_cons_of_ne hfirst, ih,
          precede_flatMap]

theorem dropFinal_append_mark (mark : unit) (line : List unit) :
    dropFinal mark (line ++ [mark]) = line := by
  simp [dropFinal]

theorem dropFinal_of_ne {mark : unit} {line : List unit} (hlast : line.getLast? ≠ some mark) :
    dropFinal mark line = line :=
  if_neg hlast

theorem dropFinal_flatMap
    {encode : unit → List octet} {mark : unit} {code : octet}
    (hcode : IsCodeOf encode mark code) (line : List unit) :
    dropFinal code (line.flatMap encode) = (dropFinal mark line).flatMap encode := by
  rcases List.eq_nil_or_concat line with rfl | ⟨front, last, rfl⟩
  · rfl
  · rw [List.concat_eq_append, List.flatMap_append, List.flatMap_singleton]
    by_cases hlast : last = mark
    · rw [hlast, hcode.encode_mark, dropFinal_append_mark, dropFinal_append_mark]
    · have hunits : (front ++ [last]).getLast? ≠ some mark := by
        simpa using hlast
      have hoctets : (front.flatMap encode ++ encode last).getLast? ≠ some code := by
        rcases List.eq_nil_or_concat (encode last) with hnil | ⟨before, final, hencode⟩
        · exact absurd hnil (hcode.encode_ne_nil last)
        · have hfinal : final ∈ encode last := by simp [hencode]
          have hne : final ≠ code := fun h => hcode.not_mem last hlast (h ▸ hfinal)
          simpa [hencode] using hne
      rw [dropFinal_of_ne hunits, dropFinal_of_ne hoctets, List.flatMap_append,
        List.flatMap_singleton]

end Cut

/-!
## Lines of a text
-/

/-- How a text falls into lines.  A line feed ends a line, and one return right before it goes with it;
what stands behind the last line feed is one more line, returns and all. -/
inductive HasLines : List Char → List String → Prop where
  | nil : HasLines [] []
  | unended {line : List Char} :
      line ≠ [] -> '\n' ∉ line -> HasLines line [String.ofList line]
  | ended {line rest : List Char} {lines : List String} :
      '\n' ∉ line -> line.getLast? ≠ some '\r' -> HasLines rest lines ->
        HasLines (line ++ '\n' :: rest) (String.ofList line :: lines)
  | returned {line rest : List Char} {lines : List String} :
      '\n' ∉ line -> HasLines rest lines ->
        HasLines (line ++ '\r' :: '\n' :: rest) (String.ofList line :: lines)

theorem textLines_unended
    {line : List Char} (hne : line ≠ []) (hline : '\n' ∉ line) :
    textLines (String.ofList line) = [String.ofList line] := by
  have hcut := Cut.byMark_append_of_not_mem hline []
  rw [List.append_nil, Cut.byMark_nil, Cut.precede_mk_nil, List.append_nil] at hcut
  rw [textLines, String.toList_ofList, hcut, if_neg hne]
  rfl

theorem textLines_ended {line : List Char} (hline : '\n' ∉ line) (rest : List Char) :
    textLines (String.ofList (line ++ '\n' :: rest)) =
      String.ofList (dropFinal '\r' line) :: textLines (String.ofList rest) := by
  rw [textLines, textLines, String.toList_ofList, String.toList_ofList,
    Cut.byMark_append_of_not_mem hline, Cut.byMark_mark, Cut.precede_endLine]
  rfl

theorem HasLines.textLines_eq
    {characters : List Char} {lines : List String} (hlines : HasLines characters lines) :
    textLines (String.ofList characters) = lines := by
  induction hlines with
  | nil => rfl
  | unended hne hline => exact textLines_unended hne hline
  | ended hline hlast _ ih => rw [textLines_ended hline, Cut.dropFinal_of_ne hlast, ih]
  | @returned line rest lines hline _ ih =>
      have hreturned : '\n' ∉ line ++ ['\r'] := by
        simpa using hline
      rw [List.append_cons, textLines_ended hreturned, Cut.dropFinal_append_mark, ih]

theorem hasLines_join
    {cut : Cut Char} (hended : forall line, line ∈ cut.ended -> '\n' ∉ line)
    (hpending : '\n' ∉ cut.pending) :
    exists lines, HasLines (cut.join '\n') lines := by
  rcases cut with ⟨ended, pending⟩
  induction ended with
  | nil =>
      by_cases hne : pending = []
      · rw [hne]
        exact ⟨[], .nil⟩
      · exact ⟨_, .unended hne hpending⟩
  | cons line later ih =>
      rcases ih (fun other h => hended other (List.mem_cons_of_mem line h)) hpending with
        ⟨lines, hlines⟩
      have hline : '\n' ∉ line := hended line List.mem_cons_self
      rw [Cut.join_mk_cons]
      by_cases hlast : line.getLast? = some '\r'
      · rcases List.getLast?_eq_some_iff.mp hlast with ⟨front, rfl⟩
        rw [List.append_assoc]
        exact ⟨_, .returned (fun h => hline (List.mem_append_left _ h)) hlines⟩
      · exact ⟨_, .ended hline hlast hlines⟩

theorem textLines_eq_iff (text : String) (lines : List String) :
    textLines text = lines <-> HasLines text.toList lines := by
  constructor
  · intro hlines
    rcases hasLines_join (fun _ => Cut.not_mem_of_mem_ended_byMark)
      (Cut.not_mem_pending_byMark '\n' text.toList) with ⟨found, hfound⟩
    rw [Cut.join_byMark] at hfound
    have heq := hfound.textLines_eq
    rw [String.ofList_toList, hlines] at heq
    rw [heq]
    exact hfound
  · intro hlines
    have heq := hlines.textLines_eq
    rw [String.ofList_toList] at heq
    exact heq

/-!
## Marks in UTF-8
-/

namespace Octets

theorem utf8EncodeChar_of_lt {character : Char} (hsmall : character.toNat < 128) :
    String.utf8EncodeChar character = [UInt8.ofNat character.toNat] := by
  have hvalue : character.val.toNat ≤ 0x7f := by
    change character.val.toNat < 128 at hsmall
    omega
  unfold String.utf8EncodeChar
  rw [if_pos hvalue]
  rfl

theorem le_of_mem_utf8EncodeChar
    {character : Char} {octet : UInt8}
    (hlarge : 128 ≤ character.toNat) (hoctet : octet ∈ String.utf8EncodeChar character) :
    128 ≤ octet.toNat := by
  have hvalue : ¬character.val.toNat ≤ 0x7f := by
    change 128 ≤ character.val.toNat at hlarge
    omega
  unfold String.utf8EncodeChar at hoctet
  rw [if_neg hvalue] at hoctet
  split at hoctet
  · simp only [List.mem_cons, List.not_mem_nil, or_false] at hoctet
    rcases hoctet with rfl | rfl <;> rw [UInt8.toNat_ofNat'] <;> omega
  · split at hoctet
    · simp only [List.mem_cons, List.not_mem_nil, or_false] at hoctet
      rcases hoctet with rfl | rfl | rfl <;> rw [UInt8.toNat_ofNat'] <;> omega
    · simp only [List.mem_cons, List.not_mem_nil, or_false] at hoctet
      rcases hoctet with rfl | rfl | rfl | rfl <;> rw [UInt8.toNat_ofNat'] <;> omega

theorem isCodeOf_utf8EncodeChar {mark : Char} (hmark : mark.toNat < 128) :
    Cut.IsCodeOf String.utf8EncodeChar mark (UInt8.ofNat mark.toNat) where
  encode_mark := utf8EncodeChar_of_lt hmark
  not_mem := by
    intro other hother hmem
    by_cases hsmall : other.toNat < 128
    · rw [utf8EncodeChar_of_lt hsmall, List.mem_singleton] at hmem
      have hcodes := congrArg UInt8.toNat hmem
      rw [UInt8.toNat_ofNat', UInt8.toNat_ofNat'] at hcodes
      have hsame : other.toNat = mark.toNat := by omega
      exact hother (Char.toNat_inj.mp hsame)
    · have hlarge := le_of_mem_utf8EncodeChar (by omega) hmem
      rw [UInt8.toNat_ofNat'] at hlarge
      omega
  encode_ne_nil := fun _ => String.utf8EncodeChar_ne_nil

end Octets

namespace Stream

theorem isCodeOf_lineFeed : Cut.IsCodeOf String.utf8EncodeChar '\n' lineFeed :=
  Octets.isCodeOf_utf8EncodeChar (by decide)

theorem isCodeOf_carriageReturn : Cut.IsCodeOf String.utf8EncodeChar '\r' carriageReturn :=
  Octets.isCodeOf_utf8EncodeChar (by decide)

/-!
## Streams that carry texts
-/

theorem readLine_flatMap (line : List Char) :
    readLine (line.flatMap String.utf8EncodeChar) = .ok (String.ofList line) := by
  have htext := Octets.toText?_ofText (String.ofList line)
  rw [Octets.ofText, String.toList_ofList] at htext
  rw [readLine, htext]

theorem lines_ofText (text : String) :
    (ofText text).lines = (textLines text).map .ok := by
  have hcut : Cut.byMark lineFeed (Octets.ofText text) =
      (Cut.byMark '\n' text.toList).flatMap String.utf8EncodeChar :=
    Cut.byMark_flatMap isCodeOf_lineFeed text.toList
  rw [lines, ofText, hcut, textLines]
  generalize Cut.byMark '\n' text.toList = cut
  rcases cut with ⟨ended, pending⟩
  have hended : ended.map (fun line =>
        readLine (dropFinal carriageReturn (line.flatMap String.utf8EncodeChar))) =
      ended.map fun line => .ok (String.ofList (dropFinal '\r' line)) := by
    apply List.map_congr_left
    intro line _
    rw [Cut.dropFinal_flatMap isCodeOf_carriageReturn, readLine_flatMap]
  have hpending : readPending (pending.flatMap String.utf8EncodeChar) .complete =
      (if pending = [] then [] else [pending]).map fun line => .ok (String.ofList line) := by
    cases pending with
    | nil => rfl
    | cons first rest =>
        have hne : (first :: rest).flatMap String.utf8EncodeChar ≠ [] := by
          simp [String.utf8EncodeChar_ne_nil]
        rw [readPending, if_neg hne, readLine_flatMap]
        rfl
  simp [Cut.flatMap, hpending, hended, Function.comp_def]

/-- A final return neither makes a line a text nor keeps it from being one. -/
theorem toText?_dropFinal_eq_none_iff (line : List UInt8) :
    Octets.toText? (dropFinal carriageReturn line) = none <-> Octets.toText? line = none := by
  have hdrop : (exists text, dropFinal carriageReturn line = Octets.ofText text) <->
      exists text, line = Octets.ofText text := by
    constructor
    · intro h
      rcases h with ⟨text, htext⟩
      by_cases hlast : line.getLast? = some carriageReturn
      · rcases List.getLast?_eq_some_iff.mp hlast with ⟨front, rfl⟩
        rw [Cut.dropFinal_append_mark] at htext
        refine ⟨text ++ "\r", ?_⟩
        simp [htext, Octets.ofText, carriageReturn, String.utf8EncodeChar]
      · rw [Cut.dropFinal_of_ne hlast] at htext
        exact ⟨text, htext⟩
    · intro h
      rcases h with ⟨text, rfl⟩
      refine ⟨String.ofList (dropFinal '\r' text.toList), ?_⟩
      rw [Octets.ofText, Octets.ofText, String.toList_ofList,
        Cut.dropFinal_flatMap isCodeOf_carriageReturn]
  simp only [Option.eq_none_iff_forall_ne_some, ne_eq, Octets.toText?_eq_some_iff]
  exact not_exists.symm.trans ((not_congr hdrop).trans not_exists)

end Stream
end HostBridge
