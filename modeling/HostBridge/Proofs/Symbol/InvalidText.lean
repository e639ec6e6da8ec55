import HostBridge.Proofs.Symbol.BrokenStreams
import HostBridge.Proofs.Symbol.Numbering
import HostBridge.Proofs.Text.LongestText

/-!
# Octets that are no text

A stream of octets that ends is loaded as the text it carries, if it carries one.  If it carries
none, one of its lines is no text by itself: the line in which the longest text at the front of the
octets breaks off.  The line feed has a code of its own in UTF-8, so the lines before that one are
lines of a text.
-/

namespace HostBridge

namespace Stream

/-!
## Lines by number
-/

def ofOctets (octets : List UInt8) : Stream :=
  ⟨octets, .complete⟩

/-- The line at a position, from zero, without its line feed.  What follows the last line feed counts
as a line also where it is nothing. -/
def line? (stream : Stream) (position : Nat) : Option (List UInt8) :=
  stream.cut.lines[position]?

structure IsFirstInvalid (stream : Stream) (position : Nat) : Prop where
  invalid : exists line, stream.line? position = some line ∧ ¬Octets.IsText line
  earlier : forall other line, other < position -> stream.line? other = some line ->
    Octets.IsText line

/-- The octet at an offset stands in the line at a position: the lines before it, with their line
feeds, do not reach beyond the offset, and with the line they do. -/
def Holds (stream : Stream) (position offset : Nat) : Prop :=
  exists line,
    stream.line? position = some line ∧
      (stream.firstLines position).octets.length ≤ offset ∧
      offset < (stream.firstLines position).octets.length + line.length

theorem line?_eq_some_iff (stream : Stream) (position : Nat) (line : List UInt8) :
    stream.line? position = some line <->
      stream.cut.ended[position]? = some line ∨
        (position = stream.cut.ended.length ∧ line = stream.cut.pending) := by
  rw [line?, Cut.lines]
  rcases Nat.lt_trichotomy position stream.cut.ended.length with hlt | heq | hgt
  · rw [List.getElem?_append_left hlt]
    simp [Nat.ne_of_lt hlt]
  · rw [heq, List.getElem?_concat_length]
    simp [eq_comm]
  · rw [List.getElem?_eq_none (Nat.le_of_lt hgt), List.getElem?_eq_none]
    · simp [Nat.ne_of_gt hgt]
    · rw [List.length_append]
      exact hgt

theorem firstLines_append_line_isPrefix
    {stream : Stream} {position : Nat} {line : List UInt8}
    (hline : stream.line? position = some line) :
    (stream.firstLines position).octets ++ line <+: stream.octets := by
  have hjoin : stream.cut.join lineFeed = stream.octets :=
    Cut.join_byMark lineFeed stream.octets
  rw [← hjoin, firstLines, Cut.join]
  rcases (line?_eq_some_iff stream position line).mp hline with hended | ⟨rfl, rfl⟩
  · rcases List.getElem?_eq_some_iff.mp hended with ⟨hlt, hget⟩
    have hsplit := List.take_append_drop position stream.cut.ended
    rw [List.drop_eq_getElem_cons hlt, hget] at hsplit
    refine ⟨[lineFeed] ++ (stream.cut.ended.drop (position + 1)).flatMap
      (fun other => other ++ [lineFeed]) ++ stream.cut.pending, ?_⟩
    conv => rhs; rw [← hsplit]
    simp only [List.flatMap_append, List.flatMap_cons, List.append_assoc]
  · refine ⟨[], ?_⟩
    rw [List.append_nil, List.take_length]

theorem failsAt_ofOctets_iff (octets : List UInt8) (position : Nat) (fault : ReadFault) :
    (ofOctets octets).FailsAt position fault <->
      fault = .notText ∧
        exists line, (ofOctets octets).line? position = some line ∧ ¬Octets.IsText line := by
  constructor
  · intro hfails
    cases hfails with
    | @ended _ line hline htext =>
        exact ⟨rfl, line, (line?_eq_some_iff _ _ _).mpr (Or.inl hline),
          (Octets.toText?_eq_none_iff line).mp htext⟩
    | pending _ htext =>
        exact ⟨rfl, _, (line?_eq_some_iff _ _ _).mpr (Or.inr ⟨rfl, rfl⟩),
          (Octets.toText?_eq_none_iff _).mp htext⟩
    | broken hending =>
        cases hending
  · rintro ⟨rfl, line, hline, htext⟩
    have hnone := (Octets.toText?_eq_none_iff line).mpr htext
    rcases (line?_eq_some_iff _ _ _).mp hline with hended | ⟨rfl, rfl⟩
    · exact .ended hended hnone
    · exact .pending rfl hnone

/-!
## Where a text breaks off
-/

theorem isText_of_mem_ended
    {front line : List UInt8} (hfront : Octets.IsText front)
    (hline : line ∈ (Cut.byMark lineFeed front).ended) : Octets.IsText line := by
  rcases hfront with ⟨text, rfl⟩
  rw [Octets.ofText, Cut.byMark_flatMap isCodeOf_lineFeed] at hline
  rcases List.mem_map.mp hline with ⟨characters, _, rfl⟩
  refine ⟨String.ofList characters, ?_⟩
  rw [Octets.ofText, String.toList_ofList]

theorem isText_lineFeed : Octets.IsText [lineFeed] :=
  ⟨"\n", rfl⟩

theorem isText_firstLines
    {stream : Stream} {position : Nat}
    (hlines : forall earlier line, earlier < position -> stream.line? earlier = some line ->
      Octets.IsText line) :
    Octets.IsText (stream.firstLines position).octets := by
  apply isText_lineFeed.flatMap
  intro line hmem
  rcases List.getElem?_of_mem hmem with ⟨earlier, hearly⟩
  rw [List.getElem?_take] at hearly
  split at hearly
  · rename_i hlt
    exact hlines earlier line hlt ((line?_eq_some_iff _ _ _).mpr (Or.inl hearly))
  · cases hearly

/-- The line in which an octet stands that is no line feed: what the octets before it hold behind
their last line feed, and the octet.  The lines before are those that the octets before it end. -/
theorem exists_line_of_split
    {octets front rest : List UInt8} {next : UInt8}
    (hsplit : octets = front ++ next :: rest) (hnext : next ≠ lineFeed) :
    exists position before after,
      (ofOctets octets).line? position = some (before ++ next :: after) ∧
        ((ofOctets octets).firstLines position).octets ++ before = front ∧
        forall earlier line, earlier < position -> (ofOctets octets).line? earlier = some line ->
          line ∈ (Cut.byMark lineFeed front).ended := by
  rcases Cut.exists_lines_eq_cons (Cut.byMark lineFeed rest) with ⟨after, later, hrest⟩
  have hback : (Cut.byMark lineFeed (next :: rest)).lines = (next :: after) :: later := by
    rw [Cut.byMark_cons_of_ne hnext]
    exact Cut.lines_precede hrest [next]
  have hlines := Cut.lines_byMark_append hback front
  have hjoin := Cut.join_byMark lineFeed front
  generalize Cut.byMark lineFeed front = broken at hlines hjoin
  have hcut : (ofOctets octets).cut.lines =
      broken.ended ++ (broken.pending ++ next :: after) :: later := by
    rw [cut, ofOctets, hsplit]
    exact hlines
  refine ⟨broken.ended.length, broken.pending, after, ?_, ?_, ?_⟩
  · rw [line?, hcut, List.getElem?_append_right (Nat.le_refl _), Nat.sub_self]
    rfl
  · have hcount : broken.ended.length ≤ (ofOctets octets).cut.ended.length := by
      have h := congrArg List.length hcut
      simp only [Cut.lines, List.length_append, List.length_cons, List.length_nil] at h
      omega
    have htake := congrArg (List.take broken.ended.length) hcut
    rw [Cut.lines, List.take_append_of_le_length hcount, List.take_left] at htake
    rw [firstLines, htake]
    exact hjoin
  · intro earlier line hearlier hline
    rw [line?, hcut, List.getElem?_append_left hearlier] at hline
    exact List.mem_of_getElem? hline

theorem exists_isFirstInvalid {octets : List UInt8} (hoctets : ¬Octets.IsText octets) :
    exists position,
      (ofOctets octets).IsFirstInvalid position ∧
        (ofOctets octets).Holds position (Octets.textLength octets) := by
  rcases Octets.exists_eq_append_cons hoctets with ⟨front, next, rest, hsplit, hfront, hlength⟩
  have hlongest : forall longer, longer <+: octets -> Octets.IsText longer ->
      ¬front.length < longer.length := by
    intro longer hbegins htext
    rw [hlength]
    exact Nat.not_lt_of_le (Octets.length_le_textLength hbegins htext)
  have hnext : next ≠ lineFeed := by
    rintro rfl
    have hbegins : front ++ [lineFeed] <+: octets := by
      rw [hsplit]
      exact ⟨rest, List.append_assoc front [lineFeed] rest⟩
    apply hlongest _ hbegins (hfront.append isText_lineFeed)
    rw [List.length_append]
    exact Nat.lt_succ_self front.length
  rcases exists_line_of_split hsplit hnext with ⟨position, before, after, hline, hfirst, hearlier⟩
  have htexts : forall earlier line, earlier < position ->
      (ofOctets octets).line? earlier = some line -> Octets.IsText line :=
    fun earlier line hlt hearly => isText_of_mem_ended hfront (hearlier earlier line hlt hearly)
  have hbefore : front.length =
      ((ofOctets octets).firstLines position).octets.length + before.length := by
    rw [← hfirst, List.length_append]
  have hinside : front.length <
      ((ofOctets octets).firstLines position).octets.length + (before ++ next :: after).length := by
    rw [hbefore, List.length_append, List.length_cons]
    omega
  have hinvalid : ¬Octets.IsText (before ++ next :: after) := by
    -- With the lines before it, the line would be a text at the front that is longer than the longest.
    intro htext
    apply hlongest _ (firstLines_append_line_isPrefix hline)
      ((isText_firstLines htexts).append htext)
    rw [List.length_append]
    exact hinside
  refine ⟨position, ⟨⟨_, hline, hinvalid⟩, htexts⟩, _, hline, ?_, ?_⟩
  · rw [← hlength, hbefore]
    exact Nat.le_add_right _ _
  · rw [← hlength]
    exact hinside

theorem IsFirstInvalid.failsAt
    {octets : List UInt8} {position : Nat}
    (hfirst : (ofOctets octets).IsFirstInvalid position) :
    (ofOctets octets).FailsAt position .notText ∧
      forall earlier fault, earlier < position -> ¬(ofOctets octets).FailsAt earlier fault := by
  constructor
  · exact (failsAt_ofOctets_iff octets position .notText).mpr ⟨rfl, hfirst.invalid⟩
  · intro earlier fault hearlier hfails
    rcases (failsAt_ofOctets_iff octets earlier fault).mp hfails with ⟨_, line, hline, hinvalid⟩
    exact hinvalid (hfirst.earlier earlier line hearlier hline)

theorem IsFirstInvalid.fault?_eq
    {octets : List UInt8} {position : Nat}
    (hfirst : (ofOctets octets).IsFirstInvalid position) :
    ((forall earlier, earlier < position -> ¬(ofOctets octets).BlankAt earlier) ->
      LineReading.fault? (ofOctets octets).lines = some .notText ∧
        (LineReading.names (ofOctets octets).lines).length = position) ∧
    ((exists earlier, earlier < position ∧ (ofOctets octets).BlankAt earlier) ->
      LineReading.fault? (ofOctets octets).lines = none) := by
  rcases hfirst.failsAt with ⟨hfails, hreads⟩
  have hfault := getElem?_lines_of_failsAt hfails
  constructor
  · intro hfilled
    have hnames : forall earlier, earlier < position ->
        exists name, (ofOctets octets).lines[earlier]? = some (.ok name) ∧ name ≠ "" :=
      fun earlier hlt => exists_getElem?_lines_eq_name hfault hlt
        (fun fault => hreads earlier fault hlt) (hfilled earlier hlt)
    rcases LineReading.names_of_fault hfault hnames with ⟨_, hlength, hends, _⟩
    exact ⟨hends, hlength⟩
  · rintro ⟨earlier, hlt, hblank⟩
    apply LineReading.fault?_of_blank (getElem?_lines_of_blankAt hblank)
    intro other hother
    have hbefore := Nat.lt_trans hother hlt
    exact exists_getElem?_lines_eq_ok hfault hbefore fun fault => hreads other fault hbefore

end Stream

/-!
## Loading
-/

namespace Library

/-- Octets that are a text are loaded as its lines, and the load succeeds.  In octets that are no
text there is a first line that is none by itself, which is the line of the octet behind the longest
text at the front; the load fails, and fails there, exactly where no empty line comes before it. -/
theorem load_ofOctets (library : Library) (octets : List UInt8) :
    let stream := Stream.ofOctets octets
    let loaded := (library.load stream).result
    (forall text, octets = Octets.ofText text ->
      loaded.1 = .ok (Manifest.names text).length ∧
        loaded.2 = ⟨library.host, library.table.extend (Manifest.names text)⟩) ∧
    ((forall text, octets ≠ Octets.ofText text) ->
      exists position,
        stream.IsFirstInvalid position ∧
          stream.Holds position (Octets.textLength octets) ∧
          ((exists failure, loaded.1 = .error failure) <->
            forall earlier, earlier < position -> ¬stream.BlankAt earlier) ∧
          forall failure, loaded.1 = .error failure ->
            failure = ⟨library.soname, position + 1, .notText⟩) := by
  intro stream loaded
  constructor
  · rintro text rfl
    exact ⟨Manifest.load_ofText_outcome library text, Manifest.load_ofText_library library text⟩
  · intro hoctets
    rcases Stream.exists_isFirstInvalid (not_exists.mpr hoctets) with ⟨position, hfirst, hholds⟩
    rcases hfirst.fault?_eq with ⟨hfilled, hblank⟩
    have hfailure : (forall earlier, earlier < position -> ¬stream.BlankAt earlier) ->
        loaded.1 = .error ⟨library.soname, position + 1, .notText⟩ := by
      intro hnone
      rcases hfilled hnone with ⟨hfault, hlength⟩
      rw [load_outcome, hfault, hlength]
      rfl
    have hnone : forall failure, loaded.1 = .error failure ->
        forall earlier, earlier < position -> ¬stream.BlankAt earlier := by
      intro failure herror earlier hlt hempty
      rw [load_outcome, hblank ⟨earlier, hlt, hempty⟩] at herror
      cases herror
    refine ⟨position, hfirst, hholds, ⟨?_, ?_⟩, ?_⟩
    · rintro ⟨failure, herror⟩
      exact hnone failure herror
    · intro hempty
      exact ⟨_, hfailure hempty⟩
    · intro failure herror
      rw [hfailure (hnone failure herror)] at herror
      cases herror
      rfl

/-- One line that a return and a line feed end; and the first two octets of a character, cut off by a
line feed, so that the text ends before them. -/
theorem load_ofOctets_cut_off :
    let library : Library := { host := .scratch "lib" }
    let octets : List UInt8 := [97, 10, 98, 0xe2, 0x82, 10, 99]
    let stream := Stream.ofOctets octets
    let loaded := (library.load stream).result
    [97, 13, 10] = Octets.ofText "a\r\n" ∧
      (library.load (.ofOctets [97, 13, 10])).result.1 = .ok 1 ∧
      (forall text, octets ≠ Octets.ofText text) ∧
      Octets.textLength octets = 3 ∧
      exists position,
        stream.IsFirstInvalid position ∧
          stream.Holds position 3 ∧
          ((exists failure, loaded.1 = .error failure) <->
            forall earlier, earlier < position -> ¬stream.BlankAt earlier) := by
  intro library octets stream loaded
  have hplain : [97, 13, 10] = Octets.ofText "a\r\n" := rfl
  have hnone : Octets.toText? octets = none := by decide +kernel
  have htext : forall text, octets ≠ Octets.ofText text :=
    not_exists.mp ((Octets.toText?_eq_none_iff octets).mp hnone)
  have hlength : Octets.textLength octets = 3 := by decide +kernel
  have hcount := ((load_ofOctets library [97, 13, 10]).left "a\r\n" hplain).1
  rcases (load_ofOctets library octets).right htext with ⟨position, hfirst, hholds, hfails, _⟩
  rw [hlength] at hholds
  exact ⟨hplain, hcount, htext, hlength, position, hfirst, hholds, hfails⟩

end Library
end HostBridge
