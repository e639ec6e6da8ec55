import HostBridge.Proofs.Symbol.Numbering

/-!
# The last line of a manifest

A manifest whose last line has no line feed is loaded as if it had one, unless the line ends in a
return.  A return goes only with a line feed behind it, so without one it stays in the name.
-/

namespace HostBridge

namespace Table

/-!
## A name with and without a return
-/

theorem extend_append_singleton (table : Table) (names : List String) (name : String) :
    table.extend (names ++ [name]) =
      (table.extend names).bind name (table.size + names.length) := by
  rw [extend, List.zipIdx_append, bindAll_append]
  rfl

/-- Behind earlier lines of a pass a name is there and has the next index already, both with a return
and without it. -/
structure SharesNext (table : Table) (earlier : List String) (name : String) : Prop where
  name_ne_empty : name ≠ ""
  with_return :
    (table.extend earlier).index? (name ++ "\r") = some (table.size + earlier.length)
  without_return : (table.extend earlier).index? name = some (table.size + earlier.length)

theorem append_return_ne (name : String) : name ++ "\r" ≠ name := by
  simp

theorem extend_return_iff (table : Table) (earlier : List String) (name : String) :
    ((earlier ++ [name ++ "\r"]).length =
        (if name = "" then earlier else earlier ++ [name]).length ∧
      table.extend (earlier ++ [name ++ "\r"]) =
        table.extend (if name = "" then earlier else earlier ++ [name])) <->
      table.SharesNext earlier name := by
  by_cases hname : name = ""
  · rw [if_pos hname, List.length_append]
    constructor
    · rintro ⟨hcount, _⟩
      exact absurd hcount (Nat.succ_ne_self earlier.length)
    · intro hshares
      exact absurd hname hshares.name_ne_empty
  · rw [if_neg hname, extend_append_singleton, extend_append_singleton,
      bind_eq_bind_iff (append_return_ne name)]
    constructor
    · rintro ⟨_, hreturn, hplain⟩
      exact ⟨hname, hreturn, hplain⟩
    · rintro ⟨_, hreturn, hplain⟩
      exact ⟨by rw [List.length_append, List.length_append]; rfl, hreturn, hplain⟩

end Table

namespace Manifest

/-!
## With and without the last line feed
-/

theorem exists_textLines_append_lineFeed
    {text : String} (hne : text ≠ "") (hlast : text.toList.getLast? ≠ some '\n') :
    exists earlier pending,
      pending ≠ [] ∧
        textLines text = earlier ++ [String.ofList pending] ∧
        textLines (text ++ "\n") = earlier ++ [String.ofList (dropFinal '\r' pending)] := by
  have hjoin := Cut.join_byMark '\n' text.toList
  have hended : Cut.byMark '\n' (text ++ "\n").toList =
      ⟨(Cut.byMark '\n' text.toList).lines, []⟩ := by
    rw [String.toList_append]
    exact Cut.byMark_append_mark '\n' text.toList
  rw [textLines, textLines, hended]
  generalize Cut.byMark '\n' text.toList = cut at hjoin
  rcases cut with ⟨ended, pending⟩
  have hpending : pending ≠ [] := by
    rintro rfl
    rw [Cut.join, List.append_nil] at hjoin
    rcases List.eq_nil_or_concat ended with rfl | ⟨front, last, rfl⟩
    · exact hne (String.toList_inj.mp hjoin.symm)
    · apply hlast
      rw [← hjoin, List.concat_eq_append, List.flatMap_append, List.flatMap_singleton,
        ← List.append_assoc, List.getLast?_concat]
  refine ⟨(ended.map (dropFinal '\r')).map String.ofList, pending, hpending, ?_, ?_⟩
  · simp [hpending]
  · simp [Cut.lines]

theorem ofList_append_return (characters : List Char) :
    String.ofList (characters ++ ['\r']) = String.ofList characters ++ "\r" :=
  String.ofList_append

theorem textLines_append_lineFeed
    {text : String} (hne : text ≠ "") (hlast : text.toList.getLast? ≠ some '\n') :
    (exists earlier name,
      textLines text = earlier ++ [name ++ "\r"] ∧
        textLines (text ++ "\n") = earlier ++ [name]) ∨
    ((forall earlier name, textLines text ≠ earlier ++ [name ++ "\r"]) ∧
      textLines (text ++ "\n") = textLines text) := by
  rcases exists_textLines_append_lineFeed hne hlast with
    ⟨earlier, pending, hpending, hlines, hended⟩
  by_cases hreturn : pending.getLast? = some '\r'
  · rcases List.getLast?_eq_some_iff.mp hreturn with ⟨front, rfl⟩
    rw [ofList_append_return] at hlines
    rw [Cut.dropFinal_append_mark] at hended
    exact Or.inl ⟨earlier, String.ofList front, hlines, hended⟩
  · right
    constructor
    · intro other name hother
      rw [hlines] at hother
      have hname : String.ofList pending = name ++ "\r" :=
        List.singleton_inj.mp (List.append_inj' hother rfl).2
      apply hreturn
      have hpending' : pending = (name ++ "\r").toList := by
        rw [← hname, String.toList_ofList]
      rw [hpending', String.toList_append]
      exact List.getLast?_concat
    · rw [hended, hlines, Cut.dropFinal_of_ne hreturn]

/-!
## The names of a manifest and its last line
-/

theorem names_of_mem
    {manifest line : String} {earlier : List String}
    (hlines : textLines manifest = earlier ++ [line]) (hempty : "" ∈ earlier) :
    names manifest = earlier.takeWhile fun name => name ≠ "" := by
  have hstops : (earlier.takeWhile fun name => name ≠ "").length ≠ earlier.length := by
    intro hlength
    have hall : (earlier.takeWhile fun name => name ≠ "").all (fun name => name ≠ "") = true :=
      List.all_takeWhile
    rw [(List.takeWhile_prefix _).eq_of_length hlength] at hall
    exact of_decide_eq_true (List.all_eq_true.mp hall "" hempty) rfl
  rw [names, hlines, List.takeWhile_append, if_neg hstops]

theorem names_of_not_mem
    {manifest line : String} {earlier : List String}
    (hlines : textLines manifest = earlier ++ [line]) (hempty : "" ∉ earlier) :
    names manifest = if line = "" then earlier else earlier ++ [line] := by
  have hall : forall name, name ∈ earlier -> decide (name ≠ "") = true := by
    intro name hmem
    apply decide_eq_true
    rintro rfl
    exact hempty hmem
  rw [names, hlines, List.takeWhile_append_of_pos hall]
  by_cases hline : line = ""
  · simp [hline]
  · simp [hline]

end Manifest

/-!
## Loading
-/

namespace Library

theorem load_ofText_eq_iff (library : Library) (text other : String) :
    (library.load (.ofText text)).result = (library.load (.ofText other)).result <->
      (Manifest.names text).length = (Manifest.names other).length ∧
        library.table.extend (Manifest.names text) =
          library.table.extend (Manifest.names other) := by
  rw [Prod.ext_iff, Manifest.load_ofText_outcome, Manifest.load_ofText_outcome,
    Manifest.load_ofText_library, Manifest.load_ofText_library, Except.ok.injEq, Library.mk.injEq,
    and_iff_right rfl]

/-- A manifest without a last line feed is loaded with the outcome and to the table that it is loaded
to with one, unless the pass comes to a last line that ends in a return.  Then the two passes give
the same index to the name with the return and to the name without it. -/
theorem load_append_lineFeed_iff
    (library : Library) {text : String}
    (hne : text ≠ "") (hlast : text.toList.getLast? ≠ some '\n') :
    (library.load (.ofText text)).result = (library.load (.ofText (text ++ "\n"))).result <->
      forall earlier name,
        textLines text = earlier ++ [name ++ "\r"] -> "" ∉ earlier ->
          library.table.SharesNext earlier name := by
  rw [load_ofText_eq_iff]
  rcases Manifest.textLines_append_lineFeed hne hlast with
    ⟨earlier, name, hlines, hended⟩ | ⟨hnone, hsame⟩
  · have hunique : forall front other, textLines text = front ++ [other ++ "\r"] ->
        front = earlier ∧ other = name := by
      intro front other hother
      rw [hlines] at hother
      rcases List.append_inj' hother rfl with ⟨hfront, hline⟩
      exact ⟨hfront.symm, (String.append_left_inj "\r").mp (List.singleton_inj.mp hline).symm⟩
    by_cases hempty : "" ∈ earlier
    · rw [Manifest.names_of_mem hlines hempty, Manifest.names_of_mem hended hempty]
      apply iff_of_true ⟨rfl, rfl⟩
      intro front other hother hfilled
      rw [(hunique front other hother).1] at hfilled
      exact absurd hempty hfilled
    · have hreturn : name ++ "\r" ≠ "" := by
        simp
      rw [Manifest.names_of_not_mem hlines hempty, Manifest.names_of_not_mem hended hempty,
        if_neg hreturn, Table.extend_return_iff]
      constructor
      · intro hshares front other hother _
        rcases hunique front other hother with ⟨rfl, rfl⟩
        exact hshares
      · intro hall
        exact hall earlier name hlines hempty
  · rw [Manifest.names, Manifest.names, hsame]
    exact iff_of_true ⟨rfl, rfl⟩ fun earlier name hlines => absurd hlines (hnone earlier name)

/-- Lines ended by returns and line feeds, but the last by neither. -/
theorem load_append_lineFeed_unended :
    let library : Library := { host := .scratch "lib" }
    "a\r\nb" ≠ "" ∧ "a\r\nb".toList.getLast? ≠ some '\n' ∧
      (library.load (.ofText "a\r\nb")).result =
        (library.load (.ofText ("a\r\nb" ++ "\n"))).result := by
  intro library
  have hne : "a\r\nb" ≠ "" := by decide
  have hlast : "a\r\nb".toList.getLast? ≠ some '\n' := by decide
  have hlines : textLines "a\r\nb" = ["a", "b"] := rfl
  refine ⟨hne, hlast, (load_append_lineFeed_iff library hne hlast).mpr ?_⟩
  intro earlier name hreturn
  rw [hlines] at hreturn
  have hline := congrArg List.getLast? hreturn
  rw [List.getLast?_concat] at hline
  have hletter := congrArg (fun line => line.toList.getLast?) (Option.some.inj hline)
  simp at hletter

/-- A last line that ends in a return keeps it, so the name is not found without it. -/
theorem load_append_lineFeed_return :
    let library : Library := { host := .scratch "lib" }
    let plain := (library.load (.ofText "a\r")).result
    let ended := (library.load (.ofText ("a\r" ++ "\n"))).result
    "a\r" ≠ "" ∧ "a\r".toList.getLast? ≠ some '\n' ∧
      plain.1 = .ok 1 ∧ plain.2.table.bindings = [("a\r", 0)] ∧
      ended.1 = .ok 1 ∧ ended.2.table.bindings = [("a", 0)] ∧
      plain.2.table ≠ ended.2.table := by
  decide

end Library
end HostBridge
