import HostBridge.Literal.Reading

/-!
# The forms of literals

Which form a text has follows from its first and last characters and from the ones in it.  The texts
of numbers have no quote and are not the word for nothing, so their last character tells a long and
a single, and the marks of a double decide about the rest.
-/

namespace HostBridge
namespace Literal

/-!
## Quotes and last characters
-/

theorem dropSuffix?_eq_some_iff (suffix : Char) (text front : List Char) :
    dropSuffix? suffix text = some front <-> text = front ++ [suffix] := by
  constructor
  · intro hdrop
    rw [dropSuffix?] at hdrop
    split at hdrop
    · rename_i hlast
      rcases List.getLast?_eq_some_iff.mp hlast with ⟨before, rfl⟩
      rw [List.dropLast_concat] at hdrop
      cases hdrop
      rfl
    · cases hdrop
  · rintro rfl
    rw [dropSuffix?, List.getLast?_concat, if_pos rfl, List.dropLast_concat]

theorem dropSuffix?_eq_none_iff (suffix : Char) (text : List Char) :
    dropSuffix? suffix text = none <-> text.getLast? ≠ some suffix := by
  rw [dropSuffix?]
  split
  · rename_i hlast
    simp [hlast]
  · rename_i hlast
    simp [hlast]

theorem dropSuffix?_append (suffix : Char) (text : List Char) :
    dropSuffix? suffix (text ++ [suffix]) = some text :=
  (dropSuffix?_eq_some_iff suffix (text ++ [suffix]) text).mpr rfl

theorem dropSuffix?_append_of_ne {suffix last : Char} (hlast : last ≠ suffix) (text : List Char) :
    dropSuffix? suffix (text ++ [last]) = none := by
  rw [dropSuffix?_eq_none_iff, List.getLast?_concat]
  intro heq
  exact hlast (Option.some.inj heq)

theorem dropSuffix?_of_not_mem {suffix : Char} {text : List Char} (hsuffix : suffix ∉ text) :
    dropSuffix? suffix text = none := by
  rw [dropSuffix?_eq_none_iff]
  intro hlast
  exact hsuffix (List.mem_of_getLast? hlast)

theorem unquote?_eq_some_iff (quote : Char) (text content : List Char) :
    unquote? quote text = some content <-> text = quote :: (content ++ [quote]) := by
  cases text with
  | nil => simp [unquote?]
  | cons first rest =>
      rw [unquote?, List.cons.injEq, ← dropSuffix?_eq_some_iff]
      split
      · rename_i hfirst
        exact (and_iff_right hfirst).symm
      · rename_i hfirst
        simp [hfirst]

theorem unquote?_append (quote : Char) (content : List Char) :
    unquote? quote (quote :: (content ++ [quote])) = some content :=
  (unquote?_eq_some_iff quote _ content).mpr rfl

theorem unquote?_of_ne {quote first : Char} (hfirst : first ≠ quote) (rest : List Char) :
    unquote? quote (first :: rest) = none := by
  rw [unquote?, if_neg hfirst]

theorem unquote?_of_not_mem {quote : Char} {text : List Char} (hquote : quote ∉ text) :
    unquote? quote text = none := by
  cases text with
  | nil =>
      rfl
  | cons first rest =>
      apply unquote?_of_ne
      intro hfirst
      apply hquote
      rw [hfirst]
      exact List.mem_cons_self

/-!
## Quoted forms
-/

theorem toList_quote (quote : Char) (content : String) :
    (String.singleton quote ++ content ++ String.singleton quote).toList =
      quote :: (content.toList ++ [quote]) := by
  rw [String.toList_append, String.toList_append, String.toList_singleton, List.append_assoc,
    List.singleton_append]

theorem quote_ne_null (quote : Char) (hquote : quote ≠ 'n') (content : String) :
    String.singleton quote ++ content ++ String.singleton quote ≠ "null" := by
  intro hnull
  have hlist := congrArg String.toList hnull
  rw [toList_quote] at hlist
  exact hquote (List.cons.inj hlist).1

theorem read_quotedText (content : String) :
    read ("\"" ++ content ++ "\"") = .ok (.text content) := by
  have hlist : ("\"" ++ content ++ "\"").toList = '"' :: (content.toList ++ ['"']) :=
    toList_quote '"' content
  have hnull : "\"" ++ content ++ "\"" ≠ "null" :=
    quote_ne_null '"' (by decide) content
  rw [read, if_neg hnull, hlist, unquote?_append]
  simp only [String.ofList_toList]

theorem read_quotedCharacter {character : Char} (hwidth : character.toNat < 65536) :
    read ("'" ++ String.singleton character ++ "'") =
      .ok (.character (UInt16.ofNat character.toNat)) := by
  have hlist : ("'" ++ String.singleton character ++ "'").toList =
      '\'' :: ([character] ++ ['\'']) := by
    rw [← String.toList_singleton character]
    exact toList_quote '\'' (String.singleton character)
  have hnull : "'" ++ String.singleton character ++ "'" ≠ "null" :=
    quote_ne_null '\'' (by decide) (String.singleton character)
  rw [read, if_neg hnull, hlist, unquote?_append, unquote?_of_ne (by decide)]
  simp only [readCharacter, if_pos hwidth]

/-!
## Numbers
-/

theorem marksDouble_iff {character : Char} :
    marksDouble character = true <-> character = '.' ∨ character = 'e' ∨ character = 'E' := by
  rw [marksDouble, Bool.or_eq_true, Bool.or_eq_true, decide_eq_true_iff, decide_eq_true_iff,
    decide_eq_true_iff, or_assoc]

def isNumeric (character : Char) : Bool :=
  character.isDigit || ['-', '.', 'e', 'i', 'n', 'f', 'N', 'a'].contains character

def AllNumeric (text : List Char) : Prop :=
  forall character, character ∈ text -> isNumeric character = true

theorem AllNumeric.not_mem
    {text : List Char} (htext : AllNumeric text) {character : Char}
    (hcharacter : isNumeric character = false) : character ∉ text := by
  intro hmem
  rw [htext character hmem] at hcharacter
  contradiction

theorem read_eq_readNumber
    {text : String}
    (hletter : 'u' ∉ text.toList) (hdouble : '"' ∉ text.toList) (hsingle : '\'' ∉ text.toList) :
    read text = readNumber text := by
  have hnull : text ≠ "null" := by
    intro hnull
    apply hletter
    rw [hnull]
    decide
  rw [read, if_neg hnull, unquote?_of_not_mem hdouble, unquote?_of_not_mem hsingle]

theorem AllNumeric.not_mem_append
    {text : List Char} (htext : AllNumeric text) {last character : Char}
    (hcharacter : isNumeric character = false) (hlast : character ≠ last) :
    character ∉ text ++ [last] := by
  intro hmem
  rcases List.mem_append.mp hmem with htextual | hsingle
  · exact htext.not_mem hcharacter htextual
  · exact hlast (List.mem_singleton.mp hsingle)

theorem read_single {text : String} (htext : AllNumeric text.toList) :
    read (text ++ "f") = readSingle (text ++ "f") text.toList := by
  have hlist : (text ++ "f").toList = text.toList ++ ['f'] := String.toList_append
  rw [read_eq_readNumber, readNumber, hlist, dropSuffix?_append_of_ne (by decide),
    dropSuffix?_append]
  all_goals
    rw [hlist]
    exact htext.not_mem_append rfl (by decide)

theorem read_unsuffixed
    {text : String} (htext : AllNumeric text.toList) (hsuffix : 'f' ∉ text.toList) :
    read text = if text.toList.any marksDouble then readDouble text else readInteger text := by
  rw [read_eq_readNumber (htext.not_mem rfl) (htext.not_mem rfl) (htext.not_mem rfl), readNumber,
    dropSuffix?_of_not_mem (htext.not_mem rfl), dropSuffix?_of_not_mem hsuffix]

/-!
## What was read
-/

/-- The form under which a value was read from a text. -/
inductive ReadBy (text : String) (value : Value) : Prop where
  | null :
      text = "null" ->
      value = .null ->
      ReadBy text value
  | text {content : List Char} :
      unquote? '"' text.toList = some content ->
      value = .text (String.ofList content) ->
      ReadBy text value
  | character {content : List Char} :
      unquote? '\'' text.toList = some content ->
      readCharacter text content = .ok value ->
      ReadBy text value
  | long {digits : List Char} :
      dropSuffix? 'L' text.toList = some digits ->
      readLong text digits = .ok value ->
      ReadBy text value
  | single {digits : List Char} :
      dropSuffix? 'f' text.toList = some digits ->
      readSingle text digits = .ok value ->
      ReadBy text value
  | double :
      dropSuffix? 'L' text.toList = none ->
      dropSuffix? 'f' text.toList = none ->
      text.toList.any marksDouble = true ->
      readDouble text = .ok value ->
      ReadBy text value
  | integer :
      readInteger text = .ok value ->
      ReadBy text value

theorem readBy_of_read {text : String} {value : Value} (hread : read text = .ok value) :
    ReadBy text value := by
  unfold read at hread
  split at hread
  · rename_i hnull
    cases hread
    exact .null hnull rfl
  · split at hread
    · rename_i hcontent
      cases hread
      exact .text hcontent rfl
    · rename_i hcontent
      exact .character hcontent hread
    · unfold readNumber at hread
      split at hread
      · rename_i hdigits
        exact .long hdigits hread
      · rename_i hdigits
        exact .single hdigits hread
      · rename_i hlong hsingle
        split at hread
        · rename_i hmarks
          exact .double hlong hsingle hmarks hread
        · exact .integer hread

end Literal
end HostBridge
