import HostBridge.Proofs.Literal.Forms
import HostBridge.Proofs.Number.SignedDigits

/-!
# The grammar of literals

Every value that is no floating number is read from the texts of one form, and from all of them.
Floating numbers are read only from texts that their last letter, or a point or an exponent letter,
marks as such.  No other text is a literal.
-/

namespace HostBridge
namespace Literal

/-- What a text has to be for a value to be read from it.  For floating numbers the marks are told, not
the number. -/
inductive HasForm : String → Value → Prop where
  | null :
      HasForm "null" .null
  | text (content : String) :
      HasForm ("\"" ++ content ++ "\"") (.text content)
  | character {character : Char} {unit : UInt16} :
      character.toNat = unit.toNat ->
      HasForm ("'" ++ String.singleton character ++ "'") (.boxed (.character unit))
  | long {digits : String} {number : Int64} :
      IsSigned digits.toList number.toInt ->
      HasForm (digits ++ "L") (.boxed (.long number))
  | integer {digits : String} {number : Int32} :
      IsSigned digits.toList number.toInt ->
      HasForm digits (.boxed (.integer number))
  | single (front : String) (number : Single) :
      HasForm (front ++ "f") (.boxed (.single number))
  | double {text : String} (number : Double) :
      text.toList.getLast? ≠ some 'L' ->
      text.toList.getLast? ≠ some 'f' ->
      '.' ∈ text.toList ∨ 'e' ∈ text.toList ∨ 'E' ∈ text.toList ->
      HasForm text (.boxed (.double number))

def IsExact : Value → Prop
  | .boxed (.single _) => False
  | .boxed (.double _) => False
  | _ => True

/-!
## Texts that are read have a form
-/

theorem eq_append_of_dropSuffix?
    {suffix : Char} {text : String} {front : List Char}
    (hdrop : dropSuffix? suffix text.toList = some front) :
    text = String.ofList front ++ String.singleton suffix := by
  apply String.toList_inj.mp
  rw [(dropSuffix?_eq_some_iff suffix text.toList front).mp hdrop, String.toList_append,
    String.toList_ofList, String.toList_singleton]

theorem eq_quoted_of_unquote?
    {quote : Char} {text : String} {content : List Char}
    (hunquote : unquote? quote text.toList = some content) :
    text = String.singleton quote ++ String.ofList content ++ String.singleton quote := by
  apply String.toList_inj.mp
  rw [toList_quote, String.toList_ofList]
  exact (unquote?_eq_some_iff quote text.toList content).mp hunquote

theorem hasForm_of_readCharacter
    {text : String} {content : List Char} {value : Value}
    (hcontent : unquote? '\'' text.toList = some content)
    (hread : readCharacter text content = .ok value) : HasForm text value := by
  unfold readCharacter at hread
  split at hread
  · rename_i character
    split at hread
    · rename_i hwidth
      cases hread
      rw [eq_quoted_of_unquote? hcontent]
      exact .character (UInt16.toNat_ofNat_of_lt' hwidth).symm
    · cases hread
  · cases hread

theorem hasForm_of_readLong
    {text : String} {digits : List Char} {value : Value}
    (hdigits : dropSuffix? 'L' text.toList = some digits)
    (hread : readLong text digits = .ok value) : HasForm text value := by
  unfold readLong at hread
  split at hread
  · rename_i number hnumber
    rcases (IntegerReading.read_eq_ok_iff 64 digits number).mp hnumber with
      ⟨hsigned, hlower, hupper⟩
    cases hread
    rw [eq_append_of_dropSuffix? hdigits]
    apply HasForm.long
    rw [String.toList_ofList, Int64.toInt_ofInt_of_le hlower hupper]
    exact hsigned
  · cases hread

theorem hasForm_of_readInteger
    {text : String} {value : Value} (hread : readInteger text = .ok value) :
    HasForm text value := by
  unfold readInteger at hread
  split at hread
  · rename_i number hnumber
    rcases (IntegerReading.read_eq_ok_iff 32 text.toList number).mp hnumber with
      ⟨hsigned, hlower, hupper⟩
    cases hread
    apply HasForm.integer
    rw [Int32.toInt_ofInt_of_le hlower hupper]
    exact hsigned
  · cases hread

theorem hasForm_of_readSingle
    {text : String} {digits : List Char} {value : Value}
    (hdigits : dropSuffix? 'f' text.toList = some digits)
    (hread : readSingle text digits = .ok value) : HasForm text value := by
  unfold readSingle at hread
  split at hread
  · cases hread
    rw [eq_append_of_dropSuffix? hdigits]
    exact .single _ _
  · cases hread

theorem any_marksDouble_iff (text : List Char) :
    text.any marksDouble = true <-> '.' ∈ text ∨ 'e' ∈ text ∨ 'E' ∈ text := by
  rw [List.any_eq_true]
  simp only [marksDouble_iff]
  constructor
  · rintro ⟨character, hmem, rfl | rfl | rfl⟩
    · exact Or.inl hmem
    · exact Or.inr (Or.inl hmem)
    · exact Or.inr (Or.inr hmem)
  · rintro (hmem | hmem | hmem)
    · exact ⟨'.', hmem, Or.inl rfl⟩
    · exact ⟨'e', hmem, Or.inr (Or.inl rfl)⟩
    · exact ⟨'E', hmem, Or.inr (Or.inr rfl)⟩

theorem hasForm_of_readDouble
    {text : String} {value : Value}
    (hlong : dropSuffix? 'L' text.toList = none) (hsingle : dropSuffix? 'f' text.toList = none)
    (hmarks : text.toList.any marksDouble = true)
    (hread : readDouble text = .ok value) : HasForm text value := by
  unfold readDouble at hread
  split at hread
  · cases hread
    exact .double _ ((dropSuffix?_eq_none_iff 'L' text.toList).mp hlong)
      ((dropSuffix?_eq_none_iff 'f' text.toList).mp hsingle)
      ((any_marksDouble_iff text.toList).mp hmarks)
  · cases hread

theorem hasForm_of_read
    {text : String} {value : Value} (hread : read text = .ok value) : HasForm text value := by
  cases readBy_of_read hread with
  | null htext hvalue =>
      rw [htext, hvalue]
      exact .null
  | text hcontent hvalue =>
      rw [eq_quoted_of_unquote? hcontent, hvalue]
      exact .text _
  | character hcontent hcharacter => exact hasForm_of_readCharacter hcontent hcharacter
  | long hdigits hlong => exact hasForm_of_readLong hdigits hlong
  | single hdigits hsingle => exact hasForm_of_readSingle hdigits hsingle
  | double hlong hsingle hmarks hdouble =>
      exact hasForm_of_readDouble hlong hsingle hmarks hdouble
  | integer hinteger => exact hasForm_of_readInteger hinteger

/-!
## Texts with a form are read
-/

theorem not_mem_of_isSigned
    {text : List Char} {number : Int} (hsigned : IsSigned text number)
    {character : Char} (hdigit : character.isDigit = false)
    (hplus : character ≠ '+') (hminus : character ≠ '-') : character ∉ text := by
  intro hmem
  rcases hsigned.eq_of_mem hmem with hisDigit | heq | heq
  · rw [hdigit] at hisDigit
    cases hisDigit
  · exact hplus heq
  · exact hminus heq

theorem read_of_isSigned_long
    {digits : String} {number : Int64} (hsigned : IsSigned digits.toList number.toInt) :
    read (digits ++ "L") = .ok (.boxed (.long number)) := by
  have hlist : (digits ++ "L").toList = digits.toList ++ ['L'] := String.toList_append
  have hread : IntegerReading.read 64 digits.toList = .ok number.toInt :=
    (IntegerReading.read_eq_ok_iff 64 digits.toList number.toInt).mpr
      ⟨hsigned, number.le_toInt, number.toInt_lt⟩
  have habsent : forall character : Char, character.isDigit = false -> character ≠ '+' ->
      character ≠ '-' -> character ≠ 'L' -> character ∉ (digits ++ "L").toList := by
    intro character hdigit hplus hminus hletter hmem
    rw [hlist] at hmem
    rcases List.mem_append.mp hmem with hfront | hlast
    · exact not_mem_of_isSigned hsigned hdigit hplus hminus hfront
    · exact hletter (List.mem_singleton.mp hlast)
  rw [read_eq_readNumber, readNumber, hlist, dropSuffix?_append]
  · show readLong (digits ++ "L") digits.toList = _
    rw [readLong, hread]
    simp only [Int64.ofInt_toInt]
    rfl
  all_goals exact habsent _ rfl (by decide) (by decide) (by decide)

theorem read_of_isSigned_integer
    {digits : String} {number : Int32} (hsigned : IsSigned digits.toList number.toInt) :
    read digits = .ok (.boxed (.integer number)) := by
  have hread : IntegerReading.read 32 digits.toList = .ok number.toInt :=
    (IntegerReading.read_eq_ok_iff 32 digits.toList number.toInt).mpr
      ⟨hsigned, number.le_toInt, number.toInt_lt⟩
  have habsent : forall character : Char, character.isDigit = false -> character ≠ '+' ->
      character ≠ '-' -> character ∉ digits.toList :=
    fun character => not_mem_of_isSigned hsigned
  have hmarks : ¬ digits.toList.any marksDouble = true := by
    rw [any_marksDouble_iff]
    rintro (hmem | hmem | hmem)
    all_goals exact habsent _ rfl (by decide) (by decide) hmem
  rw [read_eq_readNumber, readNumber, dropSuffix?_of_not_mem, dropSuffix?_of_not_mem]
  · show (if digits.toList.any marksDouble then readDouble digits else readInteger digits) = _
    rw [if_neg hmarks, readInteger, hread]
    simp only [Int32.ofInt_toInt]
    rfl
  all_goals exact habsent _ rfl (by decide) (by decide)

theorem read_of_hasForm
    {text : String} {value : Value} (hexact : IsExact value) (hform : HasForm text value) :
    read text = .ok value := by
  cases hform with
  | null => rfl
  | text content => exact read_quotedText content
  | @character character unit hunit =>
      have hwidth : character.toNat < 65536 := by
        rw [hunit]
        exact unit.toNat_lt
      rw [read_quotedCharacter hwidth, hunit, UInt16.ofNat_toNat]
      rfl
  | long hsigned => exact read_of_isSigned_long hsigned
  | integer hsigned => exact read_of_isSigned_integer hsigned
  | single front number => exact absurd hexact id
  | double number _ _ _ => exact absurd hexact id

/-!
## The grammar
-/

/-- Reading gives a value only from a text of its form, gives a value that is no floating number from
every such text, and fails on a text that has no form. -/
theorem read_eq_ok_iff_hasForm (text : String) :
    (forall value, IsExact value -> (read text = .ok value <-> HasForm text value)) ∧
      (forall value, read text = .ok value -> HasForm text value) ∧
      ((forall value, ¬HasForm text value) -> exists fault, read text = .error fault) := by
  refine ⟨?_, fun value => hasForm_of_read, ?_⟩
  · intro value hexact
    exact ⟨hasForm_of_read, read_of_hasForm hexact⟩
  · intro hnone
    cases hread : read text with
    | ok value => exact absurd (hasForm_of_read hread) (hnone value)
    | error fault => exact ⟨fault, rfl⟩

/-- Leading zeros and a plus before the largest long, and the text without a character. -/
theorem read_eq_ok_iff_hasForm_largest :
    HasForm "+009223372036854775807L" (.long 9223372036854775807) ∧
      read "+009223372036854775807L" = .ok (.long 9223372036854775807) ∧
      (forall value, ¬HasForm "" value) ∧
      exists fault, read "" = .error fault := by
  have hlargest : HasForm "+009223372036854775807L" (.long 9223372036854775807) := by
    have hdigits : AllDigits "009223372036854775807".toList :=
      List.all_eq_true.mp (by decide)
    have hsigned : IsSigned "+009223372036854775807".toList
        (9223372036854775807 : Int64).toInt :=
      @IsSigned.plus "009223372036854775807".toList (by decide) hdigits
    exact HasForm.long hsigned
  have hexact : IsExact (.long 9223372036854775807) := trivial
  have hempty : forall value, ¬HasForm "" value := by
    intro value hform
    generalize htext : "" = text at hform
    have hlist := congrArg String.toList htext
    cases hform with
    | null => exact absurd htext (by decide)
    | integer hsigned => exact hsigned.ne_nil hlist.symm
    | double number _ _ hmarks =>
        rw [← hlist] at hmarks
        simp at hmarks
    | _ => simp at hlist
  exact ⟨hlargest, ((read_eq_ok_iff_hasForm _).1 _ hexact).mpr hlargest, hempty,
    (read_eq_ok_iff_hasForm "").2.2 hempty⟩

end Literal
end HostBridge
