import HostBridge.Number.Floating
import HostBridge.Proofs.Number.Numeral
import HostBridge.Proofs.Number.Shortest

/-!
# The text of floating numbers

A word that is not a NaN is read back from its text, in every style.  A NaN has one text, which is
read as the NaN without a sign.  What can be read at all is a magnitude up to infinity or the quiet
NaN, with or without a sign.
-/

namespace HostBridge

theorem toLower_of_isDigit {character : Char} (hdigit : character.isDigit = true) :
    character.toLower = character := by
  have hrange := Char.isDigit_iff_toNat.mp hdigit
  have hnine : '9'.toNat = 57 := rfl
  have hlower : ¬ (character.val ≥ 'A'.val ∧ character.val ≤ 'Z'.val) := by
    intro hupper
    have hletter : 65 ≤ character.toNat := UInt32.le_iff_toNat_le.mp hupper.1
    omega
  exact dif_neg hlower

namespace BinaryFormat

/-!
## Magnitudes
-/

theorem sign_pos (format : BinaryFormat) : 0 < format.sign :=
  Nat.two_pow_pos _

theorem infinity_lt_sign (format : BinaryFormat) : format.infinity < format.sign :=
  Nat.sub_lt format.sign_pos format.stride_pos

theorem readMagnitude_numeral (format : BinaryFormat) (numeral : Numeral) :
    format.readMagnitude numeral.text = some (format.ofDecimal numeral.value) := by
  rcases numeral.exists_text_eq_cons with ⟨first, rest, htext, hdigit⟩
  have hword : forall letter word,
      letter.isDigit = false -> numeral.text.map Char.toLower ≠ letter :: word := by
    intro letter word hletter heq
    rw [htext, List.map_cons, toLower_of_isDigit hdigit] at heq
    exact ne_of_isDigit hdigit hletter (List.cons.inj heq).1
  have hinfinity : ¬ (numeral.text.map Char.toLower = "inf".toList ∨
      numeral.text.map Char.toLower = "infinity".toList) := by
    intro hor
    rcases hor with hshort | hlong
    · exact hword 'i' _ rfl hshort
    · exact hword 'i' _ rfl hlong
  have hnan : ¬ numeral.text.map Char.toLower = "nan".toList := hword 'n' _ rfl
  rw [readMagnitude, if_neg hinfinity, if_neg hnan, numeral.read_text]
  rfl

theorem readMagnitude_of_isWritten
    (format : BinaryFormat) {marked : Bool} {decimal : Decimal} {text : List Char}
    (hwritten : decimal.IsWritten marked text) :
    format.readMagnitude text = some (format.ofDecimal decimal) := by
  rcases hwritten with ⟨numeral, htext, ⟨zeros, hvalue⟩, _⟩
  rw [← htext, readMagnitude_numeral, hvalue, ofDecimal_pad]

def magnitudeText (format : BinaryFormat) (style : DecimalStyle) (magnitude : Nat) : List Char :=
  if magnitude = format.infinity then "inf".toList
  else if magnitude = 0 then Decimal.positional style.pointZero ⟨0, 0⟩
  else (format.shortest magnitude).text style

theorem toList_text_of_le
    {format : BinaryFormat} (style : DecimalStyle) {word : Nat}
    (hword : word % format.sign ≤ format.infinity) :
    (format.text style word).toList =
      if format.sign ≤ word then '-' :: format.magnitudeText style (word % format.sign)
      else format.magnitudeText style (word % format.sign) := by
  unfold text
  simp only
  rw [if_neg (Nat.not_lt.mpr hword), String.toList_ofList]
  rfl

theorem magnitudeText_finite
    (format : BinaryFormat) (style : DecimalStyle) {magnitude : Nat}
    (hmagnitude : magnitude ≠ format.infinity) :
    exists decimal : Decimal,
      decimal.IsWritten style.pointZero (format.magnitudeText style magnitude) ∧
        (format.Standard -> magnitude ≤ format.infinity ->
          format.ofDecimal decimal = magnitude) := by
  rw [magnitudeText, if_neg hmagnitude]
  by_cases hzero : magnitude = 0
  · refine ⟨⟨0, 0⟩, ?_, ?_⟩
    · rw [if_pos hzero]
      exact Decimal.isWritten_positional style.pointZero ⟨0, 0⟩
    · intro _ _
      rw [ofDecimal, if_pos (Or.inl rfl), hzero]
  · refine ⟨format.shortest magnitude, ?_, ?_⟩
    · rw [if_neg hzero]
      exact Decimal.isWritten_text style _
    · intro hformat hle
      exact ofDecimal_shortest hformat (Nat.pos_of_ne_zero hzero) hle

theorem readMagnitude_magnitudeText
    {format : BinaryFormat} (hformat : format.Standard) (style : DecimalStyle) {magnitude : Nat}
    (hmagnitude : magnitude ≤ format.infinity) :
    format.readMagnitude (format.magnitudeText style magnitude) = some magnitude := by
  by_cases hinfinity : magnitude = format.infinity
  · rw [magnitudeText, if_pos hinfinity, readMagnitude, if_pos (by decide), hinfinity]
  · rcases magnitudeText_finite format style hinfinity with ⟨decimal, hwritten, hdecimal⟩
    rw [readMagnitude_of_isWritten format hwritten, hdecimal hformat hmagnitude]

theorem exists_magnitudeText_eq_cons
    (format : BinaryFormat) (style : DecimalStyle) (magnitude : Nat) :
    exists first rest,
      format.magnitudeText style magnitude = first :: rest ∧ first ≠ '-' ∧ first ≠ '+' := by
  by_cases hinfinity : magnitude = format.infinity
  · refine ⟨'i', ['n', 'f'], ?_, by decide, by decide⟩
    rw [magnitudeText, if_pos hinfinity]
    rfl
  · rcases magnitudeText_finite format style hinfinity with ⟨decimal, ⟨numeral, htext, _⟩, _⟩
    rcases numeral.exists_text_eq_cons with ⟨first, rest, hcons, hdigit⟩
    refine ⟨first, rest, ?_, ne_of_isDigit hdigit rfl, ne_of_isDigit hdigit rfl⟩
    rw [← htext, hcons]

theorem takeSign_magnitudeText
    (format : BinaryFormat) (style : DecimalStyle) (magnitude : Nat) :
    takeSign (format.magnitudeText style magnitude) =
      (false, format.magnitudeText style magnitude) := by
  rcases exists_magnitudeText_eq_cons format style magnitude with
    ⟨first, rest, hcons, hminus, hplus⟩
  rw [hcons]
  exact takeSign_of_ne hminus hplus rest

theorem magnitudeText_ne_nil
    (format : BinaryFormat) (style : DecimalStyle) (magnitude : Nat) :
    format.magnitudeText style magnitude ≠ [] := by
  rcases exists_magnitudeText_eq_cons format style magnitude with ⟨first, rest, hcons, _⟩
  rw [hcons]
  exact List.cons_ne_nil first rest

theorem mem_magnitudeText
    {format : BinaryFormat} {style : DecimalStyle} {magnitude : Nat}
    (hmagnitude : magnitude ≠ format.infinity) {character : Char}
    (hmem : character ∈ format.magnitudeText style magnitude) :
    character.isDigit = true ∨ character = '.' ∨ character = 'e' ∨ character = '-' := by
  rcases magnitudeText_finite format style hmagnitude with ⟨decimal, ⟨numeral, htext, _⟩, _⟩
  rw [← htext] at hmem
  exact Numeral.mem_text hmem

theorem mark_mem_magnitudeText
    (format : BinaryFormat) {style : DecimalStyle} (hstyle : style.pointZero = true)
    {magnitude : Nat} (hmagnitude : magnitude ≠ format.infinity) :
    '.' ∈ format.magnitudeText style magnitude ∨ 'e' ∈ format.magnitudeText style magnitude := by
  rcases magnitudeText_finite format style hmagnitude with
    ⟨decimal, ⟨numeral, htext, _, hmarked⟩, _⟩
  rw [← htext]
  exact (hmarked hstyle).mem_text

/-!
## Words
-/

theorem read_of_takeSign
    (format : BinaryFormat) {text : List Char} {negative : Bool} {unsigned : List Char}
    {magnitude : Nat}
    (hne : text ≠ []) (hsign : takeSign text = (negative, unsigned))
    (hmagnitude : format.readMagnitude unsigned = some magnitude) :
    format.read text = .ok (if negative then format.sign + magnitude else magnitude) := by
  rw [read, if_neg hne, hsign]
  simp only [hmagnitude]

theorem read_text
    {format : BinaryFormat} (hformat : format.Standard) (style : DecimalStyle) {word : Nat}
    (hword : word < 2 * format.sign) (hmagnitude : word % format.sign ≤ format.infinity) :
    format.read (format.text style word).toList = .ok word := by
  have hread := readMagnitude_magnitudeText hformat style hmagnitude
  rw [toList_text_of_le style hmagnitude]
  by_cases hsign : format.sign ≤ word
  · have hsum : format.sign + word % format.sign = word := by
      rw [Nat.mod_eq_sub_mod hsign, Nat.mod_eq_of_lt (by omega)]
      omega
    rw [if_pos hsign, read_of_takeSign format (List.cons_ne_nil _ _) (takeSign_minus _) hread,
      if_pos rfl, hsum]
  · have hsame : word % format.sign = word := Nat.mod_eq_of_lt (Nat.lt_of_not_le hsign)
    rw [if_neg hsign, read_of_takeSign format (magnitudeText_ne_nil format style _)
      (takeSign_magnitudeText format style _) hread, if_neg Bool.false_ne_true, hsame]

theorem mem_text
    {format : BinaryFormat} {style : DecimalStyle} {word : Nat}
    (hword : word % format.sign < format.infinity) {character : Char}
    (hmem : character ∈ (format.text style word).toList) :
    character.isDigit = true ∨ character = '.' ∨ character = 'e' ∨ character = '-' := by
  rw [toList_text_of_le style (Nat.le_of_lt hword)] at hmem
  split at hmem
  · rcases List.mem_cons.mp hmem with hminus | hunsigned
    · exact Or.inr (Or.inr (Or.inr hminus))
    · exact mem_magnitudeText (Nat.ne_of_lt hword) hunsigned
  · exact mem_magnitudeText (Nat.ne_of_lt hword) hmem

theorem mark_mem_text
    {format : BinaryFormat} {style : DecimalStyle} (hstyle : style.pointZero = true) {word : Nat}
    (hword : word % format.sign < format.infinity) :
    '.' ∈ (format.text style word).toList ∨ 'e' ∈ (format.text style word).toList := by
  have hmark := mark_mem_magnitudeText format hstyle (Nat.ne_of_lt hword)
  rw [toList_text_of_le style (Nat.le_of_lt hword)]
  split
  · rcases hmark with hpoint | hexponent
    · exact Or.inl (List.mem_cons_of_mem _ hpoint)
    · exact Or.inr (List.mem_cons_of_mem _ hexponent)
  · exact hmark

theorem text_of_eq
    {format : BinaryFormat} (style : DecimalStyle) {word : Nat}
    (hword : word % format.sign = format.infinity) :
    format.text style word = if format.sign ≤ word then "-inf" else "inf" := by
  apply String.toList_injective
  rw [toList_text_of_le style (Nat.le_of_eq hword), magnitudeText, if_pos hword]
  split <;> rfl

theorem text_of_lt
    {format : BinaryFormat} (style : DecimalStyle) {word : Nat}
    (hword : format.infinity < word % format.sign) :
    format.text style word = "NaN" := by
  rw [text]
  exact if_pos hword

theorem read_nan (format : BinaryFormat) : format.read "NaN".toList = .ok format.quietNaN := by
  have hmagnitude : format.readMagnitude "NaN".toList = some format.quietNaN := by
    rw [readMagnitude, if_neg (by decide), if_pos (by decide)]
  exact read_of_takeSign format (List.cons_ne_nil _ _) rfl hmagnitude

theorem readMagnitude_eq_some
    {format : BinaryFormat} {text : List Char} {magnitude : Nat}
    (hread : format.readMagnitude text = some magnitude) :
    magnitude ≤ format.infinity ∨
      (magnitude = format.quietNaN ∧ text.map Char.toLower = "nan".toList) := by
  unfold readMagnitude at hread
  simp only at hread
  split at hread
  · exact Or.inl (Nat.le_of_eq (Option.some.inj hread).symm)
  · split at hread
    · rename_i hnan
      exact Or.inr ⟨(Option.some.inj hread).symm, hnan⟩
    · rcases Option.map_eq_some_iff.mp hread with ⟨decimal, _, hdecimal⟩
      left
      rw [← hdecimal]
      exact ofDecimal_le_infinity format decimal

theorem read_eq_ok
    {format : BinaryFormat} {text : List Char} {word : Nat}
    (hread : format.read text = .ok word) :
    exists magnitude,
      format.readMagnitude (takeSign text).2 = some magnitude ∧
        word = if (takeSign text).1 then format.sign + magnitude else magnitude := by
  unfold read at hread
  split at hread
  · contradiction
  · simp only at hread
    split at hread
    · rename_i magnitude hmagnitude
      exact ⟨magnitude, hmagnitude, (Except.ok.inj hread).symm⟩
    · contradiction

theorem quietNaN_lt_sign {format : BinaryFormat} (hformat : format.Standard) :
    format.quietNaN < format.sign := by
  have hstride : format.stride ≤ format.sign := by
    apply Nat.pow_le_pow_right (by decide)
    have hprecision := hformat.precision_lt
    omega
  have hpositive := format.stride_pos
  unfold quietNaN infinity
  omega

theorem magnitude_of_read
    {format : BinaryFormat} (hformat : format.Standard) {text : List Char} {word : Nat}
    (hread : format.read text = .ok word) :
    word < 2 * format.sign ∧
      (word % format.sign ≤ format.infinity ∨
        (word % format.sign = format.quietNaN ∧
          (takeSign text).2.map Char.toLower = "nan".toList)) := by
  rcases read_eq_ok hread with ⟨magnitude, hmagnitude, hword⟩
  have hsome := readMagnitude_eq_some hmagnitude
  have hinfinity := format.infinity_lt_sign
  have hnan := quietNaN_lt_sign hformat
  have hlt : magnitude < format.sign := by
    rcases hsome with hle | ⟨heq, _⟩ <;> omega
  have hmod : word % format.sign = magnitude := by
    rw [hword]
    split
    · rw [Nat.add_mod_left, Nat.mod_eq_of_lt hlt]
    · exact Nat.mod_eq_of_lt hlt
  rw [hmod]
  refine ⟨?_, hsome⟩
  rw [hword]
  split <;> omega

end BinaryFormat
end HostBridge
