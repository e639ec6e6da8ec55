import HostBridge.Literal.Writing
import HostBridge.Proofs.Literal.Grammar
import HostBridge.Proofs.Number.FloatText

/-!
# Literals read back

A value that was read from a literal is written as a literal that is read as the same value, with
two exceptions.  A double that is too large is read as infinity, and the text of infinity is no
literal.  A single can be read as a NaN with a sign, and the text of a NaN has none.
-/

namespace HostBridge
namespace Literal

/-!
## Integers
-/

theorem read_toString_integer (number : Int32) :
    read (toString number.toInt) = .ok (.integer number) :=
  read_of_isSigned_integer (isSigned_toString number.toInt)

theorem read_toString_long (number : Int64) :
    read (toString number.toInt ++ "L") = .ok (.long number) :=
  read_of_isSigned_long (isSigned_toString number.toInt)

/-!
## Floating numbers
-/

theorem isNumeric_of_isDigit {character : Char} (hdigit : character.isDigit = true) :
    isNumeric character = true := by
  rw [isNumeric, hdigit, Bool.true_or]

theorem allNumeric_text (format : BinaryFormat) (style : DecimalStyle) (word : Nat) :
    AllNumeric (format.text style word).toList := by
  intro character hmem
  rcases Nat.lt_trichotomy (word % format.sign) format.infinity with hlt | heq | hgt
  · rcases BinaryFormat.mem_text hlt hmem with hdigit | hpoint | hexponent | hminus
    · exact isNumeric_of_isDigit hdigit
    · rw [hpoint]
      rfl
    · rw [hexponent]
      rfl
    · rw [hminus]
      rfl
  · have hall : ['-', 'i', 'n', 'f'].all isNumeric = true := rfl
    rw [BinaryFormat.text_of_eq style heq] at hmem
    apply List.all_eq_true.mp hall
    split at hmem
    · exact hmem
    · exact List.mem_cons_of_mem '-' hmem
  · have hall : "NaN".toList.all isNumeric = true := rfl
    rw [BinaryFormat.text_of_lt style hgt] at hmem
    exact List.all_eq_true.mp hall character hmem

theorem read_text_single
    {number : Single} (style : DecimalStyle)
    (hnumber : number.bits.toNat % BinaryFormat.single.sign ≤ BinaryFormat.single.infinity) :
    read (number.text style ++ "f") = .ok (.single number) := by
  have hread : Single.read (number.text style).toList = .ok number := by
    rw [Single.read, Single.text, BinaryFormat.read_text BinaryFormat.single_standard style
      number.bits.toNat_lt hnumber]
    show Except.ok (Single.mk (UInt32.ofNat number.bits.toNat)) = Except.ok number
    rw [UInt32.ofNat_toNat]
  have hnumeric : AllNumeric (number.text style).toList := allNumeric_text _ style _
  rw [read_single hnumeric, readSingle, hread]

theorem read_text_single_nan
    {number : Single} (style : DecimalStyle)
    (hnumber : BinaryFormat.single.infinity < number.bits.toNat % BinaryFormat.single.sign) :
    read (number.text style ++ "f") =
      .ok (.single ⟨UInt32.ofNat BinaryFormat.single.quietNaN⟩) := by
  have hread : Single.read (number.text style).toList =
      .ok ⟨UInt32.ofNat BinaryFormat.single.quietNaN⟩ := by
    rw [Single.read, Single.text, BinaryFormat.text_of_lt style hnumber, BinaryFormat.read_nan]
    rfl
  have hnumeric : AllNumeric (number.text style).toList := allNumeric_text _ style _
  rw [read_single hnumeric, readSingle, hread]

theorem read_text_double
    {number : Double} {style : DecimalStyle} (hstyle : style.pointZero = true)
    (hnumber : number.magnitude < BinaryFormat.double.infinity) :
    read (number.text style) = .ok (.double number) := by
  have hread : Double.read (number.text style).toList = .ok number := by
    rw [Double.read, Double.text, BinaryFormat.read_text BinaryFormat.double_standard style
      number.bits.toNat_lt (Nat.le_of_lt hnumber)]
    show Except.ok (Double.mk (UInt64.ofNat number.bits.toNat)) = Except.ok number
    rw [UInt64.ofNat_toNat]
  have hnumeric : AllNumeric (number.text style).toList := allNumeric_text _ style _
  have hsuffix : 'f' ∉ (number.text style).toList := by
    intro hmem
    have hnot : ¬ ('f'.isDigit = true ∨ 'f' = '.' ∨ 'f' = 'e' ∨ 'f' = '-') := by
      decide
    exact hnot (BinaryFormat.mem_text hnumber hmem)
  have hmarks : (number.text style).toList.any marksDouble = true := by
    apply List.any_eq_true.mpr
    rcases BinaryFormat.mark_mem_text hstyle hnumber with hpoint | hexponent
    · exact ⟨'.', hpoint, rfl⟩
    · exact ⟨'e', hexponent, rfl⟩
  rw [read_unsuffixed hnumeric hsuffix, if_pos hmarks, readDouble, hread]

/-- The final letter of the word for infinity is that of a single. -/
theorem read_text_double_infinity
    {number : Double} (style : DecimalStyle)
    (hnumber : number.magnitude = BinaryFormat.double.infinity) :
    read (number.text style) = .error (.single (number.text style) .invalid) := by
  rw [Double.text, BinaryFormat.text_of_eq style hnumber]
  split <;> rfl

/-!
## Values that literals stand for
-/

/-- The values that some literal is read as: the unit of a character is no half of a pair, and the
only NaN is the quiet one, of single width. -/
def IsRead : Value → Prop
  | .boxed (.character unit) => unit.toNat.isValidChar
  | .boxed (.single number) =>
      number.bits.toNat % BinaryFormat.single.sign ≤ BinaryFormat.single.infinity ∨
        number.bits.toNat % BinaryFormat.single.sign = BinaryFormat.single.quietNaN
  | .boxed (.double number) => number.magnitude ≤ BinaryFormat.double.infinity
  | _ => True

theorem isRead_of_readCharacter
    {text : String} {content : List Char} {value : Value}
    (hread : readCharacter text content = .ok value) : IsRead value := by
  unfold readCharacter at hread
  split at hread
  · rename_i character
    split at hread
    · rename_i hwidth
      cases hread
      show (UInt16.ofNat character.toNat).toNat.isValidChar
      rw [UInt16.toNat_ofNat_of_lt' hwidth]
      exact character.valid
    · contradiction
  · contradiction

theorem isRead_of_readSingle
    {text : String} {digits : List Char} {value : Value}
    (hread : readSingle text digits = .ok value) : IsRead value := by
  unfold readSingle Single.read at hread
  cases hword : BinaryFormat.single.read digits with
  | error cause =>
      rw [hword] at hread
      contradiction
  | ok word =>
      rw [hword] at hread
      cases hread
      rcases BinaryFormat.magnitude_of_read BinaryFormat.single_standard hword with
        ⟨hbound, hmagnitude⟩
      have hbits : (UInt32.ofNat word).toNat = word := UInt32.toNat_ofNat_of_lt' hbound
      show (UInt32.ofNat word).toNat % BinaryFormat.single.sign ≤ BinaryFormat.single.infinity ∨
        (UInt32.ofNat word).toNat % BinaryFormat.single.sign = BinaryFormat.single.quietNaN
      rw [hbits]
      rcases hmagnitude with hle | ⟨hnan, _⟩
      · exact Or.inl hle
      · exact Or.inr hnan

theorem mem_takeSign
    {text : List Char} {character : Char}
    (hmem : character ∈ text) (hminus : character ≠ '-') (hplus : character ≠ '+') :
    character ∈ (takeSign text).2 := by
  unfold takeSign
  split
  · rcases List.mem_cons.mp hmem with heq | hrest
    · exact absurd heq hminus
    · exact hrest
  · rcases List.mem_cons.mp hmem with heq | hrest
    · exact absurd heq hplus
    · exact hrest
  · exact hmem

theorem takeSign_ne_nan
    {text : List Char} (hmarks : text.any marksDouble = true) :
    (takeSign text).2.map Char.toLower ≠ "nan".toList := by
  intro hnan
  rcases List.any_eq_true.mp hmarks with ⟨character, hmem, hmark⟩
  have hlowered : character ≠ '-' -> character ≠ '+' ->
      character.toLower ∈ "nan".toList := by
    intro hminus hplus
    rw [← hnan]
    exact List.mem_map_of_mem (mem_takeSign hmem hminus hplus)
  rcases marksDouble_iff.mp hmark with heq | heq | heq
  all_goals
    rw [heq] at hlowered
    exact absurd (hlowered (by decide) (by decide)) (by decide)

theorem isRead_of_readDouble
    {text : String} {value : Value} (hmarks : text.toList.any marksDouble = true)
    (hread : readDouble text = .ok value) : IsRead value := by
  unfold readDouble Double.read at hread
  cases hword : BinaryFormat.double.read text.toList with
  | error cause =>
      rw [hword] at hread
      contradiction
  | ok word =>
      rw [hword] at hread
      cases hread
      rcases BinaryFormat.magnitude_of_read BinaryFormat.double_standard hword with
        ⟨hbound, hmagnitude⟩
      have hbits : (UInt64.ofNat word).toNat = word := UInt64.toNat_ofNat_of_lt' hbound
      show (UInt64.ofNat word).toNat % BinaryFormat.double.sign ≤ BinaryFormat.double.infinity
      rw [hbits]
      rcases hmagnitude with hle | ⟨_, hnan⟩
      · exact hle
      · exact absurd hnan (takeSign_ne_nan hmarks)

theorem isRead_of_readLong
    {text : String} {digits : List Char} {value : Value}
    (hread : readLong text digits = .ok value) : IsRead value := by
  unfold readLong at hread
  split at hread
  · cases hread
    trivial
  · contradiction

theorem isRead_of_readInteger
    {text : String} {value : Value} (hread : readInteger text = .ok value) : IsRead value := by
  unfold readInteger at hread
  split at hread
  · cases hread
    trivial
  · contradiction

theorem isRead_of_read {text : String} {value : Value} (hread : read text = .ok value) :
    IsRead value := by
  cases readBy_of_read hread with
  | null _ hvalue =>
      rw [hvalue]
      trivial
  | text _ hvalue =>
      rw [hvalue]
      trivial
  | character _ hcharacter => exact isRead_of_readCharacter hcharacter
  | long _ hlong => exact isRead_of_readLong hlong
  | single _ hsingle => exact isRead_of_readSingle hsingle
  | double _ _ hmarks hdouble => exact isRead_of_readDouble hmarks hdouble
  | integer hinteger => exact isRead_of_readInteger hinteger

/-!
## The round trip
-/

/-- Neither an infinite double nor a NaN with a sign. -/
def ReadsBack : Value → Prop
  | .boxed (.double number) => number.magnitude ≠ BinaryFormat.double.infinity
  | .boxed (.single number) =>
      number.bits.toNat ≠ BinaryFormat.single.sign + BinaryFormat.single.quietNaN
  | _ => True

theorem read_write_character {unit : UInt16} (hunit : unit.toNat.isValidChar) :
    read (write (.character unit)) = .ok (.character unit) := by
  have hcharacter : (Char.ofNat unit.toNat).toNat = unit.toNat := by
    rw [Char.ofNat, dif_pos hunit]
    rfl
  have htext : write (.character unit) =
      "'" ++ String.singleton (Char.ofNat unit.toNat) ++ "'" := by
    show "'" ++ Datum.unitText unit ++ "'" = _
    rw [Datum.unitText, if_pos hunit]
  rw [htext, read_quotedCharacter]
  · rw [hcharacter, UInt16.ofNat_toNat]
  · rw [hcharacter]
    exact unit.toNat_lt

theorem eq_quietNaN_iff
    {number : Single}
    (hnumber : number.bits.toNat % BinaryFormat.single.sign = BinaryFormat.single.quietNaN) :
    ⟨UInt32.ofNat BinaryFormat.single.quietNaN⟩ = number <->
      number.bits.toNat ≠ BinaryFormat.single.sign + BinaryFormat.single.quietNaN := by
  have hsign : BinaryFormat.single.sign = 2147483648 := rfl
  have hnan : BinaryFormat.single.quietNaN = 2143289344 := rfl
  have hbound := number.bits.toNat_lt
  constructor
  · intro heq hnegative
    rw [← heq] at hnegative
    exact absurd hnegative (by decide)
  · intro hpositive
    have hbits : number.bits.toNat = BinaryFormat.single.quietNaN := by
      rw [hsign, hnan] at hnumber hpositive
      rw [hnan]
      omega
    rw [← hbits, UInt32.ofNat_toNat]

theorem read_write_single_iff
    {number : Single} (hnumber : IsRead (.single number)) :
    read (write (.single number)) = .ok (.single number) <-> ReadsBack (.single number) := by
  show read (number.text .pointed ++ "f") = .ok (.single number) <->
    number.bits.toNat ≠ BinaryFormat.single.sign + BinaryFormat.single.quietNaN
  rcases hnumber with hle | hnan
  · constructor
    · intro _ heq
      rw [heq] at hle
      exact absurd hle (by decide)
    · intro _
      exact read_text_single .pointed hle
  · have hlt : BinaryFormat.single.infinity < number.bits.toNat % BinaryFormat.single.sign := by
      rw [hnan]
      decide
    rw [read_text_single_nan .pointed hlt, ← eq_quietNaN_iff hnan]
    constructor
    · intro hok
      injection hok with hvalue
      injection hvalue with hdatum
      injection hdatum
    · intro heq
      rw [heq]

theorem read_write_double_iff
    {number : Double} (hnumber : IsRead (.double number)) :
    read (write (.double number)) = .ok (.double number) <-> ReadsBack (.double number) := by
  show read (number.text .pointed) = .ok (.double number) <->
    number.magnitude ≠ BinaryFormat.double.infinity
  constructor
  · intro hok hinfinity
    rw [read_text_double_infinity .pointed hinfinity] at hok
    injection hok
  · intro hfinite
    exact read_text_double rfl (Nat.lt_of_le_of_ne hnumber hfinite)

theorem read_write_iff_of_isRead {value : Value} (hvalue : IsRead value) :
    read (write value) = .ok value <-> ReadsBack value := by
  cases value with
  | null =>
      exact iff_of_true rfl trivial
  | text content =>
      exact iff_of_true (read_quotedText content) trivial
  | boxed datum =>
      cases datum with
      | integer number =>
          exact iff_of_true (read_toString_integer number) trivial
      | character unit =>
          exact iff_of_true (read_write_character hvalue) trivial
      | long number =>
          exact iff_of_true (read_toString_long number) trivial
      | single number =>
          exact read_write_single_iff hvalue
      | double number =>
          exact read_write_double_iff hvalue

theorem read_write_iff {text : String} {value : Value} (hread : read text = .ok value) :
    read (write value) = .ok value <-> ReadsBack value :=
  read_write_iff_of_isRead (isRead_of_read hread)

theorem read_write_tenth :
    read "0.1f" = .ok (.single ⟨0x3dcccccd⟩) ∧
      ReadsBack (.single ⟨0x3dcccccd⟩) ∧
      read (write (.single ⟨0x3dcccccd⟩)) = .ok (.single ⟨0x3dcccccd⟩) := by
  have hread : read "0.1f" = .ok (.single ⟨0x3dcccccd⟩) := rfl
  have hback : ReadsBack (.single ⟨0x3dcccccd⟩) := by
    show (0x3dcccccd : UInt32).toNat ≠ _
    decide
  exact ⟨hread, hback, (read_write_iff hread).mpr hback⟩

/-- An exponent beyond the width is read as infinity, whose text is not read at all. -/
theorem read_write_overflow :
    read "1e999" = .ok (.double ⟨0x7ff0000000000000⟩) ∧
      write (.double ⟨0x7ff0000000000000⟩) = "inf" ∧
      read "inf" = .error (.single "inf" .invalid) := by
  refine ⟨?_, ?_, ?_⟩ <;> rfl

example :
    read "-nanf" = .ok (.single ⟨0xffc00000⟩) ∧
      write (.single ⟨0xffc00000⟩) = "NaNf" ∧
      read "NaNf" = .ok (.single ⟨0x7fc00000⟩) := by
  refine ⟨?_, ?_, ?_⟩ <;> rfl

end Literal
end HostBridge
