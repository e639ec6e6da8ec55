import HostBridge.Proofs.Literal.Grammar
import HostBridge.Proofs.Literal.RoundTrip

/-!
# Values told apart by their literals

A value that is no floating number is read back from its literal, unless it is a character that is
half of a pair: such a character has no text of its own, so its code is written between the quotes,
which is more than one character.  The codes still differ, so no two values share a literal.
-/

namespace HostBridge

namespace Quoted

/-!
## Hexadecimal digits
-/

theorem digitChar_injective :
    forall first, first < 16 -> forall second, second < 16 ->
      Nat.digitChar first = Nat.digitChar second -> first = second := by
  decide

theorem toDigits_sixteen (number : Nat) :
    Nat.toDigits 16 number =
      (if number < 16 then [] else Nat.toDigits 16 (number / 16)) ++
        [Nat.digitChar (number % 16)] := by
  rw [Nat.toDigits_eq_if (by decide)]
  split
  · rename_i hsmall
    rw [Nat.mod_eq_of_lt hsmall]
    rfl
  · rfl

theorem toDigits_sixteen_injective
    {first second : Nat} (hdigits : Nat.toDigits 16 first = Nat.toDigits 16 second) :
    first = second := by
  induction first using Nat.strongRecOn generalizing second with
  | ind first ih =>
      rw [toDigits_sixteen first, toDigits_sixteen second] at hdigits
      rcases List.append_inj' hdigits rfl with ⟨hfront, hlast⟩
      have hrest : first % 16 = second % 16 :=
        digitChar_injective _ (Nat.mod_lt _ (by decide)) _ (Nat.mod_lt _ (by decide))
          (List.singleton_inj.mp hlast)
      have hquotient : first / 16 = second / 16 := by
        by_cases hfirst : first < 16
        · by_cases hsecond : second < 16
          · rw [Nat.div_eq_of_lt hfirst, Nat.div_eq_of_lt hsecond]
          · rw [if_pos hfirst, if_neg hsecond] at hfront
            exact absurd hfront.symm Nat.toDigits_ne_nil
        · by_cases hsecond : second < 16
          · rw [if_neg hfirst, if_pos hsecond] at hfront
            exact absurd hfront Nat.toDigits_ne_nil
          · rw [if_neg hfirst, if_neg hsecond] at hfront
            exact ih (first / 16) (by omega) hfront
      rw [← Nat.div_add_mod first 16, ← Nat.div_add_mod second 16, hquotient, hrest]

theorem fourHexDigits_of_le {code : Nat} (hcode : 4096 ≤ code) :
    fourHexDigits code = hexDigits code := by
  have hlength : 4 ≤ (Nat.toDigits 16 code).length := by
    rcases Nat.lt_or_ge (Nat.toDigits 16 code).length 4 with hshort | hlong
    · have hsmall := (Nat.length_toDigits_le_iff (k := 3) (by decide) (by decide)).mp
        (Nat.le_of_lt_succ hshort)
      exact absurd hcode (Nat.not_le_of_lt hsmall)
    · exact hlong
  rw [fourHexDigits, hexDigits, List.leftpad, Nat.sub_eq_zero_of_le hlength]
  rfl

theorem codePoint_injective {first second : String} (hcode : codePoint first = codePoint second) :
    first = second :=
  (String.append_right_inj _).mp ((String.append_left_inj _).mp hcode)

end Quoted

namespace Literal

/-!
## Characters that are half of a pair
-/

/-- A character whose code is kept for halves of pairs. -/
def IsSurrogate : Value → Prop
  | .boxed (.character unit) => 0xd800 ≤ unit.toNat ∧ unit.toNat ≤ 0xdfff
  | _ => False

theorem isValidChar_iff (unit : UInt16) :
    unit.toNat.isValidChar <-> ¬IsSurrogate (.character unit) := by
  show unit.toNat.isValidChar <-> ¬(0xd800 ≤ unit.toNat ∧ unit.toNat ≤ 0xdfff)
  have hbound := unit.toNat_lt
  rw [Nat.isValidChar]
  omega

theorem write_surrogate {unit : UInt16} (hunit : IsSurrogate (.character unit)) :
    write (.character unit) =
      "'" ++ Quoted.codePoint (Quoted.hexDigits unit.toNat) ++ "'" := by
  have hcode : 4096 ≤ unit.toNat := Nat.le_trans (by decide) hunit.1
  have hinvalid : ¬unit.toNat.isValidChar := fun h => (isValidChar_iff unit).mp h hunit
  show "'" ++ Datum.unitText unit ++ "'" = _
  rw [Datum.unitText, if_neg hinvalid, Quoted.fourHexDigits_of_le hcode]

theorem read_quoted_of_ne_singleton
    {content : String} (hcontent : forall character, content.toList ≠ [character]) :
    read ("'" ++ content ++ "'") = .error (.characterCount ("'" ++ content ++ "'")) := by
  have hlist : ("'" ++ content ++ "'").toList = '\'' :: (content.toList ++ ['\'']) :=
    toList_quote '\'' content
  have hnull : "'" ++ content ++ "'" ≠ "null" :=
    quote_ne_null '\'' (by decide) content
  rw [read, if_neg hnull, hlist, unquote?_append, unquote?_of_ne (by decide)]
  show readCharacter _ content.toList = _
  unfold readCharacter
  split
  · rename_i character hone
    exact absurd hone (hcontent character)
  · rfl

theorem read_write_surrogate {unit : UInt16} (hunit : IsSurrogate (.character unit)) :
    read (write (.character unit)) = .error (.characterCount (write (.character unit))) := by
  rw [write_surrogate hunit]
  apply read_quoted_of_ne_singleton
  intro character hone
  have hlength := congrArg List.length hone
  rw [Quoted.codePoint] at hlength
  simp at hlength

theorem write_surrogate_injective
    {unit other : UInt16} (hunit : IsSurrogate (.character unit))
    (hother : IsSurrogate (.character other))
    (hwrite : write (.character unit) = write (.character other)) : unit = other := by
  rw [write_surrogate hunit, write_surrogate hother] at hwrite
  have hcode := Quoted.codePoint_injective
    ((String.append_right_inj _).mp ((String.append_left_inj _).mp hwrite))
  have hdigits := congrArg String.toList hcode
  rw [Quoted.hexDigits, Quoted.hexDigits, String.toList_ofList, String.toList_ofList] at hdigits
  exact UInt16.toNat_inj.mp (Quoted.toDigits_sixteen_injective hdigits)

theorem exists_eq_of_isSurrogate {value : Value} (hvalue : IsSurrogate value) :
    exists unit, value = .character unit ∧ IsSurrogate (.character unit) := by
  cases value with
  | null => cases hvalue
  | text content => cases hvalue
  | boxed datum =>
      cases datum with
      | character unit => exact ⟨unit, rfl, hvalue⟩
      | integer number => cases hvalue
      | long number => cases hvalue
      | single number => cases hvalue
      | double number => cases hvalue

/-!
## All values but floating numbers
-/

theorem read_write_of_not_isSurrogate
    {value : Value} (hexact : IsExact value) (hvalue : ¬IsSurrogate value) :
    read (write value) = .ok value := by
  cases value with
  | null => rfl
  | text content => exact read_quotedText content
  | boxed datum =>
      cases datum with
      | integer number => exact read_toString_integer number
      | character unit => exact read_write_character ((isValidChar_iff unit).mpr hvalue)
      | long number => exact read_toString_long number
      | single number => exact absurd hexact id
      | double number => exact absurd hexact id

theorem write_injective_of_isExact
    {value other : Value} (hvalue : IsExact value) (hother : IsExact other)
    (hwrite : write value = write other) : value = other := by
  by_cases hsurrogate : IsSurrogate value
  · rcases exists_eq_of_isSurrogate hsurrogate with ⟨unit, rfl, hunit⟩
    have hread := read_write_surrogate hunit
    by_cases hpaired : IsSurrogate other
    · rcases exists_eq_of_isSurrogate hpaired with ⟨another, rfl, hanother⟩
      rw [write_surrogate_injective hunit hanother hwrite]
    · rw [hwrite, read_write_of_not_isSurrogate hother hpaired] at hread
      cases hread
  · have hread := read_write_of_not_isSurrogate hvalue hsurrogate
    by_cases hpaired : IsSurrogate other
    · rcases exists_eq_of_isSurrogate hpaired with ⟨another, rfl, hanother⟩
      rw [hwrite, read_write_surrogate hanother] at hread
      cases hread
    · rw [hwrite, read_write_of_not_isSurrogate hother hpaired] at hread
      cases hread
      rfl

/-- A value that is no floating number is read back from its literal just where it is no half of a
pair, whose literal is not read at all; and its literal is that of no other such value. -/
theorem read_write_exact_iff :
    (forall value, IsExact value ->
      (read (write value) = .ok value <-> ¬IsSurrogate value) ∧
        (IsSurrogate value -> exists fault, read (write value) = .error fault)) ∧
      (forall value other, IsExact value -> IsExact other -> write value = write other ->
        value = other) := by
  constructor
  · intro value hexact
    have herror : IsSurrogate value -> exists fault, read (write value) = .error fault := by
      intro hsurrogate
      rcases exists_eq_of_isSurrogate hsurrogate with ⟨unit, rfl, hunit⟩
      exact ⟨_, read_write_surrogate hunit⟩
    refine ⟨⟨?_, read_write_of_not_isSurrogate hexact⟩, herror⟩
    intro hread hsurrogate
    rcases herror hsurrogate with ⟨fault, hfault⟩
    rw [hread] at hfault
    cases hfault
  · intro value other hvalue hother hwrite
    exact write_injective_of_isExact hvalue hother hwrite

/-- The first half of a pair, beside the text that looks like its literal. -/
theorem read_write_exact_iff_surrogate :
    IsExact (.character 0xd800) ∧ IsSurrogate (.character 0xd800) ∧
      (exists fault, read (write (.character 0xd800)) = .error fault) ∧
      IsExact (.text "'\\u\x7bd800\x7d'") ∧
      write (.character 0xd800) ≠ write (.text "'\\u\x7bd800\x7d'") := by
  have hcharacter : IsExact (.character 0xd800) := trivial
  have hsurrogate : IsSurrogate (.character 0xd800) := by
    show 0xd800 ≤ (0xd800 : UInt16).toNat ∧ (0xd800 : UInt16).toNat ≤ 0xdfff
    decide
  have htext : IsExact (.text "'\\u\x7bd800\x7d'") := trivial
  refine ⟨hcharacter, hsurrogate, (read_write_exact_iff.1 _ hcharacter).2 hsurrogate, htext, ?_⟩
  intro hwrite
  cases read_write_exact_iff.2 _ _ hcharacter htext hwrite

end Literal
end HostBridge
