import HostBridge.Number.DecimalReading
import HostBridge.Proofs.Number.Decimal
import HostBridge.Proofs.Number.IntegerText

/-!
# Numerals

The text of a decimal has digits, digits after a point, and an exponent.  Every text of this shape
is read as the decimal that its parts make, and both the positional text of a decimal and its
scientific one have this shape and make the decimal, up to zeros.
-/

namespace HostBridge

/-- The parts of a text.  It has a point where there are digits after it. -/
structure Numeral where
  whole : List Char
  fraction : List Char
  exponent : Option Int
  whole_ne_nil : whole ≠ []
  whole_digits : AllDigits whole
  fraction_digits : AllDigits fraction

namespace Numeral

def pointText : List Char → List Char
  | [] => []
  | first :: rest => '.' :: first :: rest

theorem pointText_of_ne_nil {fraction : List Char} (hfraction : fraction ≠ []) :
    pointText fraction = '.' :: fraction := by
  cases fraction with
  | nil =>
      exact absurd rfl hfraction
  | cons first rest =>
      rfl

def exponentText : Option Int → List Char
  | none => []
  | some exponent => 'e' :: (toString exponent).toList

def text (numeral : Numeral) : List Char :=
  numeral.whole ++ (pointText numeral.fraction ++ exponentText numeral.exponent)

def value (numeral : Numeral) : Decimal :=
  ⟨Nat.ofDigitChars 10 (numeral.whole ++ numeral.fraction) 0,
    -numeral.fraction.length + numeral.exponent.getD 0⟩

def IsMarked (numeral : Numeral) : Prop :=
  numeral.fraction ≠ [] ∨ numeral.exponent ≠ none

/-!
## Reading
-/

theorem takeWhile_digits
    {digits rest : List Char} (hdigits : AllDigits digits)
    (hrest : rest.takeWhile Char.isDigit = []) :
    (digits ++ rest).takeWhile Char.isDigit = digits := by
  rw [List.takeWhile_append_of_pos hdigits, hrest, List.append_nil]

theorem dropWhile_digits
    {digits rest : List Char} (hdigits : AllDigits digits)
    (hrest : rest.takeWhile Char.isDigit = []) :
    (digits ++ rest).dropWhile Char.isDigit = rest := by
  have hwhole := List.takeWhile_append_dropWhile (p := Char.isDigit) (l := rest)
  rw [hrest, List.nil_append] at hwhole
  rw [List.dropWhile_append_of_pos hdigits, hwhole]

theorem takeWhile_exponentText (exponent : Option Int) :
    (exponentText exponent).takeWhile Char.isDigit = [] := by
  cases exponent <;> rfl

theorem takeWhile_pointText (fraction : List Char) (exponent : Option Int) :
    (pointText fraction ++ exponentText exponent).takeWhile Char.isDigit = [] := by
  cases fraction with
  | nil =>
      exact takeWhile_exponentText exponent
  | cons first rest =>
      rfl

theorem readDigits_text (numeral : Numeral) :
    Decimal.readDigits numeral.text =
      some (⟨Nat.ofDigitChars 10 (numeral.whole ++ numeral.fraction) 0, -numeral.fraction.length⟩,
        exponentText numeral.exponent) := by
  have hpoint := takeWhile_pointText numeral.fraction numeral.exponent
  have hwhole := takeWhile_digits numeral.whole_digits hpoint
  have hrest := dropWhile_digits numeral.whole_digits hpoint
  have hne : numeral.whole ++ numeral.fraction ≠ [] := by
    intro hnil
    exact numeral.whole_ne_nil (List.append_eq_nil_iff.mp hnil).1
  unfold Decimal.readDigits text
  simp only [hwhole, hrest]
  cases hfraction : numeral.fraction with
  | nil =>
      rw [hfraction, List.append_nil] at hne
      cases numeral.exponent with
      | none =>
          simp [pointText, exponentText, hne]
      | some exponent =>
          simp [pointText, exponentText, hne]
  | cons first rest =>
      have hexponent := takeWhile_exponentText numeral.exponent
      have hdigits := numeral.fraction_digits
      rw [hfraction] at hne hdigits
      have htake := takeWhile_digits hdigits hexponent
      have hdrop := dropWhile_digits hdigits hexponent
      simp only [pointText, List.cons_append] at htake hdrop ⊢
      simp only [htake, hdrop, if_neg hne]

theorem readExponent_of_takeSign
    {text : List Char} {negative : Bool} {size : Nat}
    (hsign : takeSign text = (negative, Nat.toDigits 10 size)) :
    Decimal.readExponent ('e' :: text) = some (if negative then -(size : Int) else size) := by
  have hall : (Nat.toDigits 10 size).all Char.isDigit = true :=
    List.all_eq_true.mpr (allDigits_toDigits size)
  rw [Decimal.readExponent, hsign]
  simp only
  rw [if_pos, Nat.ofDigitChars_ten_toDigits]
  exact ⟨Or.inl trivial, Nat.toDigits_ne_nil, hall⟩

theorem readExponent_exponentText (exponent : Option Int) :
    Decimal.readExponent (exponentText exponent) = some (exponent.getD 0) := by
  cases exponent with
  | none =>
      rfl
  | some exponent =>
      cases exponent with
      | ofNat size =>
          rw [exponentText, toList_toString_ofNat,
            readExponent_of_takeSign (takeSign_toDigits size)]
          rfl
      | negSucc size =>
          rw [exponentText, toList_toString_negSucc,
            readExponent_of_takeSign (takeSign_minus (Nat.toDigits 10 (size + 1)))]
          rfl

theorem read_text (numeral : Numeral) :
    Decimal.read numeral.text = some numeral.value := by
  unfold Decimal.read
  rw [readDigits_text]
  show (Decimal.readExponent (exponentText numeral.exponent)).bind _ = some numeral.value
  rw [readExponent_exponentText]
  rfl

/-!
## Characters
-/

theorem exists_text_eq_cons (numeral : Numeral) :
    exists first rest, numeral.text = first :: rest ∧ first.isDigit = true := by
  cases hwhole : numeral.whole with
  | nil =>
      exact absurd hwhole numeral.whole_ne_nil
  | cons first rest =>
      refine ⟨first, rest ++ (pointText numeral.fraction ++ exponentText numeral.exponent), ?_, ?_⟩
      · rw [text, hwhole, List.cons_append]
      · apply numeral.whole_digits
        rw [hwhole]
        exact List.mem_cons_self

theorem mem_text
    {numeral : Numeral} {character : Char} (hmem : character ∈ numeral.text) :
    character.isDigit = true ∨ character = '.' ∨ character = 'e' ∨ character = '-' := by
  rcases List.mem_append.mp hmem with hwhole | hrest
  · exact Or.inl (numeral.whole_digits character hwhole)
  · rcases List.mem_append.mp hrest with hpoint | hexponent
    · have hdigits := numeral.fraction_digits character
      cases hfraction : numeral.fraction with
      | nil =>
          rw [hfraction] at hpoint
          contradiction
      | cons first rest =>
          rw [hfraction] at hpoint hdigits
          rcases List.mem_cons.mp hpoint with hmark | hdigit
          · exact Or.inr (Or.inl hmark)
          · exact Or.inl (hdigits hdigit)
    · cases hexp : numeral.exponent with
      | none =>
          rw [hexp] at hexponent
          contradiction
      | some exponent =>
          rw [hexp] at hexponent
          rcases List.mem_cons.mp hexponent with hmark | hnumber
          · exact Or.inr (Or.inr (Or.inl hmark))
          · rcases toList_toString_characters exponent character hnumber with hdigit | hminus
            · exact Or.inl hdigit
            · exact Or.inr (Or.inr (Or.inr hminus))

theorem IsMarked.mem_text {numeral : Numeral} (hmarked : numeral.IsMarked) :
    '.' ∈ numeral.text ∨ 'e' ∈ numeral.text := by
  rcases hmarked with hfraction | hexponent
  · left
    apply List.mem_append_right
    apply List.mem_append_left
    cases hpoint : numeral.fraction with
    | nil =>
        exact absurd hpoint hfraction
    | cons first rest =>
        exact List.mem_cons_self
  · right
    apply List.mem_append_right
    apply List.mem_append_right
    cases hexp : numeral.exponent with
    | none =>
        exact absurd hexp hexponent
    | some exponent =>
        exact List.mem_cons_self

end Numeral

namespace Decimal

/-!
## The text of a decimal
-/

/-- A numeral has this text and makes this decimal, with zeros at the end of its digits. -/
def IsWritten (marked : Bool) (decimal : Decimal) (text : List Char) : Prop :=
  exists numeral : Numeral,
    numeral.text = text ∧
      (exists zeros, numeral.value = decimal.pad zeros) ∧
      (marked = true -> numeral.IsMarked)

theorem isWritten_of_digits
    {marked : Bool} {decimal : Decimal} {whole : List Char}
    (fraction : List Char) (exponent : Option Int) (zeros : Nat)
    (hne : whole ≠ [])
    (hwhole : AllDigits whole) (hfraction : AllDigits fraction)
    (hdigits : Nat.ofDigitChars 10 (whole ++ fraction) 0 = decimal.digits * 10 ^ zeros)
    (hexponent : -(fraction.length : Int) + exponent.getD 0 = decimal.exponent - zeros)
    (hmarked : marked = true -> fraction ≠ [] ∨ exponent ≠ none) :
    decimal.IsWritten marked
      (whole ++ (Numeral.pointText fraction ++ Numeral.exponentText exponent)) := by
  refine ⟨⟨whole, fraction, exponent, hne, hwhole, hfraction⟩, rfl, ⟨zeros, ?_⟩, hmarked⟩
  rw [Numeral.value, pad, hdigits, hexponent]

theorem ofDigitChars_toDigits_zeros (number zeros : Nat) :
    Nat.ofDigitChars 10 (Nat.toDigits 10 number ++ List.replicate zeros '0') 0 =
      number * 10 ^ zeros := by
  rw [Nat.ofDigitChars_append, Nat.ofDigitChars_ten_toDigits, Nat.ofDigitChars_replicate_zero,
    Nat.mul_comm]

theorem isWritten_whole (marked : Bool) {decimal : Decimal} (hexponent : 0 ≤ decimal.exponent) :
    decimal.IsWritten marked
      (Nat.toDigits 10 decimal.digits ++ List.replicate decimal.exponent.toNat '0' ++
        (if marked then ['.', '0'] else [])) := by
  have hne : Nat.toDigits 10 decimal.digits ++ List.replicate decimal.exponent.toNat '0' ≠ [] := by
    intro hnil
    exact Nat.toDigits_ne_nil (List.append_eq_nil_iff.mp hnil).1
  have hwhole := AllDigits.append (allDigits_toDigits decimal.digits)
    (allDigits_zeros decimal.exponent.toNat)
  cases marked with
  | false =>
      apply isWritten_of_digits [] none decimal.exponent.toNat hne hwhole
      · intro character hmem
        contradiction
      · rw [List.append_nil, ofDigitChars_toDigits_zeros]
      · rw [List.length_nil, Option.getD_none]
        omega
      · intro hmarked
        contradiction
  | true =>
      apply isWritten_of_digits ['0'] none (decimal.exponent.toNat + 1) hne hwhole
      · exact allDigits_zeros 1
      · rw [List.append_assoc, ← List.replicate_succ', ofDigitChars_toDigits_zeros]
      · rw [List.length_singleton, Option.getD_none]
        omega
      · intro _
        exact Or.inl (List.cons_ne_nil _ _)

theorem isWritten_split
    (marked : Bool) {decimal : Decimal} {places : Nat}
    (hplaces : 0 < places) (hlength : places < (Nat.toDigits 10 decimal.digits).length)
    (hexponent : decimal.exponent = -places) :
    decimal.IsWritten marked
      ((Nat.toDigits 10 decimal.digits).take ((Nat.toDigits 10 decimal.digits).length - places) ++
        '.' :: (Nat.toDigits 10 decimal.digits).drop
          ((Nat.toDigits 10 decimal.digits).length - places)) := by
  have hdigits := allDigits_toDigits decimal.digits
  have hvalue : Nat.ofDigitChars 10 (Nat.toDigits 10 decimal.digits) 0 = decimal.digits :=
    Nat.ofDigitChars_ten_toDigits
  generalize Nat.toDigits 10 decimal.digits = digits at hlength hdigits hvalue ⊢
  have hdrop : (digits.drop (digits.length - places)).length = places := by
    rw [List.length_drop]
    omega
  have hfraction : digits.drop (digits.length - places) ≠ [] := by
    intro hnil
    rw [hnil, List.length_nil] at hdrop
    omega
  have hne : digits.take (digits.length - places) ≠ [] := by
    intro hnil
    have htake := congrArg List.length hnil
    rw [List.length_take, List.length_nil] at htake
    omega
  have hpoint : '.' :: digits.drop (digits.length - places) =
      Numeral.pointText (digits.drop (digits.length - places)) ++ Numeral.exponentText none := by
    rw [Numeral.pointText_of_ne_nil hfraction, Numeral.exponentText, List.append_nil]
  rw [hpoint]
  apply isWritten_of_digits _ none 0 hne
  · intro character hmem
    exact hdigits character (List.mem_of_mem_take hmem)
  · intro character hmem
    exact hdigits character (List.mem_of_mem_drop hmem)
  · rw [List.take_append_drop, hvalue, Nat.pow_zero, Nat.mul_one]
  · rw [hdrop, Option.getD_none, hexponent]
    omega
  · intro _
    exact Or.inl hfraction

theorem isWritten_below
    (marked : Bool) {decimal : Decimal} {places : Nat}
    (hlength : (Nat.toDigits 10 decimal.digits).length ≤ places)
    (hexponent : decimal.exponent = -places) :
    decimal.IsWritten marked
      ('0' :: '.' :: (List.replicate (places - (Nat.toDigits 10 decimal.digits).length) '0' ++
        Nat.toDigits 10 decimal.digits)) := by
  have hfraction : List.replicate (places - (Nat.toDigits 10 decimal.digits).length) '0' ++
      Nat.toDigits 10 decimal.digits ≠ [] := by
    intro hnil
    exact Nat.toDigits_ne_nil (List.append_eq_nil_iff.mp hnil).2
  have hpoint := Numeral.pointText_of_ne_nil hfraction
  have hwritten : decimal.IsWritten marked
      (['0'] ++ (Numeral.pointText
        (List.replicate (places - (Nat.toDigits 10 decimal.digits).length) '0' ++
          Nat.toDigits 10 decimal.digits) ++ Numeral.exponentText none)) := by
    apply isWritten_of_digits _ none 0 (List.cons_ne_nil _ _)
    · exact allDigits_zeros 1
    · exact AllDigits.append (allDigits_zeros _) (allDigits_toDigits decimal.digits)
    · rw [← List.append_assoc, List.singleton_append, ← List.replicate_succ,
        Nat.ofDigitChars_append, Nat.ofDigitChars_replicate_zero, Nat.mul_zero,
        Nat.ofDigitChars_ten_toDigits, Nat.pow_zero, Nat.mul_one]
    · rw [List.length_append, List.length_replicate, Option.getD_none, hexponent]
      omega
    · intro _
      exact Or.inl hfraction
  rw [hpoint, Numeral.exponentText, List.append_nil] at hwritten
  exact hwritten

theorem isWritten_positional (marked : Bool) (decimal : Decimal) :
    decimal.IsWritten marked (decimal.positional marked) := by
  unfold positional
  simp only
  split
  · exact isWritten_whole marked (by omega)
  · split
    · exact isWritten_split marked (by omega) (by assumption) (by omega)
    · exact isWritten_below marked (by omega) (by omega)

theorem isWritten_scientific (marked : Bool) (decimal : Decimal) :
    decimal.IsWritten marked decimal.scientific := by
  have hdigits := allDigits_toDigits decimal.digits
  have hvalue : Nat.ofDigitChars 10 (Nat.toDigits 10 decimal.digits) 0 = decimal.digits :=
    Nat.ofDigitChars_ten_toDigits
  have hne : Nat.toDigits 10 decimal.digits ≠ [] := Nat.toDigits_ne_nil
  have hlead : decimal.lead = decimal.exponent + (Nat.toDigits 10 decimal.digits).length - 1 := rfl
  unfold scientific
  generalize Nat.toDigits 10 decimal.digits = digits at hdigits hvalue hne hlead ⊢
  cases digits with
  | nil =>
      exact absurd rfl hne
  | cons first fraction =>
      have hwritten : decimal.IsWritten marked
          ([first] ++ (Numeral.pointText fraction ++
            Numeral.exponentText (some decimal.lead))) := by
        apply isWritten_of_digits fraction (some decimal.lead) 0 (List.cons_ne_nil _ _)
        · intro character hmem
          rw [List.mem_singleton.mp hmem]
          exact hdigits first List.mem_cons_self
        · intro character hmem
          exact hdigits character (List.mem_cons_of_mem first hmem)
        · rw [List.singleton_append, hvalue, Nat.pow_zero, Nat.mul_one]
        · rw [List.length_cons] at hlead
          rw [Option.getD_some, hlead]
          omega
        · intro _
          exact Or.inr (Option.some_ne_none _)
      cases fraction <;> exact hwritten

theorem isWritten_text (style : DecimalStyle) (decimal : Decimal) :
    decimal.IsWritten style.pointZero (decimal.text style) := by
  unfold text
  split
  · exact isWritten_positional style.pointZero decimal
  · exact isWritten_scientific style.pointZero decimal

end Decimal
end HostBridge
