import HostBridge.Proofs.Number.IntegerText

/-!
# Integers from signed digits

The texts that are read as integers are one or more digits, with a sign before them or without one,
and they are read as the number that the digits stand for.  Leading zeros do not count, and a width
refuses just the numbers outside it.
-/

namespace HostBridge

/-- Digits with a sign or without one, and the number that they stand for. -/
inductive IsSigned : List Char → Int → Prop where
  | unsigned {digits : List Char} :
      digits ≠ [] ->
      AllDigits digits ->
      IsSigned digits (Nat.ofDigitChars 10 digits 0)
  | plus {digits : List Char} :
      digits ≠ [] ->
      AllDigits digits ->
      IsSigned ('+' :: digits) (Nat.ofDigitChars 10 digits 0)
  | minus {digits : List Char} :
      digits ≠ [] ->
      AllDigits digits ->
      IsSigned ('-' :: digits) (-(Nat.ofDigitChars 10 digits 0 : Int))

/-!
## Signs
-/

theorem takeSign_cases
    {text digits : List Char} {negative : Bool} (hsign : takeSign text = (negative, digits)) :
    (negative = true ∧ text = '-' :: digits) ∨
      (negative = false ∧ (text = '+' :: digits ∨ text = digits)) := by
  unfold takeSign at hsign
  split at hsign
  · cases hsign
    exact Or.inl ⟨rfl, rfl⟩
  · cases hsign
    exact Or.inr ⟨rfl, Or.inl rfl⟩
  · cases hsign
    exact Or.inr ⟨rfl, Or.inr rfl⟩

theorem isSigned_iff
    {text digits : List Char} {negative : Bool} (hsign : takeSign text = (negative, digits))
    (number : Int) :
    IsSigned text number <->
      digits ≠ [] ∧ AllDigits digits ∧
        number = if negative then -(Nat.ofDigitChars 10 digits 0 : Int)
          else Nat.ofDigitChars 10 digits 0 := by
  constructor
  · intro hsigned
    cases hsigned with
    | unsigned hne hdigits =>
        rw [takeSign_of_allDigits hdigits] at hsign
        cases hsign
        exact ⟨hne, hdigits, rfl⟩
    | plus hne hdigits =>
        cases hsign
        exact ⟨hne, hdigits, rfl⟩
    | minus hne hdigits =>
        cases hsign
        exact ⟨hne, hdigits, rfl⟩
  · rintro ⟨hne, hdigits, rfl⟩
    rcases takeSign_cases hsign with ⟨rfl, rfl⟩ | ⟨rfl, rfl | rfl⟩
    · exact .minus hne hdigits
    · exact .plus hne hdigits
    · exact .unsigned hne hdigits

theorem isSigned_toString (number : Int) : IsSigned (toString number).toList number := by
  cases number with
  | ofNat size =>
      have hsigned := IsSigned.unsigned Nat.toDigits_ne_nil (allDigits_toDigits size)
      rw [Nat.ofDigitChars_ten_toDigits] at hsigned
      rw [toList_toString_ofNat]
      exact hsigned
  | negSucc size =>
      have hsigned := IsSigned.minus Nat.toDigits_ne_nil (allDigits_toDigits (size + 1))
      rw [Nat.ofDigitChars_ten_toDigits] at hsigned
      rw [toList_toString_negSucc]
      exact hsigned

theorem IsSigned.eq_of_mem
    {text : List Char} {number : Int} (hsigned : IsSigned text number)
    {character : Char} (hmem : character ∈ text) :
    character.isDigit = true ∨ character = '+' ∨ character = '-' := by
  cases hsigned with
  | unsigned _ hdigits => exact Or.inl (hdigits character hmem)
  | plus _ hdigits =>
      rcases List.mem_cons.mp hmem with hplus | hrest
      · exact Or.inr (Or.inl hplus)
      · exact Or.inl (hdigits character hrest)
  | minus _ hdigits =>
      rcases List.mem_cons.mp hmem with hminus | hrest
      · exact Or.inr (Or.inr hminus)
      · exact Or.inl (hdigits character hrest)

theorem IsSigned.ne_nil {text : List Char} {number : Int} (hsigned : IsSigned text number) :
    text ≠ [] := by
  cases hsigned with
  | unsigned hne _ => exact hne
  | plus _ _ => exact List.cons_ne_nil _ _
  | minus _ _ => exact List.cons_ne_nil _ _

namespace IntegerReading

/-!
## Digits
-/

theorem le_ofDigitChars (digits : List Char) (sofar : Nat) :
    sofar ≤ Nat.ofDigitChars 10 digits sofar := by
  induction digits generalizing sofar with
  | nil =>
      exact Nat.le_refl sofar
  | cons first rest ih =>
      rw [Nat.ofDigitChars_cons]
      have hrest := ih (10 * sofar + (first.toNat - '0'.toNat))
      omega

theorem readSize_of_le
    {limit : Nat} (overflow : IntegerFault) {digits : List Char} {sofar : Nat}
    (hdigits : AllDigits digits)
    (hlimit : Nat.ofDigitChars 10 digits sofar ≤ limit) :
    readSize limit overflow sofar digits = .ok (Nat.ofDigitChars 10 digits sofar) := by
  induction digits generalizing sofar with
  | nil =>
      rfl
  | cons first rest ih =>
      have hfirst := hdigits first List.mem_cons_self
      rw [Nat.ofDigitChars_cons] at hlimit ⊢
      have hnext := Nat.le_trans (le_ofDigitChars rest _) hlimit
      rw [readSize, if_neg (not_not_intro hfirst), if_pos hnext]
      apply ih
      · intro character hmem
        exact hdigits character (List.mem_cons_of_mem first hmem)
      · exact hlimit

theorem readSize_eq_ok_iff
    {limit sofar : Nat} (hsofar : sofar ≤ limit) (overflow : IntegerFault) (digits : List Char)
    (size : Nat) :
    readSize limit overflow sofar digits = .ok size <->
      AllDigits digits ∧ size = Nat.ofDigitChars 10 digits sofar ∧ size ≤ limit := by
  constructor
  · intro hread
    induction digits generalizing sofar with
    | nil =>
        cases hread
        exact ⟨fun _ hmem => absurd hmem List.not_mem_nil, rfl, hsofar⟩
    | cons first rest ih =>
        rw [readSize] at hread
        by_cases hfirst : first.isDigit = true
        · rw [if_neg (not_not_intro hfirst)] at hread
          by_cases hnext : 10 * sofar + (first.toNat - '0'.toNat) ≤ limit
          · rw [if_pos hnext] at hread
            rcases ih hnext hread with ⟨hrest, hsize, hlimit⟩
            exact ⟨List.forall_mem_cons.mpr ⟨hfirst, hrest⟩, hsize, hlimit⟩
          · rw [if_neg hnext] at hread
            cases hread
        · rw [if_pos hfirst] at hread
          cases hread
  · rintro ⟨hdigits, rfl, hlimit⟩
    exact readSize_of_le overflow hdigits hlimit

/-!
## Numbers
-/

theorem read_of_takeSign
    (width : Nat) {text : List Char} {negative : Bool} {digits : List Char}
    (hsign : takeSign text = (negative, digits)) (hdigits : digits ≠ []) :
    read width text =
      if negative then
        (readSize (2 ^ (width - 1)) .tooSmall 0 digits).map fun size => -(size : Int)
      else
        (readSize (2 ^ (width - 1) - 1) .tooLarge 0 digits).map Int.ofNat := by
  cases digits with
  | nil =>
      exact absurd rfl hdigits
  | cons first rest =>
      unfold read
      rw [hsign]
      cases negative <;> rfl

theorem read_of_no_digits
    (width : Nat) {text : List Char} {negative : Bool} (hsign : takeSign text = (negative, [])) :
    exists fault, read width text = .error fault := by
  unfold read
  rw [hsign]
  cases negative <;> exact ⟨_, rfl⟩

def sizeLimit (width : Nat) (negative : Bool) : Nat :=
  if negative then 2 ^ (width - 1) else 2 ^ (width - 1) - 1

theorem read_eq_ok_iff_of_takeSign
    (width : Nat) {text digits : List Char} {negative : Bool}
    (hsign : takeSign text = (negative, digits)) (hne : digits ≠ []) (number : Int) :
    read width text = .ok number <->
      AllDigits digits ∧ Nat.ofDigitChars 10 digits 0 ≤ sizeLimit width negative ∧
        number = if negative then -(Nat.ofDigitChars 10 digits 0 : Int)
          else Nat.ofDigitChars 10 digits 0 := by
  have hread : read width text = .ok number <->
      exists size,
        readSize (sizeLimit width negative) (if negative then .tooSmall else .tooLarge) 0 digits =
            .ok size ∧
          number = if negative then -(size : Int) else size := by
    rw [read_of_takeSign width hsign hne]
    cases negative with
    | true =>
        show (if true = true then _ else _) = _ <->
          exists size,
            readSize (2 ^ (width - 1)) .tooSmall 0 digits = .ok size ∧ number = -(size : Int)
        cases readSize (2 ^ (width - 1)) .tooSmall 0 digits with
        | error cause => simp [Except.map, bind, Except.bind]
        | ok size => simp [Except.map, bind, Except.bind, pure, Except.pure, eq_comm]
    | false =>
        show (if false = true then _ else _) = _ <->
          exists size,
            readSize (2 ^ (width - 1) - 1) .tooLarge 0 digits = .ok size ∧ number = size
        cases readSize (2 ^ (width - 1) - 1) .tooLarge 0 digits with
        | error cause => simp [Except.map]
        | ok size => simp [Except.map, eq_comm]
  rw [hread]
  simp only [readSize_eq_ok_iff (Nat.zero_le _)]
  constructor
  · rintro ⟨size, ⟨hdigits, rfl, hlimit⟩, hnumber⟩
    exact ⟨hdigits, hlimit, hnumber⟩
  · rintro ⟨hdigits, hlimit, hnumber⟩
    exact ⟨_, ⟨hdigits, rfl, hlimit⟩, hnumber⟩

theorem le_sizeLimit_iff (width : Nat) (negative : Bool) (size : Nat) :
    size ≤ sizeLimit width negative <->
      -((2 ^ (width - 1) : Nat) : Int) ≤ (if negative then -(size : Int) else size) ∧
        (if negative then -(size : Int) else size) < (2 ^ (width - 1) : Nat) := by
  have hpow : 0 < 2 ^ (width - 1) := Nat.two_pow_pos (width - 1)
  rw [sizeLimit]
  cases negative with
  | true =>
      rw [if_pos rfl, if_pos rfl]
      omega
  | false =>
      rw [if_neg Bool.false_ne_true, if_neg Bool.false_ne_true]
      omega

/-- A width reads the texts of signed digits whose number fits it, and no other texts. -/
theorem read_eq_ok_iff (width : Nat) (text : List Char) (number : Int) :
    read width text = .ok number <->
      IsSigned text number ∧
        -((2 ^ (width - 1) : Nat) : Int) ≤ number ∧ number < (2 ^ (width - 1) : Nat) := by
  rcases hsign : takeSign text with ⟨negative, digits⟩
  rw [isSigned_iff hsign]
  by_cases hne : digits = []
  · rw [hne] at hsign
    rcases read_of_no_digits width hsign with ⟨fault, hfault⟩
    rw [hfault]
    constructor
    · intro hok
      cases hok
    · rintro ⟨⟨hsome, _⟩, _⟩
      exact absurd hne hsome
  · rw [read_eq_ok_iff_of_takeSign width hsign hne, le_sizeLimit_iff]
    constructor
    · rintro ⟨hdigits, hlimit, rfl⟩
      exact ⟨⟨hne, hdigits, rfl⟩, hlimit⟩
    · rintro ⟨⟨_, hdigits, rfl⟩, hlimit⟩
      exact ⟨hdigits, hlimit, rfl⟩

end IntegerReading
end HostBridge
