import HostBridge.Number.IntegerReading

/-!
# The text of integers

The text of an integer is a minus, if it is negative, and the digits of its size.  A sign is taken
from in front of digits, and digits alone have none.
-/

namespace HostBridge

/-!
## Digits and signs
-/

def AllDigits (text : List Char) : Prop :=
  forall character, character ∈ text -> character.isDigit = true

theorem allDigits_toDigits (number : Nat) : AllDigits (Nat.toDigits 10 number) :=
  fun _ hmem => Nat.isDigit_of_mem_toDigits (by decide) (by decide) hmem

theorem allDigits_zeros (zeros : Nat) : AllDigits (List.replicate zeros '0') := by
  intro character hmem
  rw [(List.mem_replicate.mp hmem).2]
  rfl

theorem AllDigits.append
    {digits more : List Char} (hdigits : AllDigits digits) (hmore : AllDigits more) :
    AllDigits (digits ++ more) := by
  intro character hmem
  rcases List.mem_append.mp hmem with hleft | hright
  · exact hdigits character hleft
  · exact hmore character hright

theorem ne_of_isDigit
    {character other : Char} (hdigit : character.isDigit = true)
    (hother : other.isDigit = false) : character ≠ other := by
  intro heq
  rw [heq, hother] at hdigit
  contradiction

theorem takeSign_of_ne
    {first : Char} (hminus : first ≠ '-') (hplus : first ≠ '+') (rest : List Char) :
    takeSign (first :: rest) = (false, first :: rest) := by
  unfold takeSign
  split
  · rename_i heq
    exact absurd (List.cons.inj heq).1 hminus
  · rename_i heq
    exact absurd (List.cons.inj heq).1 hplus
  · rfl

theorem takeSign_minus (rest : List Char) : takeSign ('-' :: rest) = (true, rest) :=
  rfl

theorem takeSign_of_allDigits {digits : List Char} (hdigits : AllDigits digits) :
    takeSign digits = (false, digits) := by
  cases digits with
  | nil => rfl
  | cons first rest =>
      have hfirst := hdigits first List.mem_cons_self
      exact takeSign_of_ne (ne_of_isDigit hfirst rfl) (ne_of_isDigit hfirst rfl) rest

theorem takeSign_toDigits (number : Nat) :
    takeSign (Nat.toDigits 10 number) = (false, Nat.toDigits 10 number) :=
  takeSign_of_allDigits (allDigits_toDigits number)

theorem toList_toString_ofNat (size : Nat) :
    (toString (Int.ofNat size)).toList = Nat.toDigits 10 size :=
  Nat.toList_repr

theorem toList_toString_negSucc (size : Nat) :
    (toString (Int.negSucc size)).toList = '-' :: Nat.toDigits 10 (size + 1) := by
  show ("-" ++ (size + 1).repr).toList = '-' :: Nat.toDigits 10 (size + 1)
  rw [String.toList_append, Nat.toList_repr]
  rfl

theorem toList_toString_characters (number : Int) :
    forall character, character ∈ (toString number).toList ->
      character.isDigit = true ∨ character = '-' := by
  intro character hmem
  cases number with
  | ofNat size =>
      rw [toList_toString_ofNat] at hmem
      exact Or.inl (allDigits_toDigits size character hmem)
  | negSucc size =>
      rw [toList_toString_negSucc] at hmem
      rcases List.mem_cons.mp hmem with hminus | hdigit
      · exact Or.inr hminus
      · exact Or.inl (allDigits_toDigits (size + 1) character hdigit)

end HostBridge
