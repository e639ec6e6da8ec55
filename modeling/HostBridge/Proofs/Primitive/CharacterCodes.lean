import HostBridge.Proofs.Primitive.NumberOrder
import HostBridge.Proofs.Primitive.Panics
import HostBridge.Proofs.Value.Conversions

/-!
# Codes of characters

A code is a whole number.  The checked conversion makes the character of a code below 65536 and refuses
every other code; the truncating one keeps the low half of an integer, whatever it is.  They agree
exactly on the codes that the checked one accepts, and there neither loses anything.
-/

namespace HostBridge

def IsCode (number : Int) : Prop :=
  0 ≤ number ∧ number < 65536

theorem isCode_toNat (unit : UInt16) : IsCode unit.toNat := by
  have hunit := UInt16.toNat_lt unit
  rw [IsCode]
  omega

theorem emod_eq_self_iff (number : Int) : number % 65536 = number <-> IsCode number := by
  rw [IsCode]
  omega

theorem characterUnit_eq_ok_iff (code : Int) (unit : UInt16) :
    characterUnit code = .ok unit <-> (unit.toNat : Int) = code := by
  constructor
  · intro hunit
    rw [characterUnit] at hunit
    split at hunit
    · rename_i hcode
      injection hunit with hunit
      have hsmall : code.toNat < 65536 := by omega
      rw [← hunit, UInt16.toNat_ofNat', Nat.mod_eq_of_lt hsmall, Int.toNat_of_nonneg hcode.1]
    · cases hunit
  · intro hunit
    rw [← hunit]
    refine (if_pos (isCode_toNat unit)).trans ?_
    rw [Int.toNat_natCast, UInt16.ofNat_toNat]

theorem characterUnit_eq_error_iff (code : Int) (failure : Failure) :
    characterUnit code = .error failure <->
      ¬IsCode code ∧ failure = .outOfRange "character code" code := by
  rw [characterUnit, IsCode]
  split
  · rename_i hcode
    simp only [hcode, and_self, not_true_eq_false, false_and, reduceCtorEq]
  · rename_i hcode
    simp only [hcode, not_false_eq_true, true_and, Except.error.injEq, eq_comm]

theorem exists_characterUnit_iff (code : Int) :
    (exists unit, characterUnit code = .ok unit) <-> IsCode code := by
  constructor
  · intro hunit
    rcases hunit with ⟨unit, hunit⟩
    rw [← (characterUnit_eq_ok_iff code unit).mp hunit]
    exact isCode_toNat unit
  · intro hcode
    cases hunit : characterUnit code with
    | ok unit => exact ⟨unit, rfl⟩
    | error failure => exact absurd hcode ((characterUnit_eq_error_iff code failure).mp hunit).1

/-!
## Mapped results

Both ways to a character, as a value and as a handle, map what is made from the code.
-/

section Mapped

variable {made given : Type} (result : Except Failure made) (next : made → given)

theorem mapped_eq_ok_iff (other : given) :
    result.map next = .ok other <-> exists content, result = .ok content ∧ next content = other := by
  cases result <;> simp [Except.map]

theorem mapped_eq_error_iff (failure : Failure) :
    result.map next = .error failure <-> result = .error failure := by
  cases result <;> simp [Except.map]

theorem exists_mapped_eq_ok_iff :
    (exists other, result.map next = .ok other) <-> exists content, result = .ok content := by
  cases result <;> simp [Except.map]

end Mapped

/-!
## Primitives
-/

namespace Characters

theorem fromCharCode_value (code : Whole) :
    fromCharCode code.value = (characterUnit code.number).map Value.character := by
  have hrun : fromCharCode code.value = _ := Primitive.run_fromCharCode code
  rw [hrun, characterUnit]
  split <;> rfl

theorem fromCharCode_eq_ok_iff (code : Whole) (result : Value) :
    fromCharCode code.value = .ok result <->
      exists unit : UInt16, (unit.toNat : Int) = code.number ∧ (Whole.character unit).value = result := by
  rw [fromCharCode_value, mapped_eq_ok_iff]
  simp only [characterUnit_eq_ok_iff]
  rfl

theorem exists_fromCharCode_iff (code : Whole) :
    (exists result, fromCharCode code.value = .ok result) <-> IsCode code.number := by
  rw [fromCharCode_value, exists_mapped_eq_ok_iff, exists_characterUnit_iff]

theorem charCode_character (unit : UInt16) :
    exists number : Int32,
      charCode (.character unit) = .ok (Whole.integer number).value ∧ number.toInt = unit.toNat :=
  ⟨Int32.ofNat unit.toNat, rfl, Datum.toInt_ofNat_unit unit⟩

theorem toLong_character (unit : UInt16) :
    exists number : Int64,
      toLong (.character unit) = .ok (Whole.long number).value ∧ number.toInt = unit.toNat :=
  ⟨_, rfl, Whole.toInt_int64_ofInt (Whole.fits_right (.long 0) (.character unit))⟩

theorem fromCharCode_of_number
    {code : Whole} {unit : UInt16} (hcode : code.number = unit.toNat) :
    fromCharCode code.value = .ok (.character unit) :=
  (fromCharCode_eq_ok_iff code _).mpr ⟨unit, hcode.symm, rfl⟩

theorem fromCharCode_charCode (unit : UInt16) :
    (do fromCharCode (← charCode (.character unit))) = .ok (.character unit) := by
  rcases charCode_character unit with ⟨number, hnumber, hcode⟩
  rw [hnumber]
  exact fromCharCode_of_number (show (Whole.integer number).number = _ from hcode)

theorem fromCharCode_toLong (unit : UInt16) :
    (do fromCharCode (← toLong (.character unit))) = .ok (.character unit) := by
  rcases toLong_character unit with ⟨number, hnumber, hcode⟩
  rw [hnumber]
  exact fromCharCode_of_number (show (Whole.long number).number = _ from hcode)

end Characters

/-!
## Boxing by code
-/

namespace Pool

/-- The code is accepted, and the handle holds the character. -/
def Makes (pool : Pool) (code : Int64) (unit : UInt16) : Prop :=
  exists handle grown,
    pool.boxCharacterCode code = .ok (handle, grown) ∧ handle.datum = .character unit

theorem makes_iff (pool : Pool) (code : Int64) (unit : UInt16) :
    pool.Makes code unit <-> (unit.toNat : Int) = code.toInt := by
  rw [← characterUnit_eq_ok_iff]
  constructor
  · intro hmakes
    rcases hmakes with ⟨handle, grown, hbox, hhandle⟩
    rcases (mapped_eq_ok_iff _ _ _).mp hbox with ⟨made, hmade, hgiven⟩
    have hdatum := datum_boxCharacter made pool
    rw [show pool.boxCharacter made = _ from hgiven, hhandle, Datum.character.injEq] at hdatum
    rw [hmade, hdatum]
  · intro hunit
    refine ⟨_, _, (mapped_eq_ok_iff _ _ _).mpr ⟨unit, hunit, rfl⟩, datum_boxCharacter unit pool⟩

theorem boxCharacterCode_eq_error_iff (pool : Pool) (code : Int64) (failure : Failure) :
    pool.boxCharacterCode code = .error failure <->
      ¬IsCode code.toInt ∧ failure = .outOfRange "character code" code.toInt := by
  rw [boxCharacterCode, mapped_eq_error_iff, characterUnit_eq_error_iff]

theorem exists_boxCharacterCode_iff (pool : Pool) (code : Int64) :
    (exists given, pool.boxCharacterCode code = .ok given) <-> IsCode code.toInt := by
  simp only [boxCharacterCode, exists_mapped_eq_ok_iff, exists_characterUnit_iff]

end Pool

/-!
## Truncation
-/

namespace Datum

/-- The low half of an integer is its remainder, also below zero. -/
theorem exists_asCharacter?_integer (number : Int32) :
    exists unit : UInt16,
      (Datum.integer number).asCharacter? = some unit ∧ (unit.toNat : Int) = number.toInt % 65536 := by
  refine ⟨_, rfl, ?_⟩
  have hnumber : number.toInt = (number.toBitVec.toNat : Int).bmod (2 ^ 32) :=
    BitVec.toInt_eq_toNat_bmod number.toBitVec
  have hdivides : (65536 : Int) ∣ ((2 ^ 32 : Nat) : Int) := by decide
  calc ((UInt16.ofNat number.toBitVec.toNat).toNat : Int)
      = (number.toBitVec.toNat : Int) % 65536 := by
        rw [UInt16.toNat_ofNat', Int.natCast_mod]
        rfl
    _ = number.toInt % ((2 ^ 32 : Nat) : Int) % 65536 := by
        rw [hnumber, Int.bmod_emod, Int.emod_emod_of_dvd _ hdivides]
    _ = number.toInt % 65536 := Int.emod_emod_of_dvd _ hdivides

theorem asInteger?_character_eq_some_iff (unit : UInt16) (number : Int32) :
    (Datum.character unit).asInteger? = some number <-> (unit.toNat : Int) = number.toInt := by
  rw [← toInt_ofNat_unit, Int32.toInt_inj]
  exact ⟨Option.some.inj, congrArg some⟩

/-- One below zero and one above the last code. -/
example :
    (Datum.integer (-1)).asCharacter? = some 65535 ∧
      (Datum.integer 65536).asCharacter? = some 0 := by
  decide

end Datum

/-!
## The laws together
-/

namespace Characters

structure CodeLaws (code : Whole) (unit : UInt16) (number : Int32) (pool : Pool) : Prop where
  accepted_iff :
    (exists result, fromCharCode code.value = .ok result) <-> 0 ≤ code.number ∧ code.number < 65536
  code_of_result : forall result,
    fromCharCode code.value = .ok result ->
      (exists back : Int32, charCode result = .ok (.integer back) ∧ back.toInt = code.number) ∧
        Arithmetic.eq code.value result = .ok (.ofBool true)
  back_from_code : (do fromCharCode (← charCode (.character unit))) = .ok (.character unit)
  back_from_long : (do fromCharCode (← toLong (.character unit))) = .ok (.character unit)
  makes_iff : forall wide : Int64, pool.Makes wide unit <-> (unit.toNat : Int) = wide.toInt
  refuses_iff : forall (wide : Int64) (failure : Failure),
    pool.boxCharacterCode wide = .error failure <->
      ¬(0 ≤ wide.toInt ∧ wide.toInt < 65536) ∧ failure = .outOfRange "character code" wide.toInt
  truncation : exists low : UInt16,
    (Datum.integer number).asCharacter? = some low ∧ (low.toNat : Int) = number.toInt % 65536 ∧
      (pool.Makes number.toInt64 low <-> exists given, pool.boxCharacterCode number.toInt64 = .ok given) ∧
      ((Datum.character low).asInteger? = some number <-> 0 ≤ number.toInt ∧ number.toInt < 65536)

/-- Characters are made from the codes below 65536 and give them back, as integers and as numbers equal
to them; boxing by code makes the character of that very code or refuses.  The truncated integer is the
remainder, which is the boxed character exactly if the integer is accepted, and shows the integer again
exactly if it is a code. -/
theorem codes_agree (code : Whole) (unit : UInt16) (number : Int32) (pool : Pool) :
    CodeLaws code unit number pool where
  accepted_iff := exists_fromCharCode_iff code
  code_of_result := by
    intro result hresult
    rcases (fromCharCode_eq_ok_iff code result).mp hresult with ⟨made, hmade, rfl⟩
    rcases charCode_character made with ⟨back, hback, hcode⟩
    refine ⟨⟨back, hback, hcode.trans hmade⟩, ?_⟩
    rw [Whole.eq_eq, Whole.number, hmade, decide_eq_true rfl]
  back_from_code := fromCharCode_charCode unit
  back_from_long := fromCharCode_toLong unit
  makes_iff := fun wide => pool.makes_iff wide unit
  refuses_iff := pool.boxCharacterCode_eq_error_iff
  truncation := by
    rcases Datum.exists_asCharacter?_integer number with ⟨low, hlow, hremainder⟩
    refine ⟨low, hlow, hremainder, ?_, ?_⟩
    · rw [Pool.makes_iff, Pool.exists_boxCharacterCode_iff, Int32.toInt_toInt64, hremainder,
        emod_eq_self_iff]
    · rw [Datum.asInteger?_character_eq_some_iff, hremainder, emod_eq_self_iff]
      rfl

end Characters
end HostBridge
