import HostBridge.Value.Unboxing

/-!
# Conversions of values

Seven types are read from values and made into values.  Reading undoes making.  Characters, integers and
longs form a chain along which more values are read and the same number is read from each, and truth
values are read where integers are.  Every refusal names the type that was wanted and the value's own.
Making undoes reading exactly where the value has the tag of the type already.
-/

namespace HostBridge

inductive Target where
  | integer
  | truth
  | character
  | long
  | single
  | double
  | text
  deriving DecidableEq, Repr

namespace Target

def Content : Target → Type
  | .integer => Int32
  | .truth => Bool
  | .character => UInt16
  | .long => Int64
  | .single => Single
  | .double => Double
  | .text => String

def name : Target → String
  | .integer => "int"
  | .truth => "bool"
  | .character => "char"
  | .long => "long"
  | .single => "f32"
  | .double => "f64"
  | .text => "string"

def read : (target : Target) → Value → Except Failure target.Content
  | .integer => Unboxing.integer
  | .truth => Unboxing.truth
  | .character => Unboxing.character
  | .long => Unboxing.long
  | .single => Unboxing.single
  | .double => Unboxing.double
  | .text => Unboxing.text

def make : (target : Target) → target.Content → Value
  | .integer => Value.integer
  | .truth => Value.ofBool
  | .character => Value.character
  | .long => Value.long
  | .single => Value.single
  | .double => Value.double
  | .text => Value.text

end Target

/-!
## Readers through a view
-/

namespace Unboxing

variable {target : Type} {wanted : String} {view : Datum → Option target}

theorem accept_boxed (datum : Datum) :
    accept wanted (.boxed datum) view =
      match view datum with
      | some result => .ok result
      | none => .error (.typeMismatch wanted datum.typeName) :=
  rfl

theorem accept_eq_ok_iff (value : Value) (result : target) :
    accept wanted value view = .ok result <->
      exists datum, value = .boxed datum ∧ view datum = some result := by
  cases value with
  | boxed datum =>
      rw [accept_boxed]
      cases hview : view datum with
      | none => simp [hview]
      | some other => simp [hview]
  | _ =>
      constructor
      · intro haccept
        cases haccept
      · intro hboxed
        rcases hboxed with ⟨datum, hvalue, _⟩
        cases hvalue

theorem eq_mismatch_of_accept
    {value : Value} {failure : Failure} (haccept : accept wanted value view = .error failure) :
    failure = .typeMismatch wanted value.typeName := by
  rw [accept] at haccept
  split at haccept
  · cases haccept
  · injection haccept with hfailure
    exact hfailure.symm

end Unboxing

namespace Target

open Unboxing

theorem read_make (target : Target) (content : target.Content) :
    target.read (target.make content) = .ok content := by
  cases target with
  | truth => cases content <;> rfl
  | long => exact congrArg Except.ok (Int64.ofInt_toInt content)
  | _ => rfl

theorem eq_mismatch_of_read
    {target : Target} {value : Value} {failure : Failure}
    (hread : target.read value = .error failure) :
    failure = .typeMismatch target.name value.typeName := by
  cases target with
  | text =>
      cases value with
      | text content => cases hread
      | _ =>
          injection hread with hfailure
          exact hfailure.symm
  | _ => exact eq_mismatch_of_accept hread

/-!
## Tags
-/

theorem name_injective : Function.Injective name := by
  intro left right heq
  cases left <;> cases right <;> first | rfl | (simp [name] at heq)

theorem typeName_make
    {target : Target} (htruth : target ≠ .truth) (content : target.Content) :
    (target.make content).typeName = target.name := by
  cases target with
  | truth => exact absurd rfl htruth
  | _ => rfl

theorem exists_make_eq
    {target : Target} {value : Value} (htag : value.typeName = target.name) :
    exists content, target.make content = value := by
  cases value with
  | null => cases target <;> exact absurd htag (by decide)
  | text content =>
      cases name_injective (show name .text = target.name from htag)
      exact ⟨content, rfl⟩
  | boxed datum =>
      cases datum with
      | integer number =>
          cases name_injective (show name .integer = target.name from htag)
          exact ⟨number, rfl⟩
      | character unit =>
          cases name_injective (show name .character = target.name from htag)
          exact ⟨unit, rfl⟩
      | long number =>
          cases name_injective (show name .long = target.name from htag)
          exact ⟨number, rfl⟩
      | single number =>
          cases name_injective (show name .single = target.name from htag)
          exact ⟨number, rfl⟩
      | double number =>
          cases name_injective (show name .double = target.name from htag)
          exact ⟨number, rfl⟩

theorem make_eq_iff_of_read
    {target : Target} (htruth : target ≠ .truth) {value : Value} {content : target.Content}
    (hread : target.read value = .ok content) :
    target.make content = value <-> value.typeName = target.name := by
  constructor
  · intro heq
    rw [← heq]
    exact typeName_make htruth content
  · intro htag
    rcases exists_make_eq htag with ⟨made, rfl⟩
    rw [read_make, Except.ok.injEq] at hread
    rw [hread]

end Target

/-!
## The chain of whole numbers
-/

namespace Datum

theorem toInt_ofNat_unit (unit : UInt16) : (Int32.ofNat unit.toNat).toInt = unit.toNat :=
  Int32.toInt_ofNat_of_lt (Nat.lt_trans unit.toNat_lt (by decide))

theorem whole?_of_asInteger?
    {datum : Datum} {number : Int32} (hview : datum.asInteger? = some number) :
    datum.whole? = some number.toInt := by
  cases datum with
  | integer word =>
      rw [← Option.some.inj hview]
      rfl
  | character unit =>
      rw [← Option.some.inj hview, toInt_ofNat_unit]
      rfl
  | _ => cases hview

end Datum

namespace Unboxing

theorem exists_integer_of_character
    {value : Value} {unit : UInt16} (hread : character value = .ok unit) :
    exists number, integer value = .ok number ∧ number.toInt = unit.toNat := by
  rcases (accept_eq_ok_iff value unit).mp hread with ⟨datum, rfl, hview⟩
  cases datum with
  | character code =>
      cases hview
      exact ⟨Int32.ofNat unit.toNat, rfl, Datum.toInt_ofNat_unit unit⟩
  | _ => cases hview

theorem exists_long_of_integer
    {value : Value} {number : Int32} (hread : integer value = .ok number) :
    exists wide, long value = .ok wide ∧ wide.toInt = number.toInt := by
  rcases (accept_eq_ok_iff value number).mp hread with ⟨datum, rfl, hview⟩
  refine ⟨number.toInt64, (accept_eq_ok_iff _ _).mpr ⟨datum, rfl, ?_⟩, number.toInt_toInt64⟩
  rw [Datum.whole?_of_asInteger? hview, Option.map_some, Int64.ofInt_int32ToInt]

theorem truth_of_integer
    {value : Value} {number : Int32} (hread : integer value = .ok number) :
    truth value = .ok (number.toInt ≠ 0) := by
  rcases (accept_eq_ok_iff value number).mp hread with ⟨datum, rfl, hview⟩
  rw [truth, accept_boxed, hview]
  show Except.ok (decide (number ≠ 0)) = _
  simp only [Ne, ← Int32.toInt_inj, Int32.toInt_zero]

theorem exists_truth_iff (value : Value) :
    (exists content, truth value = .ok content) <-> exists number, integer value = .ok number := by
  constructor
  · intro htruth
    rcases htruth with ⟨content, hread⟩
    rcases (accept_eq_ok_iff value content).mp hread with ⟨datum, rfl, hview⟩
    rcases Option.map_eq_some_iff.mp hview with ⟨number, hnumber, _⟩
    exact ⟨number, (accept_eq_ok_iff _ number).mpr ⟨datum, rfl, hnumber⟩⟩
  · intro hinteger
    rcases hinteger with ⟨number, hread⟩
    exact ⟨_, truth_of_integer hread⟩

end Unboxing

/-!
## The laws together
-/

namespace Target

structure Coherent (value : Value) : Prop where
  mismatch : forall (target : Target) (failure : Failure),
    target.read value = .error failure -> failure = .typeMismatch target.name value.typeName
  integer_of_character : forall unit : UInt16,
    read .character value = .ok unit ->
      exists number : Int32, read .integer value = .ok number ∧ number.toInt = unit.toNat
  long_of_integer : forall number : Int32,
    read .integer value = .ok number ->
      exists wide : Int64, read .long value = .ok wide ∧ wide.toInt = number.toInt
  truth_of_integer : forall number : Int32,
    read .integer value = .ok number -> read .truth value = .ok (number.toInt ≠ 0 : Bool)
  truth_iff_integer :
    (exists content, read .truth value = .ok content) <->
      exists content, read .integer value = .ok content
  make_eq_iff : forall (target : Target) (content : target.Content),
    target ≠ .truth -> target.read value = .ok content ->
      (target.make content = value <-> value.typeName = target.name)

/-- What is made from a type is read back as it.  Every value's readings agree: a character is read as
the integer of the same number, an integer as the same long and as the truth value that it stands for,
and truth values are read exactly where integers are.  A refusal names the type and the value's own.
What was read makes the value again exactly if that has the tag of the type, truth values apart, which
have no tag of their own. -/
theorem conversions_coherent :
    (forall (target : Target) (content : target.Content),
        target.read (target.make content) = .ok content) ∧
      forall value : Value, Coherent value := by
  refine ⟨read_make, ?_⟩
  intro value
  exact {
    mismatch := fun target failure => eq_mismatch_of_read
    integer_of_character := fun unit => Unboxing.exists_integer_of_character
    long_of_integer := fun number => Unboxing.exists_long_of_integer
    truth_of_integer := fun number => Unboxing.truth_of_integer
    truth_iff_integer := Unboxing.exists_truth_iff value
    make_eq_iff := fun target content htruth => make_eq_iff_of_read htruth }

end Target
end HostBridge
