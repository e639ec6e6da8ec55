import HostBridge.Primitive.Arithmetic
import Mathlib.Data.Int.ModEq

/-!
# Whole numbers and their widths

Integers, characters and longs stand for whole numbers.  Two of them are promoted to the wider of their
widths, which both numbers fit.  A number that does not fit a width wraps to the one number of the width
that it is congruent to.
-/

namespace HostBridge

inductive Width where
  | integer
  | long
  deriving DecidableEq, Repr

inductive Whole where
  | integer (number : Int32)
  | character (unit : UInt16)
  | long (number : Int64)
  deriving DecidableEq, Repr

/-!
## Widths
-/

namespace Width

def half : Width → Nat
  | .integer => 2 ^ 31
  | .long => 2 ^ 63

def size (width : Width) : Nat :=
  2 * width.half

def lowest (width : Width) : Int :=
  -width.half

def Fits (width : Width) (number : Int) : Prop :=
  width.lowest ≤ number ∧ number < width.half

/-- The number of a width that stands in for an exact one. -/
structure Wraps (width : Width) (exact number : Int) : Prop where
  fits : width.Fits number
  modEq : number ≡ exact [ZMOD width.size]

def join (first second : Width) : Width :=
  if first = .long ∨ second = .long then .long else .integer

def ofInt : Width → Int → Whole
  | .integer, number => .integer (Int32.ofInt number)
  | .long, number => .long (Int64.ofInt number)

def operands : Width → Int → Int → Arithmetic.Operands
  | .integer, left, right => .integers (Int32.ofInt left) (Int32.ofInt right)
  | .long, left, right => .longs (Int64.ofInt left) (Int64.ofInt right)

theorem half_pos (width : Width) : 0 < width.half := by
  cases width <;> decide

theorem join_comm (first second : Width) : first.join second = second.join first := by
  cases first <;> cases second <;> rfl

theorem join_assoc (first second third : Width) :
    (first.join second).join third = first.join (second.join third) := by
  cases first <;> cases second <;> cases third <;> rfl

theorem join_self (width : Width) : width.join width = width := by
  cases width <;> rfl

theorem integer_join (width : Width) : Width.integer.join width = width := by
  cases width <;> rfl

/-!
## Wrapping
-/

theorem bmod_eq_of_fits {width : Width} {number : Int} (hfits : width.Fits number) :
    number.bmod width.size = number := by
  rcases hfits with ⟨hlow, hhigh⟩
  rw [lowest] at hlow
  apply Int.bmod_eq_of_le_mul_two <;> rw [size] <;> omega

theorem fits_bmod (width : Width) (number : Int) : width.Fits (number.bmod width.size) := by
  have hpos : 0 < width.size := Nat.mul_pos (by decide) width.half_pos
  have hlow := Int.le_bmod (x := number) hpos
  have hhigh := Int.bmod_lt (x := number) hpos
  rw [size] at hlow hhigh ⊢
  rw [Fits, lowest]
  omega

theorem fits_zero (width : Width) : width.Fits 0 := by
  have hpos := width.half_pos
  rw [Fits, lowest]
  omega

theorem modEq_iff_bmod_eq (width : Width) (number other : Int) :
    number ≡ other [ZMOD width.size] <-> number.bmod width.size = other.bmod width.size := by
  rw [Int.modEq_comm, Int.modEq_iff_dvd, Int.dvd_iff_bmod_eq_zero,
    Int.bmod_eq_bmod_iff_bmod_sub_eq_zero]

theorem wraps_bmod (width : Width) (number : Int) :
    width.Wraps number (number.bmod width.size) :=
  ⟨width.fits_bmod number, (width.modEq_iff_bmod_eq _ _).mpr Int.bmod_bmod⟩

theorem Wraps.eq_bmod {width : Width} {exact number : Int} (hwraps : width.Wraps exact number) :
    number = exact.bmod width.size := by
  rw [← (width.modEq_iff_bmod_eq number exact).mp hwraps.modEq, bmod_eq_of_fits hwraps.fits]

theorem Wraps.unique
    {width : Width} {exact number other : Int}
    (hnumber : width.Wraps exact number) (hother : width.Wraps exact other) : number = other := by
  rw [hnumber.eq_bmod, hother.eq_bmod]

theorem ofInt_eq_ofInt_iff (width : Width) (number other : Int) :
    width.ofInt number = width.ofInt other <-> number ≡ other [ZMOD width.size] := by
  rw [modEq_iff_bmod_eq]
  cases width with
  | integer =>
      rw [ofInt, ofInt, Whole.integer.injEq, ← Int32.toInt_inj, Int32.toInt_ofInt, Int32.toInt_ofInt]
      rfl
  | long =>
      rw [ofInt, ofInt, Whole.long.injEq, ← Int64.toInt_inj, Int64.toInt_ofInt, Int64.toInt_ofInt]
      rfl

theorem Wraps.ofInt_eq {width : Width} {exact number : Int} (hwraps : width.Wraps exact number) :
    width.ofInt number = width.ofInt exact :=
  (width.ofInt_eq_ofInt_iff number exact).mpr hwraps.modEq

end Width

/-!
## Whole numbers as values
-/

namespace Whole

def datum : Whole → Datum
  | .integer number => .integer number
  | .character unit => .character unit
  | .long number => .long number

def value (whole : Whole) : Value :=
  .boxed whole.datum

def number : Whole → Int
  | .integer number => number.toInt
  | .character unit => unit.toNat
  | .long number => number.toInt

/-- Characters count as integers. -/
def width : Whole → Width
  | .integer _ => .integer
  | .character _ => .integer
  | .long _ => .long

def jointWidth (left right : Whole) : Width :=
  left.width.join right.width

theorem value_inj {left right : Whole} : left.value = right.value <-> left = right := by
  cases left <;> cases right <;> simp [value, datum]

theorem whole?_eq_some_iff (datum : Datum) (number : Int) :
    datum.whole? = some number <-> exists whole : Whole, whole.datum = datum ∧ whole.number = number := by
  constructor
  · intro hwhole
    cases datum with
    | integer word => exact ⟨.integer word, rfl, Option.some.inj hwhole⟩
    | character unit => exact ⟨.character unit, rfl, Option.some.inj hwhole⟩
    | long word => exact ⟨.long word, rfl, Option.some.inj hwhole⟩
    | single word => cases hwhole
    | double word => cases hwhole
  · rintro ⟨whole, rfl, rfl⟩
    cases whole <;> rfl

theorem width_ofInt (width : Width) (number : Int) : (width.ofInt number).width = width := by
  cases width <;> rfl

theorem jointWidth_ofInt_left (width : Width) (number : Int) (right : Whole) :
    jointWidth (width.ofInt number) right = width.join right.width := by
  rw [jointWidth, width_ofInt]

theorem jointWidth_ofInt_right (left : Whole) (width : Width) (number : Int) :
    jointWidth left (width.ofInt number) = left.width.join width := by
  rw [jointWidth, width_ofInt]

theorem number_ofInt (width : Width) (number : Int) :
    (width.ofInt number).number = number.bmod width.size := by
  cases width with
  | integer => exact Int32.toInt_ofInt
  | long => exact Int64.toInt_ofInt

theorem number_ofInt_of_fits {width : Width} {number : Int} (hfits : width.Fits number) :
    (width.ofInt number).number = number := by
  rw [number_ofInt, Width.bmod_eq_of_fits hfits]

theorem number_ofInt_modEq (width : Width) (number : Int) :
    (width.ofInt number).number ≡ number [ZMOD width.size] := by
  rw [number_ofInt]
  exact (width.wraps_bmod number).modEq

theorem fits_number (whole : Whole) : whole.width.Fits whole.number := by
  cases whole with
  | integer word => exact ⟨Int32.le_toInt word, Int32.toInt_lt word⟩
  | character unit =>
      have hunit := UInt16.toNat_lt unit
      show -((2 ^ 31 : Nat) : Int) ≤ (unit.toNat : Int) ∧ (unit.toNat : Int) < (2 ^ 31 : Nat)
      omega
  | long word => exact ⟨Int64.le_toInt word, Int64.toInt_lt word⟩

theorem fits_join {number : Int} {first : Width} (hfits : first.Fits number) (second : Width) :
    (first.join second).Fits number := by
  have hwider : first.half ≤ (first.join second).half := by
    cases first <;> cases second <;> decide
  rcases hfits with ⟨hlow, hhigh⟩
  rw [Width.lowest] at hlow
  rw [Width.Fits, Width.lowest]
  omega

theorem fits_left (left right : Whole) : (jointWidth left right).Fits left.number :=
  fits_join left.fits_number right.width

theorem fits_right (left right : Whole) : (jointWidth left right).Fits right.number := by
  rw [jointWidth, Width.join_comm]
  exact fits_join right.fits_number left.width

theorem promote_value (left right : Whole) :
    Arithmetic.promote left.value right.value =
      .ok ((jointWidth left right).operands left.number right.number) := by
  cases left <;> cases right <;> rfl

/-!
## Words of numbers that fit
-/

theorem toInt_int32_ofInt {number : Int} (hfits : Width.integer.Fits number) :
    (Int32.ofInt number).toInt = number :=
  number_ofInt_of_fits hfits

theorem toInt_int64_ofInt {number : Int} (hfits : Width.long.Fits number) :
    (Int64.ofInt number).toInt = number :=
  number_ofInt_of_fits hfits

theorem int32_ofInt_lt_iff
    {left right : Int} (hleft : Width.integer.Fits left) (hright : Width.integer.Fits right) :
    Int32.ofInt left < Int32.ofInt right <-> left < right := by
  rw [Int32.lt_iff_toInt_lt, toInt_int32_ofInt hleft, toInt_int32_ofInt hright]

theorem int64_ofInt_lt_iff
    {left right : Int} (hleft : Width.long.Fits left) (hright : Width.long.Fits right) :
    Int64.ofInt left < Int64.ofInt right <-> left < right := by
  rw [Int64.lt_iff_toInt_lt, toInt_int64_ofInt hleft, toInt_int64_ofInt hright]

theorem int32_ofInt_inj
    {left right : Int} (hleft : Width.integer.Fits left) (hright : Width.integer.Fits right) :
    Int32.ofInt left = Int32.ofInt right <-> left = right := by
  rw [← Int32.toInt_inj, toInt_int32_ofInt hleft, toInt_int32_ofInt hright]

theorem int64_ofInt_inj
    {left right : Int} (hleft : Width.long.Fits left) (hright : Width.long.Fits right) :
    Int64.ofInt left = Int64.ofInt right <-> left = right := by
  rw [← Int64.toInt_inj, toInt_int64_ofInt hleft, toInt_int64_ofInt hright]

end Whole
end HostBridge
