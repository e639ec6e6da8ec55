import HostBridge.Number.Decimal

/-!
# Binary floating formats

A finite magnitude of a format is a natural number of its smallest unit.  Rounding takes a quotient
to the nearest magnitude, a half to the even one, and what is too large to infinity.  The magnitudes
are numbered in ascending order, so that the word of a magnitude is its number.
-/

namespace HostBridge

/-- A word of `width` bits whose significand has `precision` bits, and in which one is
`2 ^ scale` smallest units. -/
structure BinaryFormat where
  width : Nat
  precision : Nat
  scale : Nat
  deriving DecidableEq, Repr

namespace BinaryFormat

def single : BinaryFormat := ⟨32, 24, 149⟩

def double : BinaryFormat := ⟨64, 53, 1074⟩

/-!
## Words
-/

/-- The word of negative zero: what a sign adds to the word of a magnitude. -/
def sign (format : BinaryFormat) : Nat :=
  2 ^ (format.width - 1)

/-- How many magnitudes there are between two powers of two. -/
def stride (format : BinaryFormat) : Nat :=
  2 ^ (format.precision - 1)

def infinity (format : BinaryFormat) : Nat :=
  format.sign - format.stride

def quietNaN (format : BinaryFormat) : Nat :=
  format.infinity + format.stride / 2

def units (format : BinaryFormat) (magnitude : Nat) : Nat :=
  if magnitude < format.stride then magnitude
  else (magnitude % format.stride + format.stride) * 2 ^ (magnitude / format.stride - 1)

/-!
## Rounding
-/

/-- The natural number nearest to a quotient; of two, the even one. -/
def nearest (numerator denominator : Nat) : Nat :=
  let quotient := numerator / denominator
  let doubled := 2 * (numerator % denominator)
  if doubled < denominator then quotient
  else if denominator < doubled then quotient + 1
  else quotient + quotient % 2

/-- The magnitude nearest to a quotient.  Beyond the significand's bits each step drops one bit,
and dropping one moves the magnitudes' numbers on by one stride. -/
def round (format : BinaryFormat) (numerator denominator : Nat) : Nat :=
  let scaled := numerator * 2 ^ format.scale
  let dropped := (scaled / denominator).log2 + 1 - format.precision
  min format.infinity
    (dropped * format.stride + nearest scaled (denominator * 2 ^ dropped))

/-- The magnitude nearest to a decimal.  Leads beyond four hundred are outside every format, so
that no power of ten is formed for them. -/
def ofDecimal (format : BinaryFormat) (decimal : Decimal) : Nat :=
  if decimal.digits = 0 ∨ decimal.lead < -400 then 0
  else if 400 < decimal.lead then format.infinity
  else format.round (decimal.digits * 10 ^ decimal.exponent.toNat)
    (10 ^ (-decimal.exponent).toNat)

end BinaryFormat
end HostBridge
