import HostBridge.Failure
import HostBridge.Value.Datum

/-!
# Handles and the pool of shared data

Boxing a datum gives a handle: a place that holds the datum.  Small integers and characters have one
place each, made beforehand; every other boxing takes a new place.  Handles are equal when their
data are, wherever they are.
-/

namespace HostBridge

inductive Place where
  | integerSlot (slot : Nat)
  | characterSlot (slot : Nat)
  | fresh (serial : Nat)
  deriving DecidableEq, Repr

structure Handle where
  place : Place
  datum : Datum
  deriving Repr

namespace Handle

def isSame (left right : Handle) : Bool :=
  left.place = right.place

instance : BEq Handle := ⟨fun left right => left.datum == right.datum⟩

instance : Hashable Handle := ⟨fun handle => hash handle.datum⟩

end Handle

/-- The places handed out so far beside the shared ones. -/
structure Pool where
  allocated : Nat := 0
  deriving DecidableEq, Repr

namespace Pool

def lowestInteger : Int := -128

/-- One shared handle for each integer from -128 to 255. -/
def integers : Vector Handle 384 :=
  Vector.ofFn fun slot =>
    ⟨.integerSlot slot, .integer (Int32.ofInt (lowestInteger + slot.val))⟩

/-- One shared handle for each character code below 256. -/
def characters : Vector Handle 256 :=
  Vector.ofFn fun slot => ⟨.characterSlot slot, .character (UInt16.ofNat slot.val)⟩

def allocate (datum : Datum) (pool : Pool) : Handle × Pool :=
  (⟨.fresh pool.allocated, datum⟩, ⟨pool.allocated + 1⟩)

def boxInteger (number : Int32) (pool : Pool) : Handle × Pool :=
  if h : lowestInteger ≤ number.toInt ∧ number.toInt < 256 then
    let slot := (number.toInt - lowestInteger).toNat
    have inside : slot < 384 := by
      simp only [slot, lowestInteger] at h ⊢
      omega
    (integers[slot], pool)
  else
    pool.allocate (.integer number)

def boxCharacter (unit : UInt16) (pool : Pool) : Handle × Pool :=
  if h : unit.toNat < 256 then (characters[unit.toNat], pool)
  else pool.allocate (.character unit)

def boxTruth (truth : Bool) (pool : Pool) : Handle × Pool :=
  pool.boxInteger (if truth then 1 else 0)

def boxLong (number : Int64) (pool : Pool) : Handle × Pool :=
  pool.allocate (.long number)

def boxSingle (number : Single) (pool : Pool) : Handle × Pool :=
  pool.allocate (.single number)

def boxDouble (number : Double) (pool : Pool) : Handle × Pool :=
  pool.allocate (.double number)

def box : Datum → Pool → Handle × Pool
  | .integer number => boxInteger number
  | .character unit => boxCharacter unit
  | .long number => boxLong number
  | .single number => boxSingle number
  | .double number => boxDouble number

end Pool

/-- The character unit with a code; codes that no unit has are refused. -/
def characterUnit (code : Int) : Except Failure UInt16 :=
  if 0 ≤ code ∧ code < 65536 then .ok (UInt16.ofNat code.toNat)
  else .error (.outOfRange "character code" code)

namespace Pool

def boxCharacterCode (code : Int64) (pool : Pool) : Except Failure (Handle × Pool) :=
  (characterUnit code.toInt).map fun unit => pool.boxCharacter unit

end Pool
end HostBridge
