import HostBridge.Proofs.Primitive.Refusals

/-!
# Calls that do not panic

Some steps of the primitives are partial on a machine: no word is divided by zero, differences and
opposites have to fit their width, and a table ends somewhere.  Here division, remainder, negation and
boxing are written with steps that panic outside their domain.  The guards in front of these steps keep
every call inside, so a call with such steps gives what the core library gives.
-/

namespace HostBridge

instance (width : Width) (number : Int) : Decidable (width.Fits number) :=
  inferInstanceAs (Decidable (_ ∧ _))

namespace Machine

/-!
## Partial steps
-/

def step {result : Type} (inside : Prop) [Decidable inside] (words : String) (given : result) :
    Except Panic result :=
  if inside then .ok given else .error (.text words)

theorem step_of_inside
    {result : Type} {inside : Prop} [Decidable inside] (hinside : inside)
    (words : String) (given : result) : step inside words given = .ok given :=
  if_pos hinside

def negate (word : Int32) : Except Panic Int32 :=
  step (Width.integer.Fits (-word.toInt)) "attempt to negate with overflow" (-word)

def subtract (left right : Int32) : Except Panic Int32 :=
  step (Width.integer.Fits (left.toInt - right.toInt)) "attempt to subtract with overflow"
    (left - right)

def entry {length : Nat} (table : Vector Handle length) (position : Nat) : Except Panic Handle :=
  match table[position]? with
  | some handle => .ok handle
  | none =>
      .error (.text ("index out of bounds: the len is " ++ toString length ++ " but the index is " ++
        toString position))

theorem entry_of_lt
    {length position : Nat} (table : Vector Handle length) (hposition : position < length) :
    entry table position = .ok table[position] := by
  rw [entry, Vector.getElem?_eq_getElem hposition]

/-!
## Primitives with partial steps
-/

/-- A divisor of zero is refused before the division.  It is all that the division panics at, since the
lowest number divided by minus one wraps. -/
def divide (division : Division) (words : String) (left right : Value) :
    Except Panic (Except Failure Value) :=
  match Arithmetic.promote left right with
  | .error failure => return .error failure
  | .ok (.integers x y) =>
      if y = 0 then return .error .divisionByZero
      else return .ok (.integer (← step (y ≠ 0) words (division.integers x y)))
  | .ok (.longs x y) =>
      if y = 0 then return .error .divisionByZero
      else return .ok (.long (← step (y ≠ 0) words (division.longs x y)))
  | .ok (.doubles x y) => return .ok (.double (division.doubles x y))

def div : Value → Value → Except Panic (Except Failure Value) :=
  divide .quotient "attempt to divide by zero"

def rem : Value → Value → Except Panic (Except Failure Value) :=
  divide .remainder "attempt to calculate the remainder with a divisor of zero"

theorem divide_eq (division : Division) (words : String) (left right : Value) :
    divide division words left right = .ok (division.apply left right) := by
  rw [divide, Division.apply]
  cases Arithmetic.promote left right with
  | error failure => rfl
  | ok operands =>
      cases operands with
      | integers x y =>
          show (if y = 0 then _ else _) = Except.ok (if y = 0 then _ else _)
          split
          · rfl
          · rename_i hne
            rw [step_of_inside hne]
            rfl
      | longs x y =>
          show (if y = 0 then _ else _) = Except.ok (if y = 0 then _ else _)
          split
          · rfl
          · rename_i hne
            rw [step_of_inside hne]
            rfl
      | doubles x y => rfl

/-- Integers and longs wrap when they are negated, but the code of a character must not. -/
def neg : Value → Except Panic (Except Failure Value)
  | .boxed (.character unit) => do return .ok (.integer (← negate (Int32.ofNat unit.toNat)))
  | value => return Arithmetic.neg value

theorem negate_code (unit : UInt16) :
    negate (Int32.ofNat unit.toNat) = .ok (-Int32.ofNat unit.toNat) := by
  have hunit := UInt16.toNat_lt unit
  have hcode : (Int32.ofNat unit.toNat).toInt = unit.toNat := by
    rw [← Int32.ofInt_eq_ofNat]
    exact Whole.toInt_int32_ofInt (Whole.character unit).fits_number
  have hfits : Width.integer.Fits (-(Int32.ofNat unit.toNat).toInt) := by
    rw [hcode]
    show -((2 ^ 31 : Nat) : Int) ≤ -(unit.toNat : Int) ∧ -(unit.toNat : Int) < (2 ^ 31 : Nat)
    omega
  exact step_of_inside hfits _ _

theorem neg_eq (value : Value) : neg value = .ok (Arithmetic.neg value) := by
  cases value with
  | null => rfl
  | text content => rfl
  | boxed datum =>
      cases datum with
      | character unit =>
          simp only [neg, negate_code]
          rfl
      | integer word => rfl
      | long word => rfl
      | single word => rfl
      | double word => rfl

def run (primitive : Primitive) (arguments : List Value) : Except Panic (Except Failure Value) :=
  match primitive, arguments with
  | .div, [left, right] => div left right
  | .rem, [left, right] => rem left right
  | .neg, [value] => neg value
  | primitive, arguments => return primitive.run arguments

theorem run_eq (primitive : Primitive) (arguments : List Value) :
    run primitive arguments = .ok (primitive.run arguments) := by
  unfold run
  split
  · exact divide_eq _ _ _ _
  · exact divide_eq _ _ _ _
  · exact neg_eq _
  · rfl

/-!
## Boxing from the tables
-/

def position (number : Int32) : Except Panic Nat := do
  let offset ← subtract number (Int32.ofInt Pool.lowestInteger)
  return offset.toInt64.toUInt64.toNat

def boxInteger (number : Int32) (pool : Pool) : Except Panic (Handle × Pool) :=
  if Pool.lowestInteger ≤ number.toInt ∧ number.toInt < 256 then do
    return (← entry Pool.integers (← position number), pool)
  else
    return pool.allocate (.integer number)

def boxCharacter (unit : UInt16) (pool : Pool) : Except Panic (Handle × Pool) :=
  if unit.toNat < 256 then do return (← entry Pool.characters unit.toNat, pool)
  else return pool.allocate (.character unit)

def box (datum : Datum) (pool : Pool) : Except Panic (Handle × Pool) :=
  match datum with
  | .integer number => boxInteger number pool
  | .character unit => boxCharacter unit pool
  | datum => return Pool.box datum pool

theorem position_eq
    {number : Int32} (hnumber : Pool.lowestInteger ≤ number.toInt ∧ number.toInt < 256) :
    position number = .ok (number.toInt - Pool.lowestInteger).toNat := by
  have hlowest : (Int32.ofInt Pool.lowestInteger).toInt = Pool.lowestInteger := by
    decide
  have hfits : Width.integer.Fits (number.toInt - Pool.lowestInteger) := by
    rw [Pool.lowestInteger] at hnumber ⊢
    show -((2 ^ 31 : Nat) : Int) ≤ _ ∧ _ < ((2 ^ 31 : Nat) : Int)
    omega
  have hoffset : (number - Int32.ofInt Pool.lowestInteger).toInt =
      number.toInt - Pool.lowestInteger := by
    rw [Int32.toInt_sub, hlowest]
    exact Width.bmod_eq_of_fits hfits
  have hpositive : (0 : Int64) ≤ (number - Int32.ofInt Pool.lowestInteger).toInt64 := by
    rw [Int64.le_iff_toInt_le, Int32.toInt_toInt64, hoffset]
    show (0 : Int) ≤ _
    omega
  -- The offset is not negative, so it is the same number as an unsigned word.
  rw [position, subtract, step_of_inside (by rw [hlowest]; exact hfits)]
  show Except.ok _ = _
  rw [Int64.toNat_toUInt64_of_le hpositive]
  show Except.ok (number - Int32.ofInt Pool.lowestInteger).toInt64.toInt.toNat = _
  rw [Int32.toInt_toInt64, hoffset]

theorem boxInteger_eq (number : Int32) (pool : Pool) :
    boxInteger number pool = .ok (pool.boxInteger number) := by
  rw [boxInteger, Pool.boxInteger]
  split
  · rename_i hnumber
    rw [position_eq hnumber]
    show (do return (← entry Pool.integers _, pool)) = _
    rw [entry_of_lt]
    rfl
  · rfl

theorem boxCharacter_eq (unit : UInt16) (pool : Pool) :
    boxCharacter unit pool = .ok (pool.boxCharacter unit) := by
  rw [boxCharacter, Pool.boxCharacter]
  split
  · rename_i hunit
    rw [entry_of_lt Pool.characters hunit]
    rfl
  · rfl

theorem box_eq (datum : Datum) (pool : Pool) : box datum pool = .ok (Pool.box datum pool) := by
  cases datum with
  | integer number => exact boxInteger_eq number pool
  | character unit => exact boxCharacter_eq unit pool
  | long number => rfl
  | single number => rfl
  | double number => rfl

end Machine

/-!
## Boxed data
-/

namespace Pool

theorem datum_boxInteger (number : Int32) (pool : Pool) :
    (pool.boxInteger number).1.datum = .integer number := by
  rw [boxInteger]
  split
  · rename_i hnumber
    have hslot : lowestInteger + ((number.toInt - lowestInteger).toNat : Int) = number.toInt := by
      rw [Int.toNat_of_nonneg (Int.sub_nonneg_of_le hnumber.1), add_sub_cancel]
    simp only [integers, Vector.getElem_ofFn, hslot, Int32.ofInt_toInt]
  · rfl

theorem datum_boxCharacter (unit : UInt16) (pool : Pool) :
    (pool.boxCharacter unit).1.datum = .character unit := by
  rw [boxCharacter]
  split
  · show (characters[unit.toNat]).datum = _
    rw [characters, Vector.getElem_ofFn]
    show Datum.character (UInt16.ofNat unit.toNat) = _
    rw [UInt16.ofNat_toNat]
  · rfl

theorem datum_box (datum : Datum) (pool : Pool) : (box datum pool).1.datum = datum := by
  cases datum with
  | integer number => exact datum_boxInteger number pool
  | character unit => exact datum_boxCharacter unit pool
  | long number => rfl
  | single number => rfl
  | double number => rfl

end Pool

/-!
## Calls
-/

namespace Machine

def deliver (pool : Pool) : Value → Except Panic Value
  | .boxed datum => do return .boxed (← box datum pool).1.datum
  | value => return value

theorem deliver_eq (pool : Pool) (value : Value) : deliver pool value = .ok value := by
  cases value with
  | null => rfl
  | text content => rfl
  | boxed datum =>
      rw [deliver, box_eq]
      show Except.ok (Value.boxed (Pool.box datum pool).1.datum) = _
      rw [Pool.datum_box]

def answer (pool : Pool) (index : Nat) (arguments : List Value) :
    Except Panic (Except Failure Value) :=
  match Primitive.all[index]? with
  | none => return .error (.unknownIndex CoreLibrary.soname index)
  | some primitive => do
      match ← run primitive arguments with
      | .error failure => return .error failure
      | .ok value => return .ok (← deliver pool value)

theorem answer_eq (pool : Pool) (index : Nat) (arguments : List Value) :
    answer pool index arguments = .ok (CoreLibrary.answer index arguments) := by
  rw [answer, CoreLibrary.answer]
  cases Primitive.all[index]? with
  | none => rfl
  | some primitive =>
      show (do
        match ← run primitive arguments with
        | .error failure => return .error failure
        | .ok value => return .ok (← deliver pool value)) = Except.ok (primitive.run arguments)
      rw [run_eq]
      cases primitive.run arguments with
      | error failure => rfl
      | ok value =>
          show (deliver pool value >>= fun value => pure (Except.ok value)) = _
          rw [deliver_eq]
          rfl

def outcome : Except Panic (Except Failure Value) → Outcome Failure
  | .ok result => .ofExcept result
  | .error payload => .panic payload

end Machine

namespace CoreLibrary

theorem ofExcept_eq_failure_iff (result : Except Failure Value) (failure : Failure) :
    Outcome.ofExcept result = .failure failure <-> result = .error failure := by
  cases result <;> simp [Outcome.ofExcept]

theorem ofExcept_ne_panic (result : Except Failure Value) (payload : Panic) :
    Outcome.ofExcept result ≠ .panic payload := by
  cases result <;> simp [Outcome.ofExcept]

/-- A call of the core library gives what it gives with steps that can panic, and none of them does,
whatever the index, the arguments and the pool.  It fails exactly as it is refused. -/
theorem run_fails_iff
    (pool : Pool) (index : Nat) (context : Context) (arguments : List Value) :
    let outcome := (host.run ⟨index, context, arguments⟩).result
    Machine.outcome (Machine.answer pool index arguments) = outcome ∧
      (forall payload, outcome ≠ .panic payload) ∧
      forall failure, outcome = .failure failure <-> Refuses index arguments failure := by
  intro outcome
  have houtcome : outcome = .ofExcept (answer index arguments) := rfl
  rw [Machine.answer_eq]
  refine ⟨rfl, ?_, ?_⟩
  · intro payload
    rw [houtcome]
    exact ofExcept_ne_panic _ payload
  · intro failure
    rw [houtcome, ofExcept_eq_failure_iff]
    exact answer_eq_error_iff index arguments failure

end CoreLibrary
end HostBridge
