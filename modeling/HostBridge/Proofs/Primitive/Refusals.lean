import HostBridge.Proofs.Primitive.Division
import HostBridge.Proofs.Primitive.Opening

/-!
# What the core library refuses

A call is refused for its index, for the number of its arguments, for the first argument whose type is
not accepted, for a whole divisor of zero, or for a code that no character has.  Every other call gives a
value.
-/

namespace HostBridge

/-- The type that a primitive wants, and the types that it accepts for it. -/
structure Demand where
  wanted : String
  accepted : List String
  deriving DecidableEq, Repr

namespace Demand

def number : Demand := ⟨"number", ["int", "char", "long", "f32", "f64"]⟩

def truth : Demand := ⟨"bool", ["int", "char"]⟩

def character : Demand := ⟨"char", ["char"]⟩

def long : Demand := ⟨"long", ["int", "char", "long"]⟩

def Accepts (demand : Demand) (value : Value) : Prop :=
  value.typeName ∈ demand.accepted

def mismatch (demand : Demand) (value : Value) : Failure :=
  .typeMismatch demand.wanted value.typeName

end Demand

namespace Primitive

/-- What is wanted of every argument; two primitives take any value. -/
def demand? : Primitive → Option Demand
  | .add | .sub | .mul | .div | .rem | .neg | .lt | .max | .min | .toDouble => some .number
  | .not => some .truth
  | .charCode | .isDigit => some .character
  | .fromCharCode | .toLong => some .long
  | .eq | .toText => none

inductive Refuses (primitive : Primitive) : List Value → Failure → Prop where
  | count {arguments : List Value} :
      arguments.length ≠ primitive.operation.arity ->
      Refuses primitive arguments
        (.arity primitive.name primitive.operation.arity arguments.length)
  | type {demand : Demand} {front back : List Value} {culprit : Value} :
      (front ++ culprit :: back).length = primitive.operation.arity ->
      primitive.demand? = some demand ->
      (forall value, value ∈ front -> demand.Accepts value) ->
      ¬demand.Accepts culprit ->
      Refuses primitive (front ++ culprit :: back) (demand.mismatch culprit)
  | zeroDivisor {dividend divisor : Whole} :
      primitive = .div ∨ primitive = .rem ->
      divisor.number = 0 ->
      Refuses primitive [dividend.value, divisor.value] (.argument "division by zero")
  | code {code : Whole} :
      primitive = .fromCharCode ->
      ¬(0 ≤ code.number ∧ code.number < 65536) ->
      Refuses primitive [code.value] (.outOfRange "character code" code.number)

end Primitive

/-!
## Readers of one type
-/

/-- A reader gives something for every value of an accepted type, and else names the type. -/
structure Reads {result : Type} (read : Value → Except Failure result) (demand : Demand) : Prop where
  accepts : forall value, demand.Accepts value -> exists result, read value = .ok result
  refuses : forall value, ¬demand.Accepts value -> read value = .error (demand.mismatch value)

theorem reads_accept
    {result : Type} {read : Value → Except Failure result} {demand : Demand}
    {view : Datum → Option result}
    (hread : forall value, read value = Unboxing.accept demand.wanted value view)
    (hnull : demand.accepted.contains "null" = false)
    (htext : demand.accepted.contains "string" = false)
    (hview : forall datum : Datum,
      demand.accepted.contains datum.typeName = (view datum).isSome) :
    Reads read demand := by
  have hcontains : forall value : Value,
      demand.accepted.contains value.typeName = (value.datum?.bind view).isSome := by
    intro value
    cases value with
    | null => exact hnull
    | boxed datum => exact hview datum
    | text content => exact htext
  have haccepts : forall value : Value, demand.Accepts value <-> (value.datum?.bind view).isSome := by
    intro value
    rw [← hcontains, List.contains_iff_mem]
    rfl
  constructor
  · intro value hvalue
    rcases Option.isSome_iff_exists.mp ((haccepts value).mp hvalue) with ⟨result, hresult⟩
    exact ⟨result, by rw [hread, Unboxing.accept, hresult]⟩
  · intro value hvalue
    have hnone : value.datum?.bind view = none := by
      rw [← Option.not_isSome_iff_eq_none, ← haccepts]
      exact hvalue
    rw [hread, Unboxing.accept, hnone]
    rfl

theorem reads_number : Reads Arithmetic.number .number := by
  have hread : forall value, Arithmetic.number value = Unboxing.accept "number" value some := by
    intro value
    cases value <;> rfl
  refine reads_accept hread rfl rfl ?_
  intro datum
  cases datum <;> rfl

theorem reads_truth : Reads Unboxing.truth .truth := by
  refine reads_accept (fun _ => rfl) rfl rfl ?_
  intro datum
  cases datum <;> rfl

theorem reads_character : Reads Unboxing.character .character := by
  refine reads_accept (fun _ => rfl) rfl rfl ?_
  intro datum
  cases datum <;> rfl

theorem reads_long : Reads Unboxing.long .long := by
  refine reads_accept (fun _ => rfl) rfl rfl ?_
  intro datum
  cases datum <;> rfl

theorem accepts_number_iff (value : Value) :
    Demand.number.Accepts value <-> exists datum, value = .boxed datum := by
  constructor
  · intro haccepts
    rcases reads_number.accepts value haccepts with ⟨datum, hdatum⟩
    cases value with
    | null => cases hdatum
    | boxed datum => exact ⟨datum, rfl⟩
    | text content => cases hdatum
  · intro hboxed
    rcases hboxed with ⟨datum, rfl⟩
    cases datum <;> simp [Demand.Accepts, Demand.number, Value.typeName, Datum.typeName]

theorem exists_whole_of_accepts {value : Value} (haccepts : Demand.long.Accepts value) :
    exists whole : Whole, value = whole.value := by
  rcases reads_long.accepts value haccepts with ⟨number, hnumber⟩
  cases value with
  | null => cases hnumber
  | text content => cases hnumber
  | boxed datum =>
      cases datum with
      | integer word => exact ⟨.integer word, rfl⟩
      | character unit => exact ⟨.character unit, rfl⟩
      | long word => exact ⟨.long word, rfl⟩
      | single word => cases hnumber
      | double word => cases hnumber

structure ReadsBoth {result : Type} (read : Value → Value → Except Failure result) (demand : Demand) :
    Prop where
  accepts : forall left right,
    demand.Accepts left -> demand.Accepts right -> exists result, read left right = .ok result
  refuses_left : forall left right,
    ¬demand.Accepts left -> read left right = .error (demand.mismatch left)
  refuses_right : forall left right,
    demand.Accepts left -> ¬demand.Accepts right ->
      read left right = .error (demand.mismatch right)

theorem readsBoth_promote : ReadsBoth Arithmetic.promote .number := by
  constructor
  · intro left right hleft hright
    rcases (accepts_number_iff left).mp hleft with ⟨left, rfl⟩
    rcases (accepts_number_iff right).mp hright with ⟨right, rfl⟩
    exact ⟨Arithmetic.pair left right, rfl⟩
  · intro left right hleft
    rw [Arithmetic.promote, reads_number.refuses left hleft]
    rfl
  · intro left right hleft hright
    rcases reads_number.accepts left hleft with ⟨datum, hdatum⟩
    rw [Arithmetic.promote, hdatum, reads_number.refuses right hright]
    rfl

theorem readsBoth_compare : ReadsBoth Arithmetic.compare .number := by
  constructor
  · intro left right hleft hright
    rcases readsBoth_promote.accepts left right hleft hright with ⟨operands, hoperands⟩
    rw [Arithmetic.compare, hoperands]
    cases operands <;> exact ⟨_, rfl⟩
  · intro left right hleft
    rw [Arithmetic.compare, readsBoth_promote.refuses_left left right hleft]
    rfl
  · intro left right hleft hright
    rw [Arithmetic.compare, readsBoth_promote.refuses_right left right hleft hright]
    rfl

/-!
## Operations on read values
-/

namespace Operation

/-- Of the arguments, the first whose type is not accepted is refused. -/
def Checks (demand : Demand) : Operation → Prop
  | .unary apply =>
      forall value, ¬demand.Accepts value -> apply value = .error (demand.mismatch value)
  | .binary apply =>
      forall left right,
        (¬demand.Accepts left -> apply left right = .error (demand.mismatch left)) ∧
          (demand.Accepts left -> ¬demand.Accepts right ->
            apply left right = .error (demand.mismatch right))

def Answers (demand : Demand) : Operation → Prop
  | .unary apply =>
      forall value, demand.Accepts value -> exists result, apply value = .ok result
  | .binary apply =>
      forall left right,
        demand.Accepts left -> demand.Accepts right -> exists result, apply left right = .ok result

theorem run_of_length_ne
    {operation : Operation} {arguments : List Value} (hlength : arguments.length ≠ operation.arity)
    (name : String) :
    operation.run name arguments = .error (.arity name operation.arity arguments.length) := by
  cases operation with
  | unary apply =>
      match arguments with
      | [] => rfl
      | [_] => exact absurd rfl hlength
      | _ :: _ :: _ => rfl
  | binary apply =>
      match arguments with
      | [] => rfl
      | [_] => rfl
      | [_, _] => exact absurd rfl hlength
      | _ :: _ :: _ :: _ => rfl

theorem Checks.run_eq
    {operation : Operation} {demand : Demand} (hchecks : operation.Checks demand) (name : String)
    {front back : List Value} {culprit : Value}
    (hlength : (front ++ culprit :: back).length = operation.arity)
    (hfront : forall value, value ∈ front -> demand.Accepts value)
    (hculprit : ¬demand.Accepts culprit) :
    operation.run name (front ++ culprit :: back) = .error (demand.mismatch culprit) := by
  cases operation with
  | unary apply =>
      match front, back with
      | [], [] => exact hchecks culprit hculprit
      | [], _ :: _ => simp [arity] at hlength
      | _ :: _, _ => simp [arity] at hlength
  | binary apply =>
      match front, back with
      | [], [] => simp [arity] at hlength
      | [], [right] => exact (hchecks culprit right).1 hculprit
      | [], _ :: _ :: _ => simp [arity] at hlength
      | [left], [] => exact (hchecks left culprit).2 (hfront left List.mem_cons_self) hculprit
      | [_], _ :: _ => simp [arity] at hlength
      | _ :: _ :: _, _ => simp [arity] at hlength

theorem Answers.exists_run_eq
    {operation : Operation} {demand : Demand} (hanswers : operation.Answers demand) (name : String)
    {arguments : List Value} (hlength : arguments.length = operation.arity)
    (haccepts : forall value, value ∈ arguments -> demand.Accepts value) :
    exists result, operation.run name arguments = .ok result := by
  cases operation with
  | unary apply =>
      rcases List.length_eq_one_iff.mp hlength with ⟨value, rfl⟩
      exact hanswers value (haccepts value (by simp))
  | binary apply =>
      rcases List.length_eq_two.mp hlength with ⟨left, right, rfl⟩
      exact hanswers left right (haccepts left (by simp)) (haccepts right (by simp))

theorem checks_of_reads
    {first : Type} {read : Value → Except Failure first} {demand : Demand}
    (hreads : Reads read demand) (next : first → Except Failure Value) :
    (unary fun value => read value >>= next).Checks demand := by
  intro value hvalue
  show read value >>= next = _
  rw [hreads.refuses value hvalue]
  rfl

theorem answers_of_reads
    {first : Type} {read : Value → Except Failure first} {demand : Demand}
    (hreads : Reads read demand) {next : first → Except Failure Value}
    (hnext : forall result, exists value, next result = .ok value) :
    (unary fun value => read value >>= next).Answers demand := by
  intro value hvalue
  rcases hreads.accepts value hvalue with ⟨result, hresult⟩
  show exists value', read value >>= next = .ok value'
  rw [hresult]
  exact hnext result

theorem checks_of_readsBoth
    {first : Type} {read : Value → Value → Except Failure first} {demand : Demand}
    (hreads : ReadsBoth read demand) (next : first → Except Failure Value) :
    (binary fun left right => read left right >>= next).Checks demand := by
  intro left right
  show (_ -> read left right >>= next = _) ∧ (_ -> _ -> read left right >>= next = _)
  constructor
  · intro hleft
    rw [hreads.refuses_left left right hleft]
    rfl
  · intro hleft hright
    rw [hreads.refuses_right left right hleft hright]
    rfl

theorem answers_of_readsBoth
    {first : Type} {read : Value → Value → Except Failure first} {demand : Demand}
    (hreads : ReadsBoth read demand) {next : first → Except Failure Value}
    (hnext : forall result, exists value, next result = .ok value) :
    (binary fun left right => read left right >>= next).Answers demand := by
  intro left right hleft hright
  rcases hreads.accepts left right hleft hright with ⟨result, hresult⟩
  show exists value, read left right >>= next = .ok value
  rw [hresult]
  exact hnext result

end Operation

/-!
## The primitives
-/

namespace Primitive

open Operation

theorem checks_operation
    {primitive : Primitive} {demand : Demand} (hdemand : primitive.demand? = some demand) :
    primitive.operation.Checks demand := by
  cases primitive <;> cases hdemand
  case add | sub | mul | div | rem | max | min =>
    exact checks_of_readsBoth readsBoth_promote _
  case lt => exact checks_of_readsBoth readsBoth_compare _
  case neg | toDouble => exact checks_of_reads reads_number _
  case not => exact checks_of_reads reads_truth _
  case charCode | isDigit => exact checks_of_reads reads_character _
  case fromCharCode | toLong => exact checks_of_reads reads_long _

/-- The primitives that refuse some arguments of accepted types. -/
def partials : List Primitive :=
  [.div, .rem, .fromCharCode]

theorem answers_operation
    {primitive : Primitive} {demand : Demand} (hdemand : primitive.demand? = some demand)
    (hpartial : primitive ∉ partials) : primitive.operation.Answers demand := by
  cases primitive <;> cases hdemand
  case add | sub | mul | max | min =>
    refine answers_of_readsBoth readsBoth_promote ?_
    intro operands
    cases operands <;> exact ⟨_, rfl⟩
  case lt => exact answers_of_readsBoth readsBoth_compare fun _ => ⟨_, rfl⟩
  case neg =>
    refine answers_of_reads reads_number ?_
    intro datum
    cases datum <;> exact ⟨_, rfl⟩
  case toDouble => exact answers_of_reads reads_number fun _ => ⟨_, rfl⟩
  case not => exact answers_of_reads reads_truth fun _ => ⟨_, rfl⟩
  case charCode | isDigit => exact answers_of_reads reads_character fun _ => ⟨_, rfl⟩
  case toLong => exact answers_of_reads reads_long fun _ => ⟨_, rfl⟩
  case div | rem | fromCharCode => exact absurd (by decide) hpartial

theorem exists_eq_ok_of_demand?_eq_none
    {primitive : Primitive} (hdemand : primitive.demand? = none)
    {arguments : List Value} (hlength : arguments.length = primitive.operation.arity) :
    exists value, primitive.run arguments = .ok value := by
  cases primitive <;> cases hdemand
  case eq =>
    rcases List.length_eq_two.mp hlength with ⟨left, right, rfl⟩
    show exists value, Arithmetic.eq left right = .ok value
    unfold Arithmetic.eq
    split
    · rename_i left right
      have hleft := (accepts_number_iff (.boxed left)).mpr ⟨left, rfl⟩
      have hright := (accepts_number_iff (.boxed right)).mpr ⟨right, rfl⟩
      rcases readsBoth_compare.accepts _ _ hleft hright with ⟨order, horder⟩
      rw [horder]
      exact ⟨_, rfl⟩
    · exact ⟨_, rfl⟩
  case toText =>
    rcases List.length_eq_one_iff.mp hlength with ⟨value, rfl⟩
    cases value <;> exact ⟨_, rfl⟩

/-!
## Division and character codes
-/

theorem exists_doubles_or_whole (left right : Datum) :
    (exists x y, Arithmetic.pair left right = .doubles x y) ∨
      exists dividend divisor : Whole, dividend.datum = left ∧ divisor.datum = right := by
  cases hleft : left.whole? with
  | none => exact Or.inl ⟨_, _, by rw [Arithmetic.pair, hleft]⟩
  | some x =>
      cases hright : right.whole? with
      | none => exact Or.inl ⟨_, _, by rw [Arithmetic.pair, hleft, hright]⟩
      | some y =>
          rcases (Whole.whole?_eq_some_iff left x).mp hleft with ⟨dividend, hdividend, _⟩
          rcases (Whole.whole?_eq_some_iff right y).mp hright with ⟨divisor, hdivisor, _⟩
          exact Or.inr ⟨dividend, divisor, hdividend, hdivisor⟩

theorem exists_division
    {primitive : Primitive} (hdivision : primitive = .div ∨ primitive = .rem) :
    exists division : Division, forall left right,
      primitive.run [left, right] = division.apply left right := by
  rcases hdivision with rfl | rfl
  · exact ⟨.quotient, Division.quotient_apply⟩
  · exact ⟨.remainder, Division.remainder_apply⟩

theorem run_fromCharCode (code : Whole) :
    Primitive.fromCharCode.run [code.value] =
      if 0 ≤ code.number ∧ code.number < 65536 then
        .ok (.character (UInt16.ofNat code.number.toNat))
      else .error (.outOfRange "character code" code.number) := by
  have hlong : Unboxing.long code.value = .ok (Int64.ofInt code.number) := by
    cases code <;> rfl
  have hnumber : (Int64.ofInt code.number).toInt = code.number :=
    Whole.toInt_int64_ofInt (Whole.fits_right (.long 0) code)
  show Characters.fromCharCode code.value = _
  rw [Characters.fromCharCode, hlong]
  show (do
    let unit ← characterUnit (Int64.ofInt code.number).toInt
    return Value.character unit) = _
  rw [hnumber, characterUnit]
  split <;> rfl

/-!
## Failures and values of a call
-/

theorem run_of_refuses
    {primitive : Primitive} {arguments : List Value} {failure : Failure}
    (hrefuses : primitive.Refuses arguments failure) :
    primitive.run arguments = .error failure := by
  cases hrefuses with
  | count hlength => exact run_of_length_ne hlength primitive.name
  | type hlength hdemand hfront hculprit =>
      exact (checks_operation hdemand).run_eq primitive.name hlength hfront hculprit
  | zeroDivisor hdivision hzero =>
      rcases exists_division hdivision with ⟨division, hrun⟩
      rw [hrun, division.apply_value, if_pos hzero]
      rfl
  | code hprimitive hcode =>
      subst hprimitive
      rw [run_fromCharCode, if_neg hcode]

theorem exists_culprit
    {demand : Demand} {arguments : List Value}
    (hrefuses : ¬forall value, value ∈ arguments -> demand.Accepts value) :
    exists front culprit back,
      arguments = front ++ culprit :: back ∧ (forall value, value ∈ front -> demand.Accepts value) ∧
        ¬demand.Accepts culprit := by
  classical
  cases hfind : arguments.find? fun value => decide ¬demand.Accepts value with
  | none =>
      rw [List.find?_eq_none] at hfind
      exact absurd (by simpa using hfind) hrefuses
  | some culprit =>
      rcases List.find?_eq_some_iff_append.mp hfind with ⟨hculprit, front, back, rfl, hfront⟩
      exact ⟨front, culprit, back, rfl, by simpa using hfront, of_decide_eq_true hculprit⟩

theorem answers_or_refuses_division
    {primitive : Primitive} (hdivision : primitive = .div ∨ primitive = .rem)
    {arguments : List Value} (hlength : arguments.length = 2)
    (haccepts : forall value, value ∈ arguments -> Demand.number.Accepts value) :
    (exists value, primitive.run arguments = .ok value) ∨
      exists failure, primitive.Refuses arguments failure := by
  rcases List.length_eq_two.mp hlength with ⟨left, right, rfl⟩
  rcases (accepts_number_iff left).mp (haccepts left (by simp)) with ⟨left, rfl⟩
  rcases (accepts_number_iff right).mp (haccepts right (by simp)) with ⟨right, rfl⟩
  rcases exists_division hdivision with ⟨division, hrun⟩
  rcases exists_doubles_or_whole left right with ⟨x, y, hpair⟩ | ⟨dividend, divisor, rfl, rfl⟩
  · have hpromote : Arithmetic.promote (.boxed left) (.boxed right) = .ok (.doubles x y) :=
      congrArg Except.ok hpair
    rw [hrun, Division.apply, hpromote]
    exact Or.inl ⟨_, rfl⟩
  · by_cases hzero : divisor.number = 0
    · exact Or.inr ⟨_, .zeroDivisor hdivision hzero⟩
    · exact Or.inl ⟨_, (hrun _ _).trans ((division.apply_value _ _).trans (if_neg hzero))⟩

theorem answers_or_refuses_code
    {arguments : List Value} (hlength : arguments.length = 1)
    (haccepts : forall value, value ∈ arguments -> Demand.long.Accepts value) :
    (exists value, Primitive.fromCharCode.run arguments = .ok value) ∨
      exists failure, Primitive.fromCharCode.Refuses arguments failure := by
  rcases List.length_eq_one_iff.mp hlength with ⟨value, rfl⟩
  rcases exists_whole_of_accepts (haccepts value (by simp)) with ⟨code, rfl⟩
  by_cases hcode : 0 ≤ code.number ∧ code.number < 65536
  · exact Or.inl ⟨_, (run_fromCharCode code).trans (if_pos hcode)⟩
  · exact Or.inr ⟨_, .code rfl hcode⟩

theorem answers_or_refuses_of_accepts
    {primitive : Primitive} {demand : Demand} (hdemand : primitive.demand? = some demand)
    {arguments : List Value} (hlength : arguments.length = primitive.operation.arity)
    (haccepts : forall value, value ∈ arguments -> demand.Accepts value) :
    (exists value, primitive.run arguments = .ok value) ∨
      exists failure, primitive.Refuses arguments failure := by
  by_cases hpartial : primitive ∈ partials
  · simp only [partials, List.mem_cons, List.not_mem_nil, or_false] at hpartial
    rcases hpartial with rfl | rfl | rfl
    · cases hdemand
      exact answers_or_refuses_division (Or.inl rfl) hlength haccepts
    · cases hdemand
      exact answers_or_refuses_division (Or.inr rfl) hlength haccepts
    · cases hdemand
      exact answers_or_refuses_code hlength haccepts
  · exact Or.inl ((answers_operation hdemand hpartial).exists_run_eq primitive.name hlength haccepts)

theorem answers_or_refuses (primitive : Primitive) (arguments : List Value) :
    (exists value, primitive.run arguments = .ok value) ∨
      exists failure, primitive.Refuses arguments failure := by
  -- The cases follow the order of the checks: count, then types, then what the numbers are.
  by_cases hlength : arguments.length = primitive.operation.arity
  · cases hdemand : primitive.demand? with
    | none => exact Or.inl (exists_eq_ok_of_demand?_eq_none hdemand hlength)
    | some demand =>
        by_cases haccepts : forall value, value ∈ arguments -> demand.Accepts value
        · exact answers_or_refuses_of_accepts hdemand hlength haccepts
        · rcases exists_culprit haccepts with ⟨front, culprit, back, rfl, hfront, hculprit⟩
          exact Or.inr ⟨_, .type hlength hdemand hfront hculprit⟩
  · exact Or.inr ⟨_, .count hlength⟩

theorem run_eq_error_iff (primitive : Primitive) (arguments : List Value) (failure : Failure) :
    primitive.run arguments = .error failure <-> primitive.Refuses arguments failure := by
  constructor
  · intro hrun
    -- The call is refused, since it gives no value, and it has one failure only.
    rcases answers_or_refuses primitive arguments with ⟨value, hvalue⟩ | ⟨other, hrefuses⟩
    · rw [hrun] at hvalue
      cases hvalue
    · have hother := run_of_refuses hrefuses
      rw [hrun] at hother
      cases hother
      exact hrefuses
  · exact run_of_refuses

end Primitive

/-!
## Calls by index
-/

namespace CoreLibrary

inductive Refuses (index : Nat) (arguments : List Value) : Failure → Prop where
  | unknownIndex :
      17 ≤ index -> Refuses index arguments (.unknownIndex "kiln.core" index)
  | primitive {primitive : Primitive} {failure : Failure} :
      Primitive.all[index]? = some primitive ->
      primitive.Refuses arguments failure ->
      Refuses index arguments failure

theorem answer_eq_error_iff (index : Nat) (arguments : List Value) (failure : Failure) :
    answer index arguments = .error failure <-> Refuses index arguments failure := by
  constructor
  · intro hanswer
    cases hindex : Primitive.all[index]? with
    | none =>
        have hle := List.getElem?_eq_none_iff.mp hindex
        rw [answer_of_le hle] at hanswer
        cases hanswer
        exact .unknownIndex hle
    | some primitive =>
        rw [answer_of_getElem? hindex] at hanswer
        exact .primitive hindex ((primitive.run_eq_error_iff arguments failure).mp hanswer)
  · intro hrefuses
    cases hrefuses with
    | unknownIndex hle => exact answer_of_le hle arguments
    | primitive hindex hprimitive =>
        rw [answer_of_getElem? hindex]
        exact Primitive.run_of_refuses hprimitive

end CoreLibrary

end HostBridge
