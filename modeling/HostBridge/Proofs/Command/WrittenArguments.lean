import HostBridge.Proofs.Command.Reports
import HostBridge.Proofs.Literal.RoundTrip

/-!
# Written integers as arguments

The text of an integer or a long can be given to a call again, as an argument or as the value of an
option, unless it is the text of a negative long: its final letter makes it no number to the command
line, which then takes it for an option that it does not know.
-/

namespace HostBridge

inductive Value.IsInteger : Value → Prop where
  | integer (number : Int32) : IsInteger (.integer number)
  | long (number : Int64) : IsInteger (.long number)

def Value.IsNegativeLong (value : Value) : Prop :=
  exists number : Int64, value = .long number ∧ number.toInt < 0

namespace Argument

/-!
## Shapes
-/

theorem isUnsigned_append
    {digits : List Char} (hdigits : AllDigits digits) (pointed marked : Bool) (rest : List Char) :
    isUnsigned true pointed marked (digits ++ rest) = isUnsigned true pointed marked rest := by
  induction digits with
  | nil => rfl
  | cons first more ih =>
      rw [List.cons_append, isUnsigned, if_pos (hdigits first List.mem_cons_self)]
      exact ih fun character hmem => hdigits character (List.mem_cons_of_mem first hmem)

theorem shape_of_ne
    {text : String} {first : Char} {rest : List Char} (htext : text.toList = first :: rest)
    (hfirst : first ≠ '-') : shape text = .plain := by
  unfold shape
  rw [htext]
  split <;> simp_all

theorem shape_minus
    {text : String} {first : Char} {rest : List Char} (htext : text.toList = '-' :: first :: rest)
    (hfirst : first ≠ '-') (hhelp : first ≠ 'h') :
    shape text = if isNegativeNumber ('-' :: first :: rest) then .negative else .short := by
  unfold shape
  rw [htext]
  split <;> simp_all

theorem shape_digits
    {text : String} {digits rest : List Char} (hne : digits ≠ []) (hdigits : AllDigits digits)
    (htext : text.toList = digits ++ rest) : shape text = .plain := by
  cases digits with
  | nil => exact absurd rfl hne
  | cons first more =>
      exact shape_of_ne htext (ne_of_isDigit (hdigits first List.mem_cons_self) rfl)

theorem shape_minus_digits
    {text : String} {digits rest : List Char} (hne : digits ≠ []) (hdigits : AllDigits digits)
    (htext : text.toList = '-' :: (digits ++ rest)) :
    shape text = if isUnsigned true false false rest then .negative else .short := by
  cases digits with
  | nil => exact absurd rfl hne
  | cons first more =>
      have hfirst := hdigits first List.mem_cons_self
      have hmore : AllDigits more := fun character hmem =>
        hdigits character (List.mem_cons_of_mem first hmem)
      rw [List.cons_append] at htext
      rw [shape_minus htext (ne_of_isDigit hfirst rfl) (ne_of_isDigit hfirst rfl), isNegativeNumber,
        isUnsigned, if_pos hfirst, isUnsigned_append hmore]

/-- A text that begins with an integer is no option, unless the integer is negative and what is behind
it belongs to no number. -/
theorem shape_of_toString
    {text : String} {number : Int} {rest : List Char}
    (htext : text.toList = (toString number).toList ++ rest) :
    shape text =
      if number < 0 then if isUnsigned true false false rest then .negative else .short
      else .plain := by
  cases number with
  | ofNat size =>
      have hsize : ¬Int.ofNat size < 0 := Int.not_lt.mpr (Int.natCast_nonneg size)
      rw [toList_toString_ofNat] at htext
      rw [if_neg hsize]
      exact shape_digits Nat.toDigits_ne_nil (allDigits_toDigits size) htext
  | negSucc size =>
      rw [toList_toString_negSucc] at htext
      rw [if_pos (Int.negSucc_lt_zero size)]
      exact shape_minus_digits Nat.toDigits_ne_nil (allDigits_toDigits (size + 1)) htext

theorem shape_write_integer (number : Int32) :
    shape (Literal.write (.integer number)) = if number.toInt < 0 then .negative else .plain :=
  shape_of_toString (List.append_nil _).symm

theorem shape_write_long (number : Int64) :
    shape (Literal.write (.long number)) = if number.toInt < 0 then .short else .plain :=
  shape_of_toString String.toList_append

/-- A call takes the text as a value: it looks like no option, or like a negative number. -/
def IsTaken (text : String) : Prop :=
  shape text = .plain ∨ shape text = .negative

theorem isTaken_or_short_write
    {value : Value} (hvalue : value.IsInteger) :
    (¬value.IsNegativeLong ∧ IsTaken (Literal.write value)) ∨
      (value.IsNegativeLong ∧ shape (Literal.write value) = .short) := by
  cases hvalue with
  | integer number =>
      refine Or.inl ⟨?_, ?_⟩
      · intro hlong
        rcases hlong with ⟨_, hlong, _⟩
        cases hlong
      · rw [IsTaken, shape_write_integer]
        split
        · exact Or.inr rfl
        · exact Or.inl rfl
  | long number =>
      have hshape := shape_write_long number
      by_cases hnegative : number.toInt < 0
      · rw [if_pos hnegative] at hshape
        exact Or.inr ⟨⟨number, rfl, hnegative⟩, hshape⟩
      · rw [if_neg hnegative] at hshape
        refine Or.inl ⟨?_, Or.inl hshape⟩
        intro hlong
        rcases hlong with ⟨_, hlong, hless⟩
        cases hlong
        exact hnegative hless

end Argument

namespace Parameters

/-!
## Gathering by shapes
-/

theorem gather_of_plain
    {argument : String} (hshape : Argument.shape argument = .plain) (parameters : Parameters)
    (position : Nat) (rest : List String) :
    parameters.gather position (argument :: rest) =
      (parameters.gather (position + 1) rest).addPositional argument := by
  rw [gather.eq_def]
  simp only [hshape]

theorem gather_of_negative
    {argument : String} (hshape : Argument.shape argument = .negative) {parameters : Parameters}
    {position : Nat} (htakes : parameters.takesNegative position = true) (rest : List String) :
    parameters.gather position (argument :: rest) =
      (parameters.gather (position + 1) rest).addPositional argument := by
  rw [gather.eq_def]
  simp only [hshape, htakes, if_true]

theorem gather_of_short
    {argument : String} (hshape : Argument.shape argument = .short) (parameters : Parameters)
    (position : Nat) (rest : List String) :
    parameters.gather position (argument :: rest) = { ending := .misfit } := by
  rw [gather.eq_def]
  simp only [hshape]

theorem gather_of_option
    {parameters : Parameters} {argument : String}
    (hshape : Argument.shape argument = .long parameters.option none) (position : Nat)
    (value : String) (rest : List String) :
    parameters.gather position (argument :: value :: rest) =
      if parameters.isOptionValue value then
        (parameters.gather position rest).addOption value
      else { ending := .misfit } := by
  rw [gather.eq_def]
  simp only [hshape]
  rw [if_neg (not_not_intro rfl)]

end Parameters

namespace Command

/-!
## Reading a call
-/

theorem shape_name (primitive : Primitive) : Argument.shape primitive.name = .plain := by
  cases primitive <;> rfl

theorem shape_bind : Argument.shape "--bind" = .long callParameters.option none := rfl

theorem read?_call (primitive : Primitive) (arguments : List String) :
    read? ("call" :: primitive.name :: arguments) =
      let gathered := callParameters.gather 1 arguments
      match gathered.ending with
      | .complete => some (.call primitive.name gathered.options gathered.positional)
      | .help => some (.help .call)
      | .misfit => none := by
  show readCall _ = _
  rw [readCall, Parameters.gather_of_plain (shape_name primitive)]
  rcases callParameters.gather 1 arguments with ⟨options, positional, ending⟩
  cases ending <;> rfl

theorem read?_argument
    (primitive : Primitive) {text : String} (htaken : Argument.IsTaken text) :
    read? ["call", primitive.name, text] = some (.call primitive.name [] [text]) := by
  rw [read?_call]
  rcases htaken with hshape | hshape
  · rw [Parameters.gather_of_plain hshape]
    rfl
  · rw [Parameters.gather_of_negative hshape rfl]
    rfl

theorem read?_bound
    (primitive : Primitive) {text : String} (htaken : Argument.IsTaken text) :
    read? ["call", primitive.name, "--bind", text] = some (.call primitive.name [text] []) := by
  have htext : callParameters.isOptionValue text = true := by
    rw [Parameters.isOptionValue]
    rcases htaken with hshape | hshape
    · rw [hshape]
    · rw [hshape]
      rfl
  rw [read?_call, Parameters.gather_of_option shape_bind, if_pos htext]
  rfl

theorem read?_argument_short
    (primitive : Primitive) {text : String} (hshape : Argument.shape text = .short) :
    read? ["call", primitive.name, text] = none := by
  rw [read?_call, Parameters.gather_of_short hshape]

theorem read?_bound_short
    (primitive : Primitive) {text : String} (hshape : Argument.shape text = .short) :
    read? ["call", primitive.name, "--bind", text] = none := by
  have htext : ¬callParameters.isOptionValue text = true := by
    rw [Parameters.isOptionValue, hshape]
    exact Bool.false_ne_true
  rw [read?_call, Parameters.gather_of_option shape_bind, if_neg htext]

end Command

namespace Program

/-!
## Calls with written integers
-/

def called (environment : Environment) (function : String) (bind arguments : List String) : Report :=
  let call := CallCommand.run function bind arguments
  (callReport call.result).after (notices environment call.events)

theorem run_call
    {arguments : List String} {function : String} {bind passed : List String}
    (hread : Command.read? arguments = some (.call function bind passed))
    (environment : Environment) :
    run environment arguments = called environment function bind passed := by
  rw [run_of_read?_eq_some hread, report, Recorded.result_map, Recorded.events_map, called]

theorem read_write_of_isInteger {value : Value} (hvalue : value.IsInteger) :
    Literal.read (Literal.write value) = .ok value := by
  cases hvalue with
  | integer number => exact Literal.read_toString_integer number
  | long number => exact Literal.read_toString_long number

/-- The text of an integer or a long is a literal of it.  Given to a call of a core primitive, as its
argument or as the value to bind, it is no usage error just where it is not that of a negative long, and
then the run is the call with it. -/
theorem call_written_integer_iff
    (environment : Environment) (primitive : Primitive) {value : Value}
    (hvalue : value.IsInteger) :
    let text := Literal.write value
    let passing := run environment ["call", primitive.name, text]
    let binding := run environment ["call", primitive.name, "--bind", text]
    Literal.read text = .ok value ∧
      (passing.code ≠ 2 <-> ¬value.IsNegativeLong) ∧
      (binding.code ≠ 2 <-> ¬value.IsNegativeLong) ∧
      (¬value.IsNegativeLong ->
        passing = called environment primitive.name [] [text] ∧
          binding = called environment primitive.name [text] []) := by
  intro text passing binding
  have hpassing : passing.code = 2 <-> _ := code_run_eq_iff environment _
  have hbinding : binding.code = 2 <-> _ := code_run_eq_iff environment _
  refine ⟨read_write_of_isInteger hvalue, ?_⟩
  rcases Argument.isTaken_or_short_write hvalue with ⟨hother, htaken⟩ | ⟨hnegative, hshort⟩
  · have hargument := Command.read?_argument primitive htaken
    have hbound := Command.read?_bound primitive htaken
    refine ⟨iff_of_true ?_ hother, iff_of_true ?_ hother, ?_⟩
    · intro hcode
      cases hargument.symm.trans (hpassing.mp hcode)
    · intro hcode
      cases hbound.symm.trans (hbinding.mp hcode)
    · intro _
      exact ⟨run_call hargument environment, run_call hbound environment⟩
  · have hargument := Command.read?_argument_short primitive hshort
    have hbound := Command.read?_bound_short primitive hshort
    refine ⟨iff_of_false ?_ (not_not_intro hnegative), iff_of_false ?_ (not_not_intro hnegative), ?_⟩
    · intro hcode
      exact hcode (hpassing.mpr hargument)
    · intro hcode
      exact hcode (hbinding.mpr hbound)
    · intro hother
      exact absurd hnegative hother

/-- The lowest integer is taken in both places. -/
theorem call_written_integer_iff_lowest :
    let environment : Environment := { platform := "linux x86_64", files := fun _ => .error "" }
    let lowest : Value := .integer (-2147483648)
    lowest.IsInteger ∧ Literal.write lowest = "-2147483648" ∧
      run environment ["call", "neg", "-2147483648"] =
        called environment "neg" [] ["-2147483648"] ∧
      run environment ["call", "neg", "--bind", "-2147483648"] =
        called environment "neg" ["-2147483648"] [] ∧
      (run environment ["call", "neg", "-2147483648"]).output = "-2147483648\n" := by
  intro environment lowest
  have hvalue : lowest.IsInteger := .integer _
  have hwrite : Literal.write lowest = "-2147483648" := by decide +kernel
  have hother : ¬lowest.IsNegativeLong := by
    intro hlong
    rcases hlong with ⟨number, hnumber, _⟩
    cases Value.boxed.inj hnumber
  rcases call_written_integer_iff environment .neg hvalue with ⟨_, _, _, htaken⟩
  rw [hwrite] at htaken
  rcases htaken hother with ⟨hpassing, hbinding⟩
  exact ⟨hvalue, hwrite, hpassing, hbinding, by decide +kernel⟩

/-- A negative long is refused in both places, although its text is a literal of it and a call with that
text gives an answer. -/
theorem call_written_integer_refused :
    let environment : Environment := { platform := "linux x86_64", files := fun _ => .error "" }
    let negative : Value := .long (-5)
    negative.IsInteger ∧ Literal.write negative = "-5L" ∧ Literal.read "-5L" = .ok negative ∧
      called environment "neg" [] ["-5L"] = .success "5L\n" ∧
      called environment "neg" ["-5L"] [] = .success "5L\n" ∧
      run environment ["call", "neg", "-5L"] = .usage ∧
      run environment ["call", "neg", "--bind", "-5L"] = .usage := by
  intro environment negative
  have hwrite : Literal.write negative = "-5L" := by decide +kernel
  have hread : Literal.read "-5L" = .ok negative :=
    hwrite ▸ read_write_of_isInteger (.long (-5))
  refine ⟨.long _, hwrite, hread, ?_, ?_, ?_, ?_⟩ <;> decide +kernel

end Program
end HostBridge
