import HostBridge.Proofs.Primitive.Panics

/-!
# Sequences of boxings

A boxing gives a handle that holds what was boxed.  Two of a sequence give one instance exactly if they
box one small integer, or one small character; all else has a place of its own.  Handles are equal
exactly if what was boxed is.
-/

namespace HostBridge

/-- The calls that give a handle.  The last takes a place of its own for any datum. -/
inductive Boxing where
  | integer (number : Int32)
  | character (unit : UInt16)
  | characterCode (code : Int64)
  | truthValue (truth : Bool)
  | long (number : Int64)
  | single (number : Single)
  | double (number : Double)
  | apart (datum : Datum)
  deriving DecidableEq, Repr

namespace Boxing

def perform : Boxing → Pool → Except Failure Handle × Pool
  | .integer number, pool => (pool.boxInteger number).map .ok id
  | .character unit, pool => (pool.boxCharacter unit).map .ok id
  | .characterCode code, pool =>
      match pool.boxCharacterCode code with
      | .ok given => given.map .ok id
      | .error failure => (.error failure, pool)
  | .truthValue truth, pool => (pool.boxTruth truth).map .ok id
  | .long number, pool => (pool.boxLong number).map .ok id
  | .single number, pool => (pool.boxSingle number).map .ok id
  | .double number, pool => (pool.boxDouble number).map .ok id
  | .apart datum, pool => (pool.allocate datum).map .ok id

def run : List Boxing → Pool → List (Except Failure Handle)
  | [], _ => []
  | call :: rest, pool => (call.perform pool).1 :: run rest (call.perform pool).2

def content : Boxing → Except Failure Datum
  | .integer number => .ok (.integer number)
  | .character unit => .ok (.character unit)
  | .characterCode code => (characterUnit code.toInt).map .character
  | .truthValue truth => .ok (.ofBool truth)
  | .long number => .ok (.long number)
  | .single number => .ok (.single number)
  | .double number => .ok (.double number)
  | .apart datum => .ok datum

def integer? : Boxing → Option Int32
  | .integer number => some number
  | .truthValue truth => some (if truth then 1 else 0)
  | _ => none

def character? : Boxing → Option UInt16
  | .character unit => some unit
  | .characterCode code => (characterUnit code.toInt).toOption
  | _ => none

/-- Both calls box one integer from -128 to 255, or one character below 256. -/
def Shares (left right : Boxing) : Prop :=
  (exists number : Int32, (-128 ≤ number.toInt ∧ number.toInt < 256) ∧
      left.integer? = some number ∧ right.integer? = some number) ∨
    exists unit : UInt16, unit.toNat < 256 ∧
      left.character? = some unit ∧ right.character? = some unit

/-- Longs and floating numbers are never shared, and neither is what is put apart. -/
def IsWide : Boxing → Prop
  | .long _ | .single _ | .double _ | .apart _ => True
  | _ => False

structure Gives (calls : List Boxing) (results : List (Except Failure Handle)) : Prop where
  contents : results.map (Except.map Handle.datum) = calls.map content
  isSame_iff : forall {first second : Nat} {call other : Boxing} {left right : Handle},
    first ≠ second -> calls[first]? = some call -> calls[second]? = some other ->
      results[first]? = some (.ok left) -> results[second]? = some (.ok right) ->
        (left.isSame right = true <-> call.Shares other)
  wide_apart : forall {first second : Nat} {call : Boxing} {left right : Handle},
    first ≠ second -> calls[first]? = some call -> call.IsWide ->
      results[first]? = some (.ok left) -> results[second]? = some (.ok right) ->
        left.isSame right = false ∧ right.isSame left = false
  beq_iff : forall {first second : Nat} {call other : Boxing} {left right : Handle},
    calls[first]? = some call -> calls[second]? = some other ->
      results[first]? = some (.ok left) -> results[second]? = some (.ok right) ->
        ((left == right) = true <-> call.content = other.content)

end Boxing

/-!
## Slots
-/

def Datum.slot? : Datum → Option Place
  | .integer number =>
      if Pool.lowestInteger ≤ number.toInt ∧ number.toInt < 256 then
        some (.integerSlot (number.toInt - Pool.lowestInteger).toNat)
      else none
  | .character unit => if unit.toNat < 256 then some (.characterSlot unit.toNat) else none
  | _ => none

namespace Pool

theorem eq_mk {handle : Handle} {place : Place} {datum : Datum}
    (hplace : handle.place = place) (hdatum : handle.datum = datum) : handle = ⟨place, datum⟩ := by
  rw [← hplace, ← hdatum]

theorem place_integers (slot : Nat) (hslot : slot < 384) :
    integers[slot].place = .integerSlot slot := by
  simp only [integers, Vector.getElem_ofFn]

theorem place_characters (slot : Nat) (hslot : slot < 256) :
    characters[slot].place = .characterSlot slot := by
  simp only [characters, Vector.getElem_ofFn]

theorem box_eq (datum : Datum) (pool : Pool) :
    box datum pool =
      match datum.slot? with
      | some place => (⟨place, datum⟩, pool)
      | none => pool.allocate datum := by
  cases datum with
  | integer number =>
      have hdatum := datum_boxInteger number pool
      rw [box, Datum.slot?]
      rw [boxInteger] at hdatum ⊢
      split
      · rename_i hnumber
        rw [dif_pos hnumber] at hdatum
        exact Prod.ext (eq_mk (place_integers _ _) hdatum) rfl
      · rfl
  | character unit =>
      have hdatum := datum_boxCharacter unit pool
      rw [box, Datum.slot?]
      rw [boxCharacter] at hdatum ⊢
      split
      · rename_i hunit
        rw [dif_pos hunit] at hdatum
        exact Prod.ext (eq_mk (place_characters _ _) hdatum) rfl
      · rfl
  | long number => rfl
  | single number => rfl
  | double number => rfl

/-- Both ends of the shared integers. -/
example :
    (Datum.integer (-129)).slot? = none ∧ (Datum.integer (-128)).slot? = some (.integerSlot 0) ∧
      (Datum.integer 255).slot? = some (.integerSlot 383) ∧ (Datum.integer 256).slot? = none := by
  decide

end Pool

namespace Boxing

/-- What a call comes down to. -/
inductive Order where
  | refuse (failure : Failure)
  | box (datum : Datum)
  | allocate (datum : Datum)

def order : Boxing → Order
  | .integer number => .box (.integer number)
  | .character unit => .box (.character unit)
  | .characterCode code =>
      match characterUnit code.toInt with
      | .ok unit => .box (.character unit)
      | .error failure => .refuse failure
  | .truthValue truth => .box (.ofBool truth)
  | .long number => .box (.long number)
  | .single number => .box (.single number)
  | .double number => .box (.double number)
  | .apart datum => .allocate datum

def slot? (call : Boxing) : Option Place :=
  match call.order with
  | .box datum => datum.slot?
  | _ => none

theorem perform_eq (call : Boxing) (pool : Pool) :
    call.perform pool =
      match call.order with
      | .refuse failure => (.error failure, pool)
      | .box datum => (Pool.box datum pool).map .ok id
      | .allocate datum => (pool.allocate datum).map .ok id := by
  cases call with
  | characterCode code =>
      rw [perform, Pool.boxCharacterCode, order]
      cases characterUnit code.toInt <;> rfl
  | _ => rfl

theorem content_eq (call : Boxing) :
    call.content =
      match call.order with
      | .refuse failure => .error failure
      | .box datum => .ok datum
      | .allocate datum => .ok datum := by
  cases call with
  | characterCode code =>
      rw [content, order]
      cases characterUnit code.toInt <;> rfl
  | _ => rfl

theorem slot?_eq_some_iff (call : Boxing) (place : Place) :
    call.slot? = some place <->
      (exists number : Int32, (-128 ≤ number.toInt ∧ number.toInt < 256) ∧
          call.integer? = some number ∧ .integerSlot (number.toInt + 128).toNat = place) ∨
        exists unit : UInt16, unit.toNat < 256 ∧
          call.character? = some unit ∧ .characterSlot unit.toNat = place := by
  have hinteger (number : Int32) :
      (Datum.integer number).slot? = some place <->
        (-128 ≤ number.toInt ∧ number.toInt < 256) ∧
          .integerSlot (number.toInt + 128).toNat = place := by
    rw [Datum.slot?, Pool.lowestInteger, Int.sub_neg, Option.ite_none_right_eq_some, Option.some.injEq]
  have hcharacter (unit : UInt16) :
      (Datum.character unit).slot? = some place <->
        unit.toNat < 256 ∧ .characterSlot unit.toNat = place := by
    rw [Datum.slot?, Option.ite_none_right_eq_some, Option.some.injEq]
  cases call with
  | integer number => simp [slot?, order, hinteger, integer?, character?]
  | character unit => simp [slot?, order, hcharacter, integer?, character?]
  | characterCode code =>
      cases hunit : characterUnit code.toInt with
      | error failure => simp [slot?, order, hunit, integer?, character?, Except.toOption]
      | ok unit => simp [slot?, order, hunit, hcharacter, integer?, character?, Except.toOption]
  | truthValue truth => simp [slot?, order, Datum.ofBool, hinteger, integer?, character?]
  | long number => simp [slot?, order, Datum.slot?, integer?, character?]
  | single number => simp [slot?, order, Datum.slot?, integer?, character?]
  | double number => simp [slot?, order, Datum.slot?, integer?, character?]
  | apart datum => simp [slot?, order, integer?, character?]

/-!
## Steps of a sequence
-/

inductive Answers (call : Boxing) (pool : Pool) : Except Failure Handle → Pool → Prop where
  | refused {failure : Failure} :
      call.content = .error failure -> Answers call pool (.error failure) pool
  | shared {datum : Datum} {place : Place} :
      call.content = .ok datum -> call.slot? = some place ->
      Answers call pool (.ok ⟨place, datum⟩) pool
  | allocated {datum : Datum} :
      call.content = .ok datum -> call.slot? = none ->
      Answers call pool (.ok ⟨.fresh pool.allocated, datum⟩) ⟨pool.allocated + 1⟩

theorem answers_perform (call : Boxing) (pool : Pool) :
    Answers call pool (call.perform pool).1 (call.perform pool).2 := by
  have hcontent := call.content_eq
  rw [perform_eq]
  cases horder : call.order with
  | refuse failure =>
      rw [horder] at hcontent
      exact .refused hcontent
  | box datum =>
      have hslot : call.slot? = datum.slot? := by rw [slot?, horder]
      rw [horder] at hcontent
      show Answers call pool (.ok (Pool.box datum pool).1) (Pool.box datum pool).2
      rw [Pool.box_eq]
      cases hdatum : datum.slot? with
      | some place => exact .shared hcontent (hslot.trans hdatum)
      | none => exact .allocated hcontent (hslot.trans hdatum)
  | allocate datum =>
      rw [horder] at hcontent
      exact .allocated hcontent (by rw [slot?, horder])

theorem Answers.map_datum
    {call : Boxing} {pool after : Pool} {result : Except Failure Handle}
    (hanswers : Answers call pool result after) : result.map Handle.datum = call.content := by
  cases hanswers with
  | refused hcontent => exact hcontent.symm
  | shared hcontent _ => exact hcontent.symm
  | allocated hcontent _ => exact hcontent.symm

theorem Answers.allocated_le
    {call : Boxing} {pool after : Pool} {result : Except Failure Handle}
    (hanswers : Answers call pool result after) : pool.allocated ≤ after.allocated := by
  cases hanswers with
  | refused _ => exact Nat.le_refl _
  | shared _ _ => exact Nat.le_refl _
  | allocated _ _ => exact Nat.le_succ _

theorem map_datum_run (calls : List Boxing) (pool : Pool) :
    (run calls pool).map (Except.map Handle.datum) = calls.map content := by
  induction calls generalizing pool with
  | nil => rfl
  | cons call rest ih => rw [run, List.map_cons, List.map_cons, (answers_perform call pool).map_datum, ih]

/-!
## Instances of a sequence
-/

theorem shares_iff (left right : Boxing) :
    left.Shares right <-> exists place, left.slot? = some place ∧ right.slot? = some place := by
  simp only [slot?_eq_some_iff]
  constructor
  · intro hshares
    rcases hshares with ⟨number, hnumber, hleft, hright⟩ | ⟨unit, hunit, hleft, hright⟩
    · exact ⟨_, Or.inl ⟨number, hnumber, hleft, rfl⟩, Or.inl ⟨number, hnumber, hright, rfl⟩⟩
    · exact ⟨_, Or.inr ⟨unit, hunit, hleft, rfl⟩, Or.inr ⟨unit, hunit, hright, rfl⟩⟩
  · intro hplaces
    rcases hplaces with ⟨place, ⟨number, hnumber, hleft, rfl⟩ | ⟨unit, hunit, hleft, rfl⟩,
      ⟨other, hother, hright, hplace⟩ | ⟨other, hother, hright, hplace⟩⟩
    · injection hplace with hslot
      have heq : other = number := by
        rw [← Int32.toInt_inj]
        omega
      exact Or.inl ⟨number, hnumber, hleft, heq ▸ hright⟩
    · cases hplace
    · cases hplace
    · injection hplace with hslot
      exact Or.inr ⟨unit, hunit, hleft, UInt16.toNat_inj.mp hslot ▸ hright⟩

theorem Shares.symm {left right : Boxing} (hshares : left.Shares right) : right.Shares left := by
  rw [shares_iff] at hshares ⊢
  rcases hshares with ⟨place, hleft, hright⟩
  exact ⟨place, hright, hleft⟩

theorem slot?_ne_fresh (call : Boxing) (serial : Nat) : call.slot? ≠ some (.fresh serial) := by
  intro hslot
  rcases (slot?_eq_some_iff call _).mp hslot with ⟨_, _, _, hplace⟩ | ⟨_, _, _, hplace⟩ <;> cases hplace

/-- Where the handle of a call stands: at the shared place, or at a place of its own that is not below
a bound. -/
inductive Stands (call : Boxing) (least : Nat) (handle : Handle) : Prop where
  | shared : call.slot? = some handle.place -> Stands call least handle
  | allocated {serial : Nat} :
      call.slot? = none -> least ≤ serial -> handle.place = .fresh serial -> Stands call least handle

theorem Answers.stands
    {call : Boxing} {pool after : Pool} {handle : Handle}
    (hanswers : Answers call pool (.ok handle) after) : Stands call pool.allocated handle := by
  cases hanswers with
  | shared _ hslot => exact .shared hslot
  | allocated _ hslot => exact .allocated hslot (Nat.le_refl _) rfl

theorem stands_of_mem_zip
    {calls : List Boxing} {pool : Pool} {call : Boxing} {handle : Handle}
    (hmem : (call, .ok handle) ∈ calls.zip (run calls pool)) :
    Stands call pool.allocated handle := by
  induction calls generalizing pool with
  | nil => cases hmem
  | cons first rest ih =>
      have hfirst := answers_perform first pool
      rw [run, List.zip_cons_cons, List.mem_cons, Prod.mk.injEq] at hmem
      rcases hmem with ⟨rfl, hhandle⟩ | hmem
      · rw [← hhandle] at hfirst
        exact hfirst.stands
      · cases ih hmem with
        | shared hslot => exact .shared hslot
        | allocated hslot hle hplace =>
            exact .allocated hslot (Nat.le_trans hfirst.allocated_le hle) hplace

/-- Places of their own are handed out one after another, so what comes later has another one. -/
theorem isSame_iff_of_stands
    {call other : Boxing} {pool after : Pool} {left right : Handle}
    (hanswers : Answers call pool (.ok left) after) (hright : Stands other after.allocated right) :
    left.isSame right = true <-> call.Shares other := by
  rw [shares_iff, Handle.isSame, decide_eq_true_eq]
  cases hanswers with
  | shared _ hslot =>
      rw [hslot]
      cases hright with
      | shared hother =>
          simp only [hother, Option.some.injEq, exists_eq_left', eq_comm]
      | allocated hother _ hplace =>
          simp only [hother, reduceCtorEq, and_false, exists_false, iff_false, hplace]
          intro hfresh
          exact slot?_ne_fresh call _ (hfresh ▸ hslot)
  | allocated _ hslot =>
      rw [hslot]
      cases hright with
      | shared hother =>
          simp only [reduceCtorEq, false_and, exists_false, iff_false]
          intro hplace
          exact slot?_ne_fresh other _ (hplace ▸ hother)
      | allocated _ hle hplace =>
          simp only [reduceCtorEq, false_and, exists_false, iff_false, hplace, Place.fresh.injEq]
          exact Nat.ne_of_lt hle

theorem pairwise_isSame_iff (calls : List Boxing) (pool : Pool) :
    (calls.zip (run calls pool)).Pairwise fun first second =>
      forall left right, first.2 = .ok left -> second.2 = .ok right ->
        (left.isSame right = true <-> first.1.Shares second.1) := by
  induction calls generalizing pool with
  | nil => exact List.Pairwise.nil
  | cons call rest ih =>
      have hcall := answers_perform call pool
      rw [run, List.zip_cons_cons]
      refine List.Pairwise.cons ?_ (ih _)
      intro second hmem left right hleft hright
      rcases second with ⟨other, result⟩
      cases hright
      rw [show (call.perform pool).1 = .ok left from hleft] at hcall
      exact isSame_iff_of_stands hcall (stands_of_mem_zip hmem)

/-!
## What a sequence gives
-/

section Results

variable {calls : List Boxing} {results : List (Except Failure Handle)}

theorem exists_call
    (hcontents : results.map (Except.map Handle.datum) = calls.map content)
    {position : Nat} {handle : Handle} (hhandle : results[position]? = some (.ok handle)) :
    exists call, calls[position]? = some call ∧ call.content = .ok handle.datum := by
  have hposition := congrArg (·[position]?) hcontents
  simp only [List.getElem?_map, hhandle, Option.map_some] at hposition
  rcases Option.map_eq_some_iff.mp hposition.symm with ⟨call, hcall, hcontent⟩
  exact ⟨call, hcall, hcontent⟩

theorem IsWide.not_shares {call : Boxing} (hwide : call.IsWide) (other : Boxing) :
    ¬call.Shares other := by
  rw [shares_iff]
  intro hshares
  rcases hshares with ⟨place, hslot, _⟩
  have hnone : call.slot? = none := by
    cases call <;> first | rfl | exact hwide.elim
  rw [hnone] at hslot
  cases hslot

theorem gives_of
    (hcontents : results.map (Except.map Handle.datum) = calls.map content)
    (hsame : forall {first second : Nat} {call other : Boxing} {left right : Handle},
      first ≠ second -> calls[first]? = some call -> calls[second]? = some other ->
        results[first]? = some (.ok left) -> results[second]? = some (.ok right) ->
          (left.isSame right = true <-> call.Shares other)) :
    Gives calls results where
  contents := hcontents
  isSame_iff := hsame
  wide_apart := by
    intro first second call left right hne hcall hwide hleft hright
    rcases exists_call hcontents hright with ⟨other, hother, _⟩
    rw [Bool.eq_false_iff, Bool.eq_false_iff, Ne, Ne, hsame hne hcall hother hleft hright,
      hsame hne.symm hother hcall hright hleft]
    exact ⟨hwide.not_shares other, fun hshares => hwide.not_shares other hshares.symm⟩
  beq_iff := by
    intro first second call other left right hcall hother hleft hright
    rcases exists_call hcontents hleft with ⟨call', hcall', hcontent⟩
    rcases exists_call hcontents hright with ⟨other', hother', hcontent'⟩
    rw [hcall, Option.some.injEq] at hcall'
    rw [hother, Option.some.injEq] at hother'
    rw [hcall', hother', hcontent, hcontent', Except.ok.injEq]
    exact beq_iff_eq (a := left.datum) (b := right.datum)

end Results

theorem gives_run (calls : List Boxing) (pool : Pool) : Gives calls (run calls pool) := by
  refine gives_of (map_datum_run calls pool) ?_
  have hlater {first second : Nat} {call other : Boxing} {left right : Handle}
      (hlt : first < second) (hcall : calls[first]? = some call) (hother : calls[second]? = some other)
      (hleft : (run calls pool)[first]? = some (.ok left))
      (hright : (run calls pool)[second]? = some (.ok right)) :
      left.isSame right = true <-> call.Shares other := by
    have hfirst : (calls.zip (run calls pool))[first]? = some (call, .ok left) :=
      List.getElem?_zip_eq_some.mpr ⟨hcall, hleft⟩
    have hsecond : (calls.zip (run calls pool))[second]? = some (other, .ok right) :=
      List.getElem?_zip_eq_some.mpr ⟨hother, hright⟩
    rcases List.getElem?_eq_some_iff.mp hfirst with ⟨hi, hfirst⟩
    rcases List.getElem?_eq_some_iff.mp hsecond with ⟨hj, hsecond⟩
    have hpair := List.pairwise_iff_getElem.mp (pairwise_isSame_iff calls pool) first second hi hj hlt
    rw [hfirst, hsecond] at hpair
    exact hpair left right rfl rfl
  intro first second call other left right hne hcall hother hleft hright
  rcases Nat.lt_or_gt_of_ne hne with hlt | hgt
  · exact hlater hlt hcall hother hleft hright
  · have hturned := hlater hgt hother hcall hright hleft
    rw [Handle.isSame, decide_eq_true_eq] at hturned ⊢
    rw [eq_comm, hturned]
    exact ⟨Shares.symm, Shares.symm⟩

end Boxing

end HostBridge
