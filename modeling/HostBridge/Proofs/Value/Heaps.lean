import HostBridge.Proofs.Value.Boxings

/-!
# Boxing on a heap

Places are handed out one after another, also to the shared handles, which are allocated one by one when
the first of them is wanted.  An integer or a character finds its handle by an offset into a table.  No
offset is outside its table, and the results are those of a pool with their places moved, so the same
handles are one instance.
-/

namespace HostBridge

namespace Machine

structure Tables where
  integers : Array Handle
  characters : Array Handle

/-- The places handed out so far, and the tables once they are made. -/
structure Heap where
  pool : Pool := {}
  tables : Option Tables := none

def allocateAll : List Datum → Pool → List Handle × Pool
  | [], pool => ([], pool)
  | datum :: rest, pool =>
      let (handle, pool) := pool.allocate datum
      let (handles, pool) := allocateAll rest pool
      (handle :: handles, pool)

def sharedIntegers : List Datum :=
  (List.range 384).map fun (offset : Nat) => .integer (Int32.ofInt (Pool.lowestInteger + offset))

def sharedCharacters : List Datum :=
  (List.range 256).map fun code => .character (UInt16.ofNat code)

/-- Each shared handle is allocated by itself, the integers first. -/
def build (pool : Pool) : Tables × Pool :=
  let integers := allocateAll sharedIntegers pool
  let characters := allocateAll sharedCharacters integers.2
  (⟨integers.1.toArray, characters.1.toArray⟩, characters.2)

theorem ok_bind {first second : Type} (given : first) (next : first → Except Panic second) :
    (Except.ok given >>= next) = next given :=
  rfl

def fetch (table : Array Handle) (position : Nat) : Except Panic Handle :=
  entry ⟨table, rfl⟩ position

namespace Heap

def allocate (datum : Datum) (heap : Heap) : Handle × Heap :=
  let (handle, pool) := heap.pool.allocate datum
  (handle, { heap with pool := pool })

def shared (heap : Heap) : Tables × Heap :=
  match heap.tables with
  | some tables => (tables, heap)
  | none =>
      let made := build heap.pool
      (made.1, ⟨made.2, some made.1⟩)

def boxInteger (number : Int32) (heap : Heap) : Except Panic (Handle × Heap) :=
  if Pool.lowestInteger ≤ number.toInt ∧ number.toInt < 256 then do
    let handle ← fetch heap.shared.1.integers (← position number)
    return (handle, heap.shared.2)
  else return heap.allocate (.integer number)

def boxCharacter (unit : UInt16) (heap : Heap) : Except Panic (Handle × Heap) :=
  if unit.toNat < 256 then do
    let handle ← fetch heap.shared.1.characters unit.toNat
    return (handle, heap.shared.2)
  else return heap.allocate (.character unit)

def box (datum : Datum) (heap : Heap) : Except Panic (Handle × Heap) :=
  match datum with
  | .integer number => boxInteger number heap
  | .character unit => boxCharacter unit heap
  | datum => return heap.allocate datum

def perform (call : Boxing) (heap : Heap) : Except Panic (Except Failure Handle × Heap) :=
  match call with
  | .integer number => (heap.boxInteger number).map (Prod.map .ok id)
  | .character unit => (heap.boxCharacter unit).map (Prod.map .ok id)
  | .characterCode code =>
      match characterUnit code.toInt with
      | .ok unit => (heap.boxCharacter unit).map (Prod.map .ok id)
      | .error failure => return (.error failure, heap)
  | .truthValue truth => (heap.boxInteger (if truth then 1 else 0)).map (Prod.map .ok id)
  | .long number => return (heap.allocate (.long number)).map .ok id
  | .single number => return (heap.allocate (.single number)).map .ok id
  | .double number => return (heap.allocate (.double number)).map .ok id
  | .apart datum => return (heap.allocate datum).map .ok id

def run : List Boxing → Heap → Except Panic (List (Except Failure Handle))
  | [], _ => return []
  | call :: rest, heap => do
      let (result, heap) ← heap.perform call
      return result :: (← run rest heap)

end Heap

/-!
## Tables
-/

theorem allocateAll_snd (data : List Datum) (pool : Pool) :
    (allocateAll data pool).2 = ⟨pool.allocated + data.length⟩ := by
  induction data generalizing pool with
  | nil => rfl
  | cons datum rest ih =>
      show (allocateAll rest (pool.allocate datum).2).2 = _
      rw [ih, List.length_cons, Nat.add_comm rest.length, ← Nat.add_assoc]
      rfl

theorem getElem?_allocateAll (data : List Datum) (pool : Pool) (offset : Nat) :
    (allocateAll data pool).1[offset]? =
      data[offset]?.map fun datum => ⟨.fresh (pool.allocated + offset), datum⟩ := by
  induction data generalizing pool offset with
  | nil => rfl
  | cons datum rest ih =>
      cases offset with
      | zero => rfl
      | succ offset =>
          show (allocateAll rest (pool.allocate datum).2).1[offset]? = _
          rw [ih, List.getElem?_cons_succ, Nat.add_comm offset, ← Nat.add_assoc]
          rfl

theorem build_snd (pool : Pool) : (build pool).2 = ⟨pool.allocated + 640⟩ := by
  rw [build]
  rw [allocateAll_snd, allocateAll_snd, sharedIntegers, sharedCharacters, List.length_map,
    List.length_map, List.length_range, List.length_range]

theorem getElem?_integers_build (pool : Pool) {offset : Nat} (hoffset : offset < 384) :
    (build pool).1.integers[offset]? =
      some ⟨.fresh (pool.allocated + offset), .integer (Int32.ofInt (Pool.lowestInteger + offset))⟩ := by
  rw [build]
  rw [List.getElem?_toArray, getElem?_allocateAll, sharedIntegers, List.getElem?_map,
    List.getElem?_range hoffset]
  rfl

theorem getElem?_characters_build (pool : Pool) {offset : Nat} (hoffset : offset < 256) :
    (build pool).1.characters[offset]? =
      some ⟨.fresh (pool.allocated + 384 + offset), .character (UInt16.ofNat offset)⟩ := by
  rw [build]
  rw [List.getElem?_toArray, getElem?_allocateAll, allocateAll_snd, sharedCharacters,
    List.getElem?_map, List.getElem?_range hoffset, sharedIntegers, List.length_map,
    List.length_range]
  rfl

theorem fetch_of_getElem?
    {table : Array Handle} {position : Nat} {handle : Handle}
    (hposition : table[position]? = some handle) : fetch table position = .ok handle := by
  rw [fetch, entry, Vector.getElem?_mk, hposition]

end Machine

/-!
## Places on the heap
-/

namespace Place

/-- Where a place is on a heap whose shared handles stand from some place on. -/
def relocate (base : Nat) : Place → Place
  | .integerSlot slot => .fresh (base + slot)
  | .characterSlot slot => .fresh (base + 384 + slot)
  | .fresh serial => .fresh (if serial < base then serial else serial + 640)

def IsInside : Place → Prop
  | .integerSlot slot => slot < 384
  | .characterSlot slot => slot < 256
  | .fresh _ => True

/-- The place that is moved to an address: the integers stand from the base on, the characters behind
them, and then what is allocated later. -/
def restore (base address : Nat) : Place :=
  if address < base then .fresh address
  else if address < base + 384 then .integerSlot (address - base)
  else if address < base + 640 then .characterSlot (address - (base + 384))
  else .fresh (address - 640)

theorem exists_relocate_eq {place : Place} (hinside : place.IsInside) (base : Nat) :
    exists address, place.relocate base = .fresh address ∧ restore base address = place := by
  cases place with
  | integerSlot slot =>
      have hslot : slot < 384 := hinside
      refine ⟨base + slot, rfl, ?_⟩
      rw [restore, if_neg (by omega), if_pos (by omega), Nat.add_sub_cancel_left]
  | characterSlot slot =>
      have hslot : slot < 256 := hinside
      refine ⟨base + 384 + slot, rfl, ?_⟩
      rw [restore, if_neg (by omega), if_neg (by omega), if_pos (by omega), Nat.add_sub_cancel_left]
  | fresh serial =>
      by_cases hserial : serial < base
      · exact ⟨serial, by rw [relocate, if_pos hserial], by rw [restore, if_pos hserial]⟩
      · refine ⟨serial + 640, by rw [relocate, if_neg hserial], ?_⟩
        rw [restore, if_neg (by omega), if_neg (by omega), if_neg (by omega), Nat.add_sub_cancel]

theorem relocate_inj {base : Nat} {left right : Place}
    (hleft : left.IsInside) (hright : right.IsInside) :
    left.relocate base = right.relocate base <-> left = right := by
  refine ⟨?_, congrArg _⟩
  intro hmoved
  rcases exists_relocate_eq hleft base with ⟨address, haddress, hrestore⟩
  rcases exists_relocate_eq hright base with ⟨address', haddress', hrestore'⟩
  rw [haddress, haddress', fresh.injEq] at hmoved
  rw [← hrestore, ← hrestore', hmoved]

end Place

def Handle.relocate (base : Nat) (handle : Handle) : Handle :=
  ⟨handle.place.relocate base, handle.datum⟩

namespace Machine
namespace Heap

/-!
## Boxing of one datum
-/

def built (base : Nat) (pool : Pool) : Heap :=
  ⟨⟨pool.allocated + 640⟩, some (build ⟨base⟩).1⟩

theorem shared_built (base : Nat) (pool : Pool) :
    (built base pool).shared = ((build ⟨base⟩).1, built base pool) :=
  rfl

theorem shared_unbuilt (pool : Pool) :
    shared ⟨pool, none⟩ = ((build pool).1, built pool.allocated pool) := by
  show ((build pool).1, (⟨(build pool).2, some (build pool).1⟩ : Heap)) = _
  rw [build_snd]
  rfl

theorem allocate_built {base : Nat} {pool : Pool} (hbase : base ≤ pool.allocated) (datum : Datum) :
    (built base pool).allocate datum =
      ((pool.allocate datum).1.relocate base, built base (pool.allocate datum).2) := by
  show (_, (⟨⟨pool.allocated + 640 + 1⟩, some (build ⟨base⟩).1⟩ : Heap)) = _
  rw [Nat.add_right_comm, Pool.allocate, Handle.relocate, Place.relocate,
    if_neg (Nat.not_lt.mpr hbase)]
  rfl

theorem box_built {base : Nat} {pool : Pool} (hbase : base ≤ pool.allocated) (datum : Datum) :
    (built base pool).box datum =
      .ok ((Pool.box datum pool).1.relocate base, built base (Pool.box datum pool).2) := by
  rw [Pool.box_eq]
  cases datum with
  | integer number =>
      rw [box, boxInteger, Datum.slot?]
      split
      · rename_i hnumber
        have hoffset : (number.toInt - Pool.lowestInteger).toNat < 384 := by
          rw [Pool.lowestInteger] at hnumber ⊢
          omega
        have hnumber' : Pool.lowestInteger + ((number.toInt - Pool.lowestInteger).toNat : Int) =
            number.toInt := by
          omega
        have hfetch := fetch_of_getElem? (getElem?_integers_build ⟨base⟩ hoffset)
        rw [hnumber', Int32.ofInt_toInt] at hfetch
        rw [shared_built, position_eq hnumber, ok_bind, hfetch]
        rfl
      · exact congrArg Except.ok (allocate_built hbase _)
  | character unit =>
      rw [box, boxCharacter, Datum.slot?]
      split
      · rename_i hunit
        have hfetch := fetch_of_getElem? (getElem?_characters_build ⟨base⟩ hunit)
        rw [UInt16.ofNat_toNat] at hfetch
        rw [shared_built, hfetch]
        rfl
      · exact congrArg Except.ok (allocate_built hbase _)
  | long number => exact congrArg Except.ok (allocate_built hbase _)
  | single number => exact congrArg Except.ok (allocate_built hbase _)
  | double number => exact congrArg Except.ok (allocate_built hbase _)

theorem box_unbuilt_of_slot
    {datum : Datum} {place : Place} (hslot : datum.slot? = some place) (pool : Pool) :
    box datum ⟨pool, none⟩ = box datum (built pool.allocated pool) := by
  cases datum with
  | integer number =>
      rw [Datum.slot?, Option.ite_none_right_eq_some] at hslot
      rw [box, box, boxInteger, boxInteger, if_pos hslot.1, if_pos hslot.1, shared_unbuilt, shared_built]
  | character unit =>
      rw [Datum.slot?, Option.ite_none_right_eq_some] at hslot
      rw [box, box, boxCharacter, boxCharacter, if_pos hslot.1, if_pos hslot.1, shared_unbuilt,
        shared_built]
  | long number => cases hslot
  | single number => cases hslot
  | double number => cases hslot

theorem box_unbuilt {datum : Datum} (hslot : datum.slot? = none) (pool : Pool) :
    box datum ⟨pool, none⟩ = .ok ((pool.allocate datum).1, ⟨(pool.allocate datum).2, none⟩) := by
  cases datum with
  | integer number =>
      rw [Datum.slot?, ite_eq_right_iff] at hslot
      rw [box, boxInteger, if_neg fun hnumber => by cases hslot hnumber]
      rfl
  | character unit =>
      rw [Datum.slot?, ite_eq_right_iff] at hslot
      rw [box, boxCharacter, if_neg fun hunit => by cases hslot hunit]
      rfl
  | long number => rfl
  | single number => rfl
  | double number => rfl

/-!
## Calls
-/

theorem perform_eq (call : Boxing) (heap : Heap) :
    heap.perform call =
      match call.order with
      | .refuse failure => .ok (.error failure, heap)
      | .box datum => (heap.box datum).map (Prod.map .ok id)
      | .allocate datum => .ok ((heap.allocate datum).map .ok id) := by
  cases call with
  | characterCode code =>
      rw [perform, Boxing.order]
      cases characterUnit code.toInt <;> rfl
  | _ => rfl

theorem perform_built {base : Nat} {pool : Pool} (hbase : base ≤ pool.allocated) (call : Boxing) :
    (built base pool).perform call =
      .ok ((call.perform pool).1.map (Handle.relocate base), built base (call.perform pool).2) := by
  rw [perform_eq, Boxing.perform_eq]
  cases call.order with
  | refuse failure => rfl
  | box datum =>
      show ((built base pool).box datum).map _ = _
      rw [box_built hbase]
      rfl
  | allocate datum =>
      show Except.ok (((built base pool).allocate datum).map _ _) = _
      rw [allocate_built hbase]
      rfl

theorem perform_unbuilt_of_slot
    {call : Boxing} {place : Place} (hslot : call.slot? = some place) (pool : Pool) :
    perform call ⟨pool, none⟩ = perform call (built pool.allocated pool) := by
  rw [perform_eq, perform_eq]
  rw [Boxing.slot?] at hslot
  cases horder : call.order with
  | refuse failure =>
      rw [horder] at hslot
      cases hslot
  | box datum =>
      rw [horder] at hslot
      show (box datum _).map _ = (box datum _).map _
      rw [box_unbuilt_of_slot hslot]
  | allocate datum =>
      rw [horder] at hslot
      cases hslot

theorem perform_unbuilt {call : Boxing} (hslot : call.slot? = none) (pool : Pool) :
    perform call ⟨pool, none⟩ = .ok ((call.perform pool).1, ⟨(call.perform pool).2, none⟩) := by
  rw [perform_eq, Boxing.perform_eq]
  rw [Boxing.slot?] at hslot
  cases horder : call.order with
  | refuse failure => rfl
  | box datum =>
      rw [horder] at hslot
      have hpool : Pool.box datum pool = pool.allocate datum := by
        rw [Pool.box_eq, show datum.slot? = none from hslot]
      show (box datum _).map _ =
        Except.ok (Except.ok (Pool.box datum pool).1, (⟨(Pool.box datum pool).2, none⟩ : Heap))
      rw [box_unbuilt hslot, hpool]
      rfl
  | allocate datum => rfl

theorem run_cons_of_perform
    {call : Boxing} {heap after : Heap} {result : Except Failure Handle}
    (hperform : heap.perform call = .ok (result, after))
    {rest : List Boxing} {results : List (Except Failure Handle)}
    (hrest : run rest after = .ok results) : run (call :: rest) heap = .ok (result :: results) := by
  rw [run, hperform, ok_bind]
  show run rest after >>= _ = _
  rw [hrest]
  rfl

theorem run_built {base : Nat} {pool : Pool} (hbase : base ≤ pool.allocated) (calls : List Boxing) :
    run calls (built base pool) =
      .ok ((Boxing.run calls pool).map (Except.map (Handle.relocate base))) := by
  induction calls generalizing pool with
  | nil => rfl
  | cons call rest ih =>
      have hle := (call.answers_perform pool).allocated_le
      exact run_cons_of_perform (perform_built hbase call) (ih (Nat.le_trans hbase hle))

theorem map_relocate_of_answers
    {base : Nat} {call : Boxing} {pool after : Pool} {result : Except Failure Handle}
    (hanswers : call.Answers pool result after) (hslot : call.slot? = none)
    (hbase : after.allocated ≤ base) : result.map (Handle.relocate base) = result := by
  cases hanswers with
  | refused _ => rfl
  | shared _ hplace =>
      rw [hslot] at hplace
      cases hplace
  | allocated _ _ =>
      show Except.ok (Handle.relocate base _) = _
      rw [Handle.relocate, Place.relocate, if_pos (Nat.lt_of_succ_le hbase)]

theorem exists_run_unbuilt (calls : List Boxing) (pool : Pool) :
    exists base, pool.allocated ≤ base ∧
      run calls ⟨pool, none⟩ =
        .ok ((Boxing.run calls pool).map (Except.map (Handle.relocate base))) := by
  induction calls generalizing pool with
  | nil => exact ⟨pool.allocated, Nat.le_refl _, rfl⟩
  | cons call rest ih =>
      have hanswers := call.answers_perform pool
      cases hslot : call.slot? with
      | some place =>
          refine ⟨pool.allocated, Nat.le_refl _, ?_⟩
          rw [run, perform_unbuilt_of_slot hslot, ← run]
          exact run_built (Nat.le_refl _) (call :: rest)
      | none =>
          rcases ih (call.perform pool).2 with ⟨base, hbase, hrest⟩
          refine ⟨base, Nat.le_trans hanswers.allocated_le hbase, ?_⟩
          rw [Boxing.run, List.map_cons, map_relocate_of_answers hanswers hslot hbase]
          exact run_cons_of_perform (perform_unbuilt hslot pool) hrest

end Heap
end Machine

/-!
## Instances on the heap
-/

namespace Boxing

theorem isInside_of_slot? {call : Boxing} {place : Place} (hslot : call.slot? = some place) :
    place.IsInside := by
  rcases (call.slot?_eq_some_iff place).mp hslot with ⟨number, hnumber, _, rfl⟩ | ⟨unit, hunit, _, rfl⟩
  · show (number.toInt + 128).toNat < 384
    omega
  · exact hunit

theorem Answers.isInside
    {call : Boxing} {pool after : Pool} {handle : Handle}
    (hanswers : Answers call pool (.ok handle) after) : handle.place.IsInside := by
  cases hanswers with
  | shared _ hslot => exact isInside_of_slot? hslot
  | allocated _ _ => trivial

theorem isInside_of_mem_run
    {calls : List Boxing} {pool : Pool} {handle : Handle} (hmem : .ok handle ∈ run calls pool) :
    handle.place.IsInside := by
  induction calls generalizing pool with
  | nil => cases hmem
  | cons call rest ih =>
      rcases List.mem_cons.mp hmem with hcall | hrest
      · have hanswers := call.answers_perform pool
        rw [← hcall] at hanswers
        exact hanswers.isInside
      · exact ih hrest

/-- Moving the places changes neither what handles hold nor which of them are one instance. -/
theorem gives_map_relocate (calls : List Boxing) (pool : Pool) (base : Nat) :
    Gives calls ((run calls pool).map (Except.map (Handle.relocate base))) := by
  have hgives := gives_run calls pool
  refine gives_of ?_ ?_
  · rw [List.map_map, ← hgives.contents]
    refine List.map_congr_left ?_
    intro result _
    cases result <;> rfl
  · have hmoved {position : Nat} {moved : Handle}
        (hposition : ((run calls pool).map (Except.map (Handle.relocate base)))[position]? =
          some (.ok moved)) :
        exists handle, (run calls pool)[position]? = some (.ok handle) ∧
          handle.relocate base = moved := by
      rw [List.getElem?_map, Option.map_eq_some_iff] at hposition
      rcases hposition with ⟨result, hresult, hmap⟩
      cases result with
      | error failure => cases hmap
      | ok handle => exact ⟨handle, hresult, Except.ok.inj hmap⟩
    intro first second call other left right hne hcall hother hleft hright
    rcases hmoved hleft with ⟨first', hfirst, rfl⟩
    rcases hmoved hright with ⟨second', hsecond, rfl⟩
    rw [← hgives.isSame_iff hne hcall hother hfirst hsecond, Handle.isSame, Handle.isSame,
      decide_eq_true_eq, decide_eq_true_eq]
    exact Place.relocate_inj (isInside_of_mem_run (List.mem_of_getElem? hfirst))
      (isInside_of_mem_run (List.mem_of_getElem? hsecond))

/-- A sequence of boxings gives handles that hold what was boxed; two of them are one instance exactly
if one small integer or one small character was boxed, and they are equal exactly if the same was boxed.
The heap on which the shared handles are allocated like all others gives such handles too, and finds
each of them inside its table. -/
theorem boxings_agree (calls : List Boxing) :
    Gives calls (run calls {}) ∧
      exists results, Machine.Heap.run calls {} = .ok results ∧ Gives calls results := by
  refine ⟨gives_run calls {}, ?_⟩
  rcases Machine.Heap.exists_run_unbuilt calls {} with ⟨base, _, hrun⟩
  exact ⟨_, hrun, gives_map_relocate calls {} base⟩

end Boxing
end HostBridge
