import HostBridge.Proofs.Symbol.Runs
import Mathlib.Data.List.Basic

/-!
# Steps

What a run of passes does, line by line: each bound line with the table it finds, and with the table
its pass began with.  The steps of a run carry its tables, and its journal is theirs.
-/

namespace HostBridge

def Event.rebinding? : Event → Option (String × Nat × Nat)
  | .rebound _ name previous index => some (name, previous, index)
  | _ => none

/-- A line that is bound: the number of its pass, the table that the pass began with, the table right
before the line, and the name and the index that the line binds. -/
structure Step where
  pass : Nat
  opening : Table
  before : Table
  name : String
  index : Nat
  deriving DecidableEq, Repr

namespace Step

def after (step : Step) : Table :=
  step.before.bind step.name step.index

def previous? (step : Step) : Option Nat :=
  step.before.index? step.name

def assignment (step : Step) : String × Nat :=
  (step.name, step.index)

def rebinding? (step : Step) : Option (String × Nat × Nat) :=
  step.previous?.map fun previous => (step.name, previous, step.index)

def events (soname : String) (step : Step) : List Event :=
  step.before.bindEvents soname step.name step.index

theorem index?_after (step : Step) (name : String) :
    step.after.index? name =
      if name = step.name then some step.index else step.before.index? name :=
  Table.index?_bind step.before step.name name step.index

theorem events_of_previous
    {step : Step} {previous : Nat} (hprevious : step.previous? = some previous) (soname : String) :
    step.events soname =
      [.bound soname step.name step.index, .rebound soname step.name previous step.index] := by
  rw [previous?] at hprevious
  rw [events, Table.bindEvents, hprevious]

theorem filterMap_assignment?_events (soname : String) (step : Step) :
    (step.events soname).filterMap Event.assignment? = [step.assignment] :=
  Table.filterMap_assignment?_bindEvents soname step.before step.name step.index

theorem filterMap_rebinding?_events (soname : String) (step : Step) :
    (step.events soname).filterMap Event.rebinding? = step.rebinding?.toList := by
  rw [rebinding?]
  cases hprevious : step.previous? with
  | none =>
      rw [previous?] at hprevious
      rw [events, Table.bindEvents, hprevious]
      rfl
  | some previous =>
      rw [events_of_previous hprevious]
      rfl

theorem flatMap_rebinding?_events (soname : String) (steps : List Step) :
    (steps.flatMap fun step => (step.events soname).filterMap Event.rebinding?) =
      steps.filterMap rebinding? := by
  simp only [filterMap_rebinding?_events]
  exact (List.filterMap_eq_flatMap_toList rebinding? steps).symm

theorem rebindings_cons (step : Step) (rest : List Step) :
    (step :: rest).filterMap rebinding? =
      step.rebinding?.toList ++ rest.filterMap rebinding? := by
  rw [List.filterMap_eq_flatMap_toList, List.flatMap_cons, ← List.filterMap_eq_flatMap_toList]

/-!
## Steps in a row
-/

/-- Steps lead from one table to another: the first finds the one, each later step finds what the
step before it leaves, and the last leaves the other. -/
inductive Leads : Table → List Step → Table → Prop where
  | refl (table : Table) : Leads table [] table
  | step (step : Step) {rest : List Step} {final : Table} :
      Leads step.after rest final -> Leads step.before (step :: rest) final

theorem Leads.trans
    {first middle final : Table} {front back : List Step}
    (hfront : Leads first front middle) (hback : Leads middle back final) :
    Leads first (front ++ back) final := by
  induction hfront with
  | refl table => exact hback
  | step step _ ih => exact .step step (ih hback)

theorem Leads.before
    {first final : Table} {front back : List Step} {step : Step}
    (hleads : Leads first (front ++ step :: back) final) :
    Leads first front step.before := by
  induction front generalizing first with
  | nil =>
      cases hleads
      exact .refl _
  | cons other rest ih =>
      cases hleads with
      | step _ hrest => exact .step other (ih hrest)

def IsLast (steps : List Step) (step : Step) : Prop :=
  exists front back,
    steps = front ++ step :: back ∧ forall later, later ∈ back -> later.name ≠ step.name

theorem IsLast.mem {steps : List Step} {step : Step} (hlast : IsLast steps step) :
    step ∈ steps := by
  rcases hlast with ⟨front, back, rfl, _⟩
  exact List.mem_append_right front List.mem_cons_self

theorem IsLast.cons {steps : List Step} {step : Step} (hlast : IsLast steps step) (first : Step) :
    IsLast (first :: steps) step := by
  rcases hlast with ⟨front, back, rfl, hback⟩
  exact ⟨first :: front, back, rfl, hback⟩

theorem Leads.index?_eq
    {first final : Table} {steps : List Step} (hleads : Leads first steps final) (name : String) :
    (exists step, IsLast steps step ∧ step.name = name ∧ final.index? name = some step.index) ∨
      (forall step, step ∈ steps -> step.name ≠ name) ∧ final.index? name = first.index? name := by
  induction hleads with
  | refl table => exact Or.inr ⟨fun _ hstep => absurd hstep List.not_mem_nil, rfl⟩
  | step step _ ih =>
      rcases ih with ⟨last, hlast, hname, hindex⟩ | ⟨hrest, hindex⟩
      · exact Or.inl ⟨last, hlast.cons step, hname, hindex⟩
      · rw [index?_after] at hindex
        by_cases hname : step.name = name
        · rw [if_pos hname.symm] at hindex
          refine Or.inl ⟨step, ⟨[], _, rfl, ?_⟩, hname, hindex⟩
          rw [hname]
          exact hrest
        · rw [if_neg (Ne.symm hname)] at hindex
          exact Or.inr ⟨List.forall_mem_cons.mpr ⟨hname, hrest⟩, hindex⟩

theorem Leads.exists_isLast
    {steps : List Step} {final : Table} {name : String} {index : Nat}
    (hleads : Leads Table.empty steps final) (hindex : final.index? name = some index) :
    exists step, IsLast steps step ∧ step.name = name ∧ step.index = index := by
  rcases hleads.index?_eq name with ⟨step, hlast, hname, hstep⟩ | ⟨_, hempty⟩
  · rw [hindex] at hstep
    cases hstep
    exact ⟨step, hlast, hname, rfl⟩
  · rw [hindex] at hempty
    cases hempty

/-!
## Marks along steps
-/

theorem Leads.highWater_le
    {first final : Table} {steps : List Step} (hleads : Leads first steps final) :
    first.highWater ≤ final.highWater := by
  induction hleads with
  | refl table => exact Nat.le_refl table.highWater
  | step step _ ih => exact Nat.le_trans (Nat.le_max_left _ _) ih

theorem Leads.index_lt_highWater
    {first final : Table} {steps : List Step} (hleads : Leads first steps final)
    {step : Step} (hstep : step ∈ steps) :
    step.index < final.highWater := by
  induction hleads with
  | refl table => cases hstep
  | step other hrest ih =>
      rcases List.mem_cons.mp hstep with rfl | hlater
      · exact Nat.le_trans (Nat.le_max_right _ _) hrest.highWater_le
      · exact ih hlater

end Step

namespace Table

/-!
## Steps of a pass
-/

/-- The steps of a pass that has come to an index, over the names that are left. -/
def stepsFrom (pass : Nat) (opening table : Table) (index : Nat) : List String → List Step
  | [] => []
  | name :: rest =>
      ⟨pass, opening, table, name, index⟩ ::
        stepsFrom pass opening (table.bind name index) (index + 1) rest

def steps (pass : Nat) (table : Table) (names : List String) : List Step :=
  stepsFrom pass table table table.size names

theorem leads_stepsFrom
    (pass : Nat) (opening table : Table) (index : Nat) (names : List String) :
    Step.Leads table (stepsFrom pass opening table index names)
      (table.bindAll (names.zipIdx index)) := by
  induction names generalizing table index with
  | nil => exact .refl table
  | cons name rest ih =>
      exact .step ⟨pass, opening, table, name, index⟩ (ih (table.bind name index) (index + 1))

theorem leads_steps (pass : Nat) (table : Table) (names : List String) :
    Step.Leads table (table.steps pass names) (table.extend names) :=
  leads_stepsFrom pass table table table.size names

theorem mem_stepsFrom
    {pass index : Nat} {opening table : Table} {names : List String} {step : Step}
    (hstep : step ∈ stepsFrom pass opening table index names) :
    step.pass = pass ∧ step.opening = opening ∧ step.name ∈ names ∧ index ≤ step.index := by
  induction names generalizing table index with
  | nil => cases hstep
  | cons name rest ih =>
      rcases List.mem_cons.mp hstep with rfl | hrest
      · exact ⟨rfl, rfl, List.mem_cons_self, Nat.le_refl index⟩
      · rcases ih hrest with ⟨hpass, hopening, hname, hindex⟩
        exact ⟨hpass, hopening, List.mem_cons_of_mem name hname, Nat.le_of_succ_le hindex⟩

theorem length_stepsFrom
    (pass : Nat) (opening table : Table) (index : Nat) (names : List String) :
    (stepsFrom pass opening table index names).length = names.length := by
  induction names generalizing table index with
  | nil => rfl
  | cons name rest ih => rw [stepsFrom, List.length_cons, ih, List.length_cons]

/-!
## Steps of passes
-/

def stepsAll (pass : Nat) (table : Table) : List (List String) → List Step
  | [] => []
  | names :: rest => table.steps pass names ++ (table.extend names).stepsAll (pass + 1) rest

theorem leads_stepsAll (pass : Nat) (table : Table) (passes : List (List String)) :
    Step.Leads table (table.stepsAll pass passes) (table.extendAll passes) := by
  induction passes generalizing pass table with
  | nil => exact .refl table
  | cons names rest ih => exact (leads_steps pass table names).trans (ih (pass + 1) _)

theorem length_stepsAll (pass : Nat) (table : Table) (passes : List (List String)) :
    (table.stepsAll pass passes).length = passes.flatten.length := by
  induction passes generalizing pass table with
  | nil => rfl
  | cons names rest ih =>
      rw [stepsAll, List.length_append, steps, length_stepsFrom, ih, List.flatten_cons,
        List.length_append]

theorem exists_pass_of_mem_stepsAll
    {pass : Nat} {table : Table} {passes : List (List String)} {step : Step}
    (hstep : step ∈ table.stepsAll pass passes) :
    exists earlier names later,
      passes = earlier ++ names :: later ∧
        step.pass = pass + earlier.length ∧
        step ∈ (table.extendAll earlier).steps step.pass names := by
  induction passes generalizing pass table with
  | nil => cases hstep
  | cons names rest ih =>
      rcases List.mem_append.mp hstep with hfirst | hrest
      · have hpass := (mem_stepsFrom hfirst).left
        exact ⟨[], names, rest, rfl, hpass, hpass ▸ hfirst⟩
      · rcases ih hrest with ⟨earlier, others, later, rfl, hpass, hmem⟩
        refine ⟨names :: earlier, others, later, rfl, ?_, hmem⟩
        rw [hpass, List.length_cons]
        omega

/-!
## Journals
-/

def closingEvents (soname : String) (first count : Nat) : Option ReadFault → List Event
  | none => [.loaded soname count first (first + count)]
  | some _ => []

theorem loadFrom_events
    (soname : String) (pass first : Nat) (opening table : Table) (count : Nat)
    (lines : List LineReading) :
    (loadFrom soname first table count lines).events =
      (stepsFrom pass opening table (first + count) (LineReading.names lines)).flatMap
          (Step.events soname) ++
        closingEvents soname first (count + (LineReading.names lines).length)
          (LineReading.fault? lines) := by
  induction lines generalizing table count with
  | nil => rfl
  | cons reading rest ih =>
      cases reading with
      | error fault => rfl
      | ok name =>
          by_cases hempty : name = ""
          · simp [loadFrom, LineReading.names, LineReading.fault?, hempty, stepsFrom, closingEvents]
          · have hcount : count + 1 + (LineReading.names rest).length =
                count + ((LineReading.names rest).length + 1) := by omega
            simp [loadFrom, LineReading.names, LineReading.fault?, hempty, stepsFrom, Pass.after, ih,
              Step.events, Nat.add_assoc, hcount]

/-- A pass warns where it starts low, then logs its steps one by one, and a summary if it
succeeds. -/
theorem load_events (soname : String) (pass : Nat) (table : Table) (lines : List LineReading) :
    (table.load soname lines).events =
      table.startEvents soname ++
        ((table.steps pass (LineReading.names lines)).flatMap (Step.events soname) ++
          closingEvents soname table.size (LineReading.names lines).length
            (LineReading.fault? lines)) := by
  have h := loadFrom_events soname pass table.size table table 0 lines
  rw [Nat.zero_add] at h
  rw [load, Pass.after, h]
  rfl

theorem filterMap_load_events
    {α : Type} {kind : Event → Option α}
    (hstart : forall soname first highWater, kind (.startedLow soname first highWater) = none)
    (hclosing : forall soname count first next, kind (.loaded soname count first next) = none)
    (soname : String) (pass : Nat) (table : Table) (lines : List LineReading) :
    (table.load soname lines).events.filterMap kind =
      (table.steps pass (LineReading.names lines)).flatMap fun step =>
        (step.events soname).filterMap kind := by
  have hwarning : (table.startEvents soname).filterMap kind = [] := by
    rw [startEvents]
    split
    · rw [List.filterMap_cons_none (hstart _ _ _), List.filterMap_nil]
    · rfl
  have hsummary : forall first count fault,
      (closingEvents soname first count fault).filterMap kind = [] := by
    intro first count fault
    cases fault with
    | none => rw [closingEvents, List.filterMap_cons_none (hclosing _ _ _ _), List.filterMap_nil]
    | some fault => rfl
  rw [load_events soname pass, List.filterMap_append, List.filterMap_append, hwarning, hsummary,
    List.nil_append, List.append_nil, List.filterMap_flatMap]

end Table

namespace Library

def steps (library : Library) (streams : List Stream) : List Step :=
  library.table.stepsAll 0 (passNames streams)

theorem leads_steps (library : Library) (streams : List Stream) :
    Step.Leads library.table (library.steps streams) (library.after streams).table := by
  rw [table_after]
  exact Table.leads_stepsAll 0 library.table (passNames streams)

theorem highWater_after_le (host : Host) (streams : List Stream) :
    ((fresh host).after streams).table.highWater ≤ ((fresh host).steps streams).length := by
  have hempty : (fresh host).table.highWater ≤ 0 := Nat.le_refl 0
  have hmark := (Table.extendAll_le (Nat.le_refl 0) hempty (passNames streams)).right
  rw [table_after, steps, Table.length_stepsAll]
  rw [Nat.zero_add] at hmark
  exact hmark

theorem loadAll_events_cons (library : Library) (stream : Stream) (rest : List Stream) :
    (library.loadAll (stream :: rest)).events =
      (library.load stream).events ++ ((library.load stream).result.2.loadAll rest).events := by
  simp [loadAll, Recorded.events, Bind.bind, Pure.pure, Recorded.after]

theorem load_events_isInfix (library : Library) (earlier : List Stream) (stream : Stream)
    (later : List Stream) :
    ((library.after earlier).load stream).events <:+:
      (library.loadAll (earlier ++ stream :: later)).events := by
  induction earlier generalizing library with
  | nil =>
      rw [List.nil_append, loadAll_events_cons]
      exact (List.prefix_append _ _).isInfix
  | cons first rest ih =>
      rw [List.cons_append, loadAll_events_cons]
      exact (ih (library.load first).result.2).trans (List.suffix_append _ _).isInfix

/-- The journal of a run, of a kind of which neither a pass's warning nor its summary is, comes from
its steps in order. -/
theorem filterMap_loadAll_events
    {α : Type} {kind : Event → Option α}
    (hstart : forall soname first highWater, kind (.startedLow soname first highWater) = none)
    (hclosing : forall soname count first next, kind (.loaded soname count first next) = none)
    (library : Library) (streams : List Stream) (pass : Nat) :
    (library.loadAll streams).events.filterMap kind =
      (library.table.stepsAll pass (passNames streams)).flatMap fun step =>
        (step.events library.soname).filterMap kind := by
  induction streams generalizing library pass with
  | nil => rfl
  | cons stream rest ih =>
      rw [loadAll_events_cons, List.filterMap_append, load_events,
        Table.filterMap_load_events hstart hclosing library.soname pass, ih _ (pass + 1),
        load_library]
      exact List.flatMap_append.symm

theorem loadAll_assignments (library : Library) (streams : List Stream) :
    (library.loadAll streams).events.filterMap Event.assignment? =
      (library.steps streams).map Step.assignment := by
  rw [filterMap_loadAll_events (fun _ _ _ => rfl) (fun _ _ _ _ => rfl) library streams 0]
  simp only [Step.filterMap_assignment?_events]
  exact List.map_eq_flatMap.symm

theorem loadAll_rebindings (library : Library) (streams : List Stream) :
    (library.loadAll streams).events.filterMap Event.rebinding? =
      (library.steps streams).filterMap Step.rebinding? := by
  rw [filterMap_loadAll_events (fun _ _ _ => rfl) (fun _ _ _ _ => rfl) library streams 0,
    Step.flatMap_rebinding?_events, steps]

theorem load_rebindings (library : Library) (stream : Stream) (pass : Nat) :
    (library.load stream).events.filterMap Event.rebinding? =
      (library.table.steps pass (LineReading.names stream.lines)).filterMap Step.rebinding? := by
  rw [load_events, Table.filterMap_load_events (fun _ _ _ => rfl) (fun _ _ _ _ => rfl) _ pass,
    Step.flatMap_rebinding?_events]

theorem exists_pass_of_mem_steps
    {library : Library} {streams : List Stream} {step : Step}
    (hstep : step ∈ library.steps streams) :
    exists earlier stream later,
      streams = earlier ++ stream :: later ∧
        step.pass = earlier.length ∧
        step.opening = (library.after earlier).table ∧
        step ∈ step.opening.steps step.pass (LineReading.names stream.lines) := by
  rcases Table.exists_pass_of_mem_stepsAll hstep with ⟨front, names, back, hpasses, hpass, hmem⟩
  rcases List.map_eq_append_iff.mp hpasses with ⟨earlier, others, rfl, rfl, hothers⟩
  rcases List.map_eq_cons_iff.mp hothers with ⟨stream, later, rfl, rfl, rfl⟩
  have hopening : step.opening = (library.after earlier).table := by
    rw [table_after]
    exact (Table.mem_stepsFrom hmem).right.left
  rw [List.length_map, Nat.zero_add] at hpass
  refine ⟨earlier, stream, later, rfl, hpass, hopening, ?_⟩
  rw [hopening, table_after]
  exact hmem

theorem events_isInfix_of_mem_steps
    {library : Library} {streams : List Stream} {step : Step}
    (hstep : step ∈ library.steps streams) :
    step.events library.soname <:+: (library.loadAll streams).events := by
  rcases exists_pass_of_mem_steps hstep with ⟨earlier, stream, later, rfl, _, hopening, hmem⟩
  rw [hopening] at hmem
  have hsteps : step.events library.soname <:+:
      ((library.after earlier).table.steps step.pass (LineReading.names stream.lines)).flatMap
        (Step.events library.soname) := by
    rw [List.flatMap_def]
    exact List.infix_of_mem_flatten (List.mem_map_of_mem hmem)
  have hpass : step.events library.soname <:+: ((library.after earlier).load stream).events := by
    rw [load_events, Table.load_events _ step.pass, soname_after]
    exact hsteps.trans (List.infix_append' _ _ _)
  exact hpass.trans (load_events_isInfix library earlier stream later)

end Library
end HostBridge
