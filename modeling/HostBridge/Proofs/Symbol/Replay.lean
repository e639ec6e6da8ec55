import HostBridge.Proofs.Symbol.Indices
import HostBridge.Proofs.Symbol.Splitting

/-!
# What the journal of a run tells

The bind messages of a run, put one after another into an ordered map, make the table that the run
leaves, and those before a line make the table that the line finds.  So a warning stands behind a bind
message just where an earlier message bound the name, and gives the index of the last one that did.
-/

namespace HostBridge

theorem exists_behind_of_not_mem
    {α : Type} {start rest front back : List α} {item : α} (hstart : item ∉ start)
    (hsplit : start ++ rest = front ++ item :: back) :
    exists later, front = start ++ later ∧ rest = later ++ item :: back := by
  rcases List.append_eq_append_iff.mp hsplit with ⟨later, hfront, hrest⟩ | ⟨surplus, hsurplus, hitem⟩
  · exact ⟨later, hfront, hrest⟩
  · cases surplus with
    | nil =>
        rw [List.append_nil] at hsurplus
        exact ⟨[], by rw [hsurplus, List.append_nil], hitem.symm⟩
    | cons first more =>
        cases hitem
        exact absurd (hsurplus ▸ List.mem_append_right front List.mem_cons_self) hstart

/-!
## Ordered maps
-/

/-- Insert a binding at the end of an ordered map, or overwrite the one of its name in its place. -/
def put (entries : List (String × Nat)) (binding : String × Nat) : List (String × Nat) :=
  if binding.1 ∈ entries.map Prod.fst then
    entries.map fun entry => if entry.1 = binding.1 then binding else entry
  else
    entries ++ [binding]

def replay (events : List Event) : List (String × Nat) :=
  (events.filterMap Event.assignment?).foldl put []

theorem map_overwrite_of_not_mem
    {name : String} {entries : List (String × Nat)} (hname : name ∉ entries.map Prod.fst)
    (index : Nat) :
    (entries.map fun entry => if entry.1 = name then (name, index) else entry) = entries := by
  rw [List.map_congr_left (g := id), List.map_id]
  intro entry hentry
  have hne : entry.1 ≠ name := fun h => hname (h ▸ List.mem_map_of_mem hentry)
  exact if_neg hne

namespace Table

theorem assign_of_mem
    {name : String} {bindings : List (String × Nat)} (hnodup : (bindings.map Prod.fst).Nodup)
    (hname : name ∈ bindings.map Prod.fst) (index : Nat) :
    assign name index bindings =
      bindings.map fun entry => if entry.1 = name then (name, index) else entry := by
  induction bindings with
  | nil => cases hname
  | cons binding rest ih =>
      rcases binding with ⟨known, old⟩
      rw [List.map_cons, List.nodup_cons] at hnodup
      rw [assign, List.map_cons]
      by_cases hknown : known = name
      · subst hknown
        rw [if_pos rfl, if_pos rfl, map_overwrite_of_not_mem hnodup.left]
      · have hrest : name ∈ rest.map Prod.fst :=
          (List.mem_cons.mp hname).resolve_left (Ne.symm hknown)
        rw [if_neg hknown, if_neg hknown, ih hnodup.right hrest]

theorem bindings_bind {table : Table} (hnames : table.names.Nodup) (name : String) (index : Nat) :
    (table.bind name index).bindings = put table.bindings (name, index) := by
  rw [bind, put]
  by_cases hname : name ∈ table.bindings.map Prod.fst
  · rw [if_pos hname]
    exact assign_of_mem hnames hname index
  · rw [if_neg hname]
    exact assign_of_not_mem hname index

end Table

namespace Step

/-!
## Replaying steps
-/

def warning (soname : String) (step : Step) : List Event :=
  match step.previous? with
  | some previous => [.rebound soname step.name previous step.index]
  | none => []

theorem events_eq (soname : String) (step : Step) :
    step.events soname = .bound soname step.name step.index :: step.warning soname := rfl

theorem filterMap_assignment?_flatMap_events (soname : String) (steps : List Step) :
    (steps.flatMap (events soname)).filterMap Event.assignment? = steps.map assignment := by
  rw [List.filterMap_flatMap]
  simp only [filterMap_assignment?_events]
  exact List.map_eq_flatMap.symm

theorem Leads.foldl_put
    {first final : Table} {steps : List Step} (hleads : Leads first steps final)
    (hfirst : first.names.Nodup) :
    (steps.map assignment).foldl put first.bindings = final.bindings := by
  induction hleads with
  | refl table => rfl
  | step step _ ih =>
      rw [List.map_cons, List.foldl_cons, ← ih (Table.nodup_names_bind hfirst _ _), assignment,
        ← Table.bindings_bind hfirst]
      rfl

theorem Leads.replay_eq
    {final : Table} {steps : List Step} (hleads : Leads Table.empty steps final)
    {journal : List Event} (hjournal : journal.filterMap Event.assignment? = steps.map assignment) :
    replay journal = final.bindings := by
  rw [replay, hjournal]
  exact hleads.foldl_put List.nodup_nil

theorem Leads.exists_index?_iff
    {final : Table} {steps : List Step} (hleads : Leads Table.empty steps final) (name : String) :
    (exists index, final.index? name = some index) <->
      exists old, (name, old) ∈ steps.map assignment := by
  constructor
  · rintro ⟨index, hindex⟩
    rcases hleads.exists_isLast hindex with ⟨step, hlast, rfl, rfl⟩
    exact ⟨step.index, List.mem_map_of_mem hlast.mem⟩
  · rintro ⟨old, hold⟩
    rcases List.mem_map.mp hold with ⟨step, hstep, hassignment⟩
    cases hassignment
    rcases hleads.index?_eq step.name with ⟨last, _, _, hindex⟩ | ⟨hnone, _⟩
    · exact ⟨last.index, hindex⟩
    · exact absurd rfl (hnone step hstep)

/-!
## Messages and their steps
-/

theorem exists_step_of_bound
    {soname : String} {steps : List Step} {closing front back : List Event} {name : String}
    {index : Nat} (hclosing : forall event, event ∈ closing -> event.assignment? = none)
    (hevents : steps.flatMap (events soname) ++ closing =
      front ++ .bound soname name index :: back) :
    exists earlier step later,
      steps = earlier ++ step :: later ∧
        front = earlier.flatMap (events soname) ∧
        step.name = name ∧ step.index = index ∧
        back = step.warning soname ++ (later.flatMap (events soname) ++ closing) := by
  induction steps generalizing front with
  | nil =>
      have hmem : .bound soname name index ∈ closing := by
        rw [List.flatMap_nil, List.nil_append] at hevents
        rw [hevents]
        exact List.mem_append_right front List.mem_cons_self
      cases hclosing _ hmem
  | cons step rest ih =>
      rw [List.flatMap_cons, events_eq, List.cons_append, List.cons_append, List.append_assoc]
        at hevents
      cases front with
      | nil =>
          cases hevents
          exact ⟨[], step, rest, rfl, rfl, rfl, rfl, rfl⟩
      | cons first front =>
          rcases List.cons.inj hevents with ⟨rfl, hbehind⟩
          have hwarning : .bound soname name index ∉ step.warning soname := by
            unfold warning
            split <;> simp
          rcases exists_behind_of_not_mem hwarning hbehind with ⟨further, rfl, hrest⟩
          rcases ih hrest with ⟨earlier, found, later, rfl, rfl, hname, hindex, hback⟩
          exact ⟨step :: earlier, found, later, rfl, rfl, hname, hindex, hback⟩

theorem exists_step_of_rebound
    {soname : String} {steps : List Step} {closing front back : List Event} {name : String}
    {previous index : Nat} (hclosing : forall event, event ∈ closing -> event.rebinding? = none)
    (hevents : steps.flatMap (events soname) ++ closing =
      front ++ .rebound soname name previous index :: back) :
    exists further, front = further ++ [.bound soname name index] := by
  induction steps generalizing front with
  | nil =>
      have hmem : .rebound soname name previous index ∈ closing := by
        rw [List.flatMap_nil, List.nil_append] at hevents
        rw [hevents]
        exact List.mem_append_right front List.mem_cons_self
      cases hclosing _ hmem
  | cons step rest ih =>
      rw [List.flatMap_cons, events_eq, List.cons_append, List.cons_append, List.append_assoc]
        at hevents
      cases front with
      | nil => cases hevents
      | cons first front =>
          rcases List.cons.inj hevents with ⟨rfl, hbehind⟩
          cases hprevious : step.previous? with
          | none =>
              rw [warning, hprevious] at hbehind
              rcases ih hbehind with ⟨further, rfl⟩
              exact ⟨_ :: further, rfl⟩
          | some found =>
              rw [warning, hprevious] at hbehind
              cases front with
              | nil =>
                  cases hbehind
                  exact ⟨[], rfl⟩
              | cons second front =>
                  rcases List.cons.inj hbehind with ⟨rfl, hrest⟩
                  rcases ih hrest with ⟨further, rfl⟩
                  exact ⟨_ :: _ :: further, rfl⟩

theorem warning_append_eq_iff
    {soname : String} {step : Step} {behind : List Event}
    (hbehind : forall previous rest,
      behind ≠ .rebound soname step.name previous step.index :: rest)
    (previous : Nat) :
    (exists rest, step.warning soname ++ behind =
      .rebound soname step.name previous step.index :: rest) <->
      step.previous? = some previous := by
  unfold warning
  cases step.previous? with
  | none =>
      constructor
      · intro htold
        rcases htold with ⟨rest, htold⟩
        exact absurd htold (hbehind previous rest)
      · intro hprevious
        cases hprevious
  | some found =>
      constructor
      · intro htold
        rcases htold with ⟨rest, htold⟩
        cases htold
        rfl
      · intro hprevious
        cases hprevious
        exact ⟨behind, rfl⟩

theorem flatMap_events_append_ne
    {soname : String} {closing : List Event}
    (hclosing : forall event, event ∈ closing -> event.rebinding? = none) (steps : List Step)
    (name : String) (previous index : Nat) (rest : List Event) :
    steps.flatMap (events soname) ++ closing ≠ .rebound soname name previous index :: rest := by
  intro hevents
  cases steps with
  | nil =>
      rw [List.flatMap_nil, List.nil_append] at hevents
      cases hclosing _ (hevents ▸ List.mem_cons_self)
  | cons step later =>
      rw [List.flatMap_cons, events_eq] at hevents
      cases hevents

end Step

/-!
## Passes
-/

/-- What the messages of a pass over lines tell, behind those of earlier passes, about the tables
before and after it and about its outcome. -/
structure PassTells
    (soname : String) (earlier : List Event) (lines : List LineReading) (before after : Table)
    (outcome : Except LoadFailure Nat) (events : List Event) : Prop where
  /-- One bind message for each bound line, in order, from the number of names on. -/
  bound : events.filterMap Event.assignment? = (LineReading.names lines).zipIdx before.size
  /-- A warning follows just where an earlier message binds the name. -/
  warns_iff : forall {front back : List Event} {name : String} {index : Nat},
    events = front ++ .bound soname name index :: back ->
      ((exists old, (name, old) ∈ (earlier ++ front).filterMap Event.assignment?) <->
        exists previous rest, back = .rebound soname name previous index :: rest)
  /-- It tells the index that the earlier messages have left the name with. -/
  warns_of : forall {front rest : List Event} {name : String} {previous index : Nat},
    events = front ++ .bound soname name index :: .rebound soname name previous index :: rest ->
      (replay (earlier ++ front)).lookup name = some previous
  /-- Nowhere else is there a warning. -/
  warns_behind : forall {front back : List Event} {name : String} {previous index : Nat},
    events = front ++ .rebound soname name previous index :: back ->
      exists further, front = further ++ [.bound soname name index]
  /-- Each message that is followed by no warning adds a name. -/
  size : after.size + (events.filterMap Event.rebinding?).length =
    before.size + (events.filterMap Event.assignment?).length
  /-- The summary is there just where the pass succeeds, and is the last message. -/
  summary : exists body,
    (forall count first next, .loaded soname count first next ∉ body) ∧
      ((exists failure, outcome = .error failure) ∧ events = body ∨
        let count := (events.filterMap Event.assignment?).length
        outcome = .ok count ∧
          events = body ++ [.loaded soname count before.size (before.size + count)])

namespace Table

theorem mem_startEvents
    {soname : String} {table : Table} {event : Event} (hevent : event ∈ table.startEvents soname) :
    event = .startedLow soname table.size table.highWater := by
  unfold startEvents at hevent
  split at hevent
  · exact List.mem_singleton.mp hevent
  · cases hevent

theorem mem_closingEvents
    {soname : String} {first count : Nat} {fault : Option ReadFault} {event : Event}
    (hevent : event ∈ closingEvents soname first count fault) :
    event = .loaded soname count first (first + count) := by
  cases fault with
  | none => exact List.mem_singleton.mp hevent
  | some fault => cases hevent

theorem loaded_not_mem_body
    (soname : String) (table : Table) (steps : List Step) (count first next : Nat) :
    .loaded soname count first next ∉
      table.startEvents soname ++ steps.flatMap (Step.events soname) := by
  intro hmem
  rcases List.mem_append.mp hmem with hstart | hsteps
  · cases mem_startEvents hstart
  · rcases List.mem_flatMap.mp hsteps with ⟨step, _, hstep⟩
    revert hstep
    rw [Step.events_eq]
    unfold Step.warning
    split <;> simp

end Table

namespace Library

/-- A bind message of a pass behind earlier ones is that of a step, and the messages before it are
those of the steps that lead there. -/
theorem exists_step_of_load_bound
    {host : Host} {earlier : List Stream} {stream : Stream} {front back : List Event}
    {name : String} {index : Nat}
    (hevents : (((fresh host).after earlier).load stream).events =
      front ++ .bound host.soname name index :: back) :
    exists (steps : List Step) (step : Step) (behind : List Event),
      Step.Leads Table.empty steps step.before ∧
        (((fresh host).loadAll earlier).events ++ front).filterMap Event.assignment? =
          steps.map Step.assignment ∧
        step.name = name ∧ step.index = index ∧
        back = step.warning host.soname ++ behind ∧
        forall previous rest, behind ≠ .rebound host.soname step.name previous step.index :: rest := by
  rw [load_events, Table.load_events _ earlier.length, soname_after] at hevents
  have hstart : .bound host.soname name index ∉
      ((fresh host).after earlier).table.startEvents host.soname := by
    intro hmem
    cases Table.mem_startEvents hmem
  rcases exists_behind_of_not_mem hstart hevents with ⟨further, rfl, hlines⟩
  rcases Step.exists_step_of_bound
    (fun event hevent => by rw [Table.mem_closingEvents hevent]; rfl) hlines with
    ⟨before, step, later, hsteps, rfl, hname, hindex, rfl⟩
  have hleads := (leads_steps (fresh host) earlier).trans
    (Table.leads_steps earlier.length ((fresh host).after earlier).table
      (LineReading.names stream.lines))
  rw [hsteps, ← List.append_assoc] at hleads
  refine ⟨_, step, _, hleads.before, ?_, hname, hindex, rfl, ?_⟩
  · have hquiet : (((fresh host).after earlier).table.startEvents host.soname).filterMap
        Event.assignment? = [] := by
      rw [List.filterMap_eq_nil_iff]
      intro event hevent
      rw [Table.mem_startEvents hevent]
      rfl
    rw [List.filterMap_append, List.filterMap_append, hquiet, List.nil_append, loadAll_assignments,
      Step.filterMap_assignment?_flatMap_events, List.map_append]
  · intro previous rest
    exact Step.flatMap_events_append_ne
      (fun event hevent => by rw [Table.mem_closingEvents hevent]; rfl) later step.name previous
      step.index rest

theorem passTells (host : Host) (earlier : List Stream) (stream : Stream) :
    let before := (fresh host).after earlier
    let pass := before.load stream
    PassTells host.soname ((fresh host).loadAll earlier).events stream.lines before.table
      pass.result.2.table pass.result.1 pass.events := by
  intro before pass
  have hsoname : before.soname = host.soname := soname_after (fresh host) earlier
  have hevents : pass.events = _ := (load_events before stream).trans
    (Table.load_events before.soname earlier.length before.table stream.lines)
  rw [hsoname] at hevents
  have hbound : pass.events.filterMap Event.assignment? = _ := load_assignments before stream
  refine ⟨hbound, ?_, ?_, ?_, ?_, ?_⟩
  · intro front back name index hsplit
    rcases exists_step_of_load_bound hsplit with
      ⟨steps, step, behind, hleads, hjournal, rfl, rfl, rfl, hbehind⟩
    rw [hjournal, ← hleads.exists_index?_iff]
    exact exists_congr fun previous => (Step.warning_append_eq_iff hbehind previous).symm
  · intro front rest name previous index hsplit
    rcases exists_step_of_load_bound hsplit with
      ⟨steps, step, behind, hleads, hjournal, rfl, rfl, hback, hbehind⟩
    rw [hleads.replay_eq hjournal]
    exact (Step.warning_append_eq_iff hbehind previous).mp ⟨rest, hback.symm⟩
  · intro front back name previous index hsplit
    rw [hevents] at hsplit
    have hstart : .rebound host.soname name previous index ∉
        before.table.startEvents host.soname := by
      intro hmem
      cases Table.mem_startEvents hmem
    rcases exists_behind_of_not_mem hstart hsplit with ⟨further, rfl, hlines⟩
    rcases Step.exists_step_of_rebound
      (fun event hevent => by rw [Table.mem_closingEvents hevent]; rfl) hlines with ⟨more, rfl⟩
    exact ⟨_ ++ more, (List.append_assoc _ _ _).symm⟩
  · have hleads := Table.leads_steps earlier.length before.table (LineReading.names stream.lines)
    have hsize := hleads.size_eq
    have hlength : (before.table.steps earlier.length (LineReading.names stream.lines)).length =
        (LineReading.names stream.lines).length :=
      Table.length_stepsFrom _ _ _ _ _
    have hrebindings : pass.events.filterMap Event.rebinding? = _ :=
      load_rebindings before stream earlier.length
    rw [hrebindings, hbound, List.length_zipIdx, ← hlength, ← hsize]
    show Table.size (before.load stream).result.2.table + _ = _
    rw [load_library]
  · refine ⟨_, fun count first next => Table.loaded_not_mem_body host.soname before.table
      (before.table.steps earlier.length (LineReading.names stream.lines)) count first next, ?_⟩
    have houtcome : pass.result.1 = _ := load_outcome before stream
    rw [hbound, List.length_zipIdx, houtcome, hevents, ← List.append_assoc]
    cases LineReading.fault? stream.lines with
    | none => exact Or.inr ⟨rfl, rfl⟩
    | some fault => exact Or.inl ⟨⟨_, rfl⟩, List.append_nil _⟩

theorem loadAll_events_append (library : Library) (earlier later : List Stream) :
    (library.loadAll (earlier ++ later)).events =
      (library.loadAll earlier).events ++ ((library.after earlier).loadAll later).events := by
  induction earlier generalizing library with
  | nil => rfl
  | cons stream rest ih =>
      rw [List.cons_append, loadAll_events_cons, loadAll_events_cons, ih, List.append_assoc,
        after_cons]

/-- The message of an event that only a journal with all details has. -/
def traceMessage? (event : Event) : Option String :=
  if event.level = .trace then some event.message else none

theorem filterMap_traceMessage?_events (soname : String) (step : Step) :
    (step.events soname).filterMap traceMessage? =
      [(Event.bound soname step.name step.index).message] := by
  rw [Step.events_eq]
  unfold Step.warning
  split <;> rfl

theorem trace_messages (library : Library) (streams : List Stream) :
    ((library.loadAll streams).events.filter fun event => event.level = .trace).map Event.message =
      ((library.loadAll streams).events.filterMap Event.assignment?).map fun binding =>
        (Event.bound library.soname binding.1 binding.2).message := by
  have hstart (soname : String) (first highWater : Nat) :
      traceMessage? (.startedLow soname first highWater) = none := rfl
  have hclosing (soname : String) (count first next : Nat) :
      traceMessage? (.loaded soname count first next) = none := rfl
  have hmessages := filterMap_loadAll_events hstart hclosing library streams 0
  simp only [filterMap_traceMessage?_events] at hmessages
  rw [loadAll_assignments, List.map_map, ← List.filterMap_eq_map, List.filterMap_filter]
  simp only [decide_eq_true_eq]
  exact hmessages.trans List.map_eq_flatMap.symm

/-- The journal of a run is those of its passes in a row, and each tells what its pass does.  Its trace
messages are the bind messages, whose indices are below their number, and which insert or overwrite one
after another the bindings of the table that the run leaves, in its order. -/
theorem journal_tells (host : Host) (streams : List Stream) :
    let library := fresh host
    let run := library.loadAll streams
    let bound := run.events.filterMap Event.assignment?
    (run.events.filter fun event => event.level = .trace).map Event.message =
        bound.map (fun binding =>
          host.soname ++ ": bind " ++ binding.1 ++ " -> " ++ toString binding.2) ∧
      (forall name index, (name, index) ∈ bound -> index < bound.length) ∧
      run.result.2.table.highWater ≤ bound.length ∧
      replay run.events = run.result.2.table.bindings ∧
      forall earlier stream later, streams = earlier ++ stream :: later ->
        let before := library.after earlier
        let pass := before.load stream
        run.events = (library.loadAll earlier).events ++
            (pass.events ++ (pass.result.2.loadAll later).events) ∧
          PassTells host.soname (library.loadAll earlier).events stream.lines before.table
            pass.result.2.table pass.result.1 pass.events := by
  intro library run bound
  have hbound : bound = (library.steps streams).map Step.assignment :=
    loadAll_assignments library streams
  have hleads : Step.Leads Table.empty (library.steps streams) run.result.2.table :=
    leads_steps library streams
  have hmark : run.result.2.table.highWater ≤ bound.length := by
    rw [hbound, List.length_map]
    exact highWater_after_le host streams
  refine ⟨trace_messages library streams, ?_, hmark, hleads.replay_eq hbound, ?_⟩
  · intro name index hmem
    rw [hbound] at hmem
    rcases List.mem_map.mp hmem with ⟨step, hstep, hassignment⟩
    cases hassignment
    exact Nat.lt_of_lt_of_le (hleads.index_lt_highWater hstep) hmark
  · intro earlier stream later hsplit before pass
    refine ⟨?_, passTells host earlier stream⟩
    have hrun : run.events = _ := hsplit ▸ loadAll_events_append library earlier (stream :: later)
    rw [hrun, loadAll_events_cons]

end Library
end HostBridge
