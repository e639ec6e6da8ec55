import HostBridge.Proofs.Symbol.Numbering
import HostBridge.Workspace

/-!
# Sessions

A client of a workspace attaches libraries, loads manifests into them, resolves their names, binds values
to the callables that it has and calls them, in any order.  Libraries and callables go by number, in the
order in which they came.  A library is what the passes over it alone have made of it, and a callable
stays what it was.
-/

namespace HostBridge

inductive Action where
  | attach (host : Host)
  | load (library : Nat) (stream : Stream)
  | resolve (library : Nat) (name : String)
  | curry (callable : Nat) (bound : Value)
  | invoke (callable : Nat) (context : Context) (arguments : List Value)

/-- What an action gives: the number of a new library or callable, what came of a pass or a call, or
that a name is not bound.  An action on a number that nothing has is refused. -/
inductive Answer where
  | attached (library : Nat)
  | loaded (outcome : Except LoadFailure Nat)
  | unbound
  | kept (callable : Nat)
  | returned (outcome : Outcome TracedFailure)
  | refused

structure Session where
  workspace : Workspace := {}
  callables : List Callable := []

namespace Session

def empty : Session := {}

def keep (session : Session) (callable : Callable) : Answer × Session :=
  (.kept session.callables.length, ⟨session.workspace, session.callables ++ [callable]⟩)

def perform (session : Session) : Action → Recorded (Answer × Session)
  | .attach host =>
      pure (.attached session.workspace.libraries.length,
        ⟨session.workspace.add (Library.fresh host), session.callables⟩)
  | .load library stream =>
      match session.workspace.load? library stream with
      | none => pure (.refused, session)
      | some loading =>
          (fun (outcome, workspace) => (.loaded outcome, ⟨workspace, session.callables⟩)) <$> loading
  | .resolve library name =>
      match session.workspace.library? library with
      | none => pure (.refused, session)
      | some _ =>
          match session.workspace.resolve? library name with
          | none => pure (.unbound, session)
          | some callable => pure (session.keep callable)
  | .curry callable bound =>
      match session.callables[callable]? with
      | none => pure (.refused, session)
      | some inner => pure (session.keep (inner.curried bound))
  | .invoke callable context arguments =>
      match session.callables[callable]? with
      | none => pure (.refused, session)
      | some callee => (fun outcome => (.returned outcome, session)) <$> callee.invoke context arguments

/-!
## Runs
-/

def next (session : Session) (action : Action) : Session :=
  (session.perform action).result.2

def after (session : Session) (actions : List Action) : Session :=
  actions.foldl next session

@[simp] theorem after_nil (session : Session) : session.after [] = session := rfl

theorem after_cons (session : Session) (action : Action) (rest : List Action) :
    session.after (action :: rest) = (session.next action).after rest := rfl

theorem after_append (session : Session) (front back : List Action) :
    session.after (front ++ back) = (session.after front).after back :=
  List.foldl_append

/-!
## Callables
-/

/-- How a session comes to keep a callable: it has resolved a name, or bound a value to a callable that
it had. -/
def Gives (session : Session) (callable : Callable) : Action → Prop
  | .resolve library name => session.workspace.resolve? library name = some callable
  | .curry number bound =>
      exists inner, session.callables[number]? = some inner ∧ callable = inner.curried bound
  | _ => False

theorem callables_next (session : Session) (action : Action) :
    (forall number, (session.perform action).result.1 ≠ .kept number) ∧
        (session.next action).callables = session.callables ∨
      exists callable,
        session.Gives callable action ∧
          (session.perform action).result.1 = .kept session.callables.length ∧
          (session.next action).callables = session.callables ++ [callable] := by
  have hsame : forall answer : Answer, (forall number, answer ≠ .kept number) ->
      (forall number, answer ≠ .kept number) ∧ session.callables = session.callables :=
    fun _ h => ⟨h, rfl⟩
  rw [next]
  cases action with
  | attach host => exact Or.inl (hsame _ nofun)
  | load library stream =>
      left
      rw [perform]
      cases session.workspace.load? library stream <;> exact hsame _ nofun
  | resolve library name =>
      rw [perform]
      cases hlibrary : session.workspace.library? library with
      | none => exact Or.inl (hsame _ nofun)
      | some _ =>
          cases hresolved : session.workspace.resolve? library name with
          | none => exact Or.inl (hsame _ nofun)
          | some callable => exact Or.inr ⟨callable, hresolved, rfl, rfl⟩
  | curry number bound =>
      rw [perform]
      cases hinner : session.callables[number]? with
      | none => exact Or.inl (hsame _ nofun)
      | some inner => exact Or.inr ⟨inner.curried bound, ⟨inner, hinner, rfl⟩, rfl, rfl⟩
  | invoke number context arguments =>
      left
      rw [perform]
      cases session.callables[number]? <;> exact hsame _ nofun

theorem callables_isPrefix_next (session : Session) (action : Action) :
    session.callables <+: (session.next action).callables := by
  rcases callables_next session action with ⟨_, hsame⟩ | ⟨callable, _, _, hadded⟩
  · exact ⟨[], by rw [List.append_nil, hsame]⟩
  · rw [hadded]
    exact List.prefix_append session.callables [callable]

theorem callables_isPrefix_after (session : Session) (actions : List Action) :
    session.callables <+: (session.after actions).callables := by
  induction actions generalizing session with
  | nil => exact List.prefix_rfl
  | cons action rest ih => exact (callables_isPrefix_next session action).trans (ih _)

theorem getElem?_callables_after
    {session : Session} {number : Nat} {callable : Callable}
    (hcallable : session.callables[number]? = some callable) (actions : List Action) :
    (session.after actions).callables[number]? = some callable := by
  rcases callables_isPrefix_after session actions with ⟨more, hmore⟩
  have hnumber := (List.getElem?_eq_some_iff.mp hcallable).1
  rw [← hmore, List.getElem?_append_left hnumber, hcallable]

/-!
## Libraries
-/

def pass? (library : Nat) : Action → Option Stream
  | .load number stream => if number = library then some stream else none
  | _ => none

theorem library?_next
    {session : Session} {number : Nat} {library : Library}
    (hlibrary : session.workspace.library? number = some library) (action : Action) :
    (session.next action).workspace.library? number =
      some (library.after (pass? number action).toList) := by
  cases action with
  | attach host =>
      have hnumber := (List.getElem?_eq_some_iff.mp hlibrary).1
      exact (List.getElem?_append_left hnumber).trans hlibrary
  | load other stream =>
      rw [next, perform, Workspace.load?, pass?]
      by_cases hother : other = number
      · subst hother
        rw [hlibrary, if_pos rfl]
        exact List.getElem?_set_self (List.getElem?_eq_some_iff.mp hlibrary).1
      · rw [if_neg hother]
        cases session.workspace.library? other with
        | none => exact hlibrary
        | some _ => exact (List.getElem?_set_ne hother).trans hlibrary
  | resolve other name =>
      rw [next, perform]
      cases session.workspace.library? other with
      | none => exact hlibrary
      | some _ => cases session.workspace.resolve? other name <;> exact hlibrary
  | curry callable bound =>
      rw [next, perform]
      cases session.callables[callable]? <;> exact hlibrary
  | invoke callable context arguments =>
      rw [next, perform]
      cases session.callables[callable]? <;> exact hlibrary

/-- A library in a session is what the passes over it alone make of it. -/
theorem library?_after
    {session : Session} {number : Nat} {library : Library}
    (hlibrary : session.workspace.library? number = some library) (actions : List Action) :
    (session.after actions).workspace.library? number =
      some (library.after (actions.filterMap (pass? number))) := by
  induction actions generalizing session library with
  | nil => exact hlibrary
  | cons action rest ih =>
      rw [after_cons, ih (library?_next hlibrary action)]
      cases hpass : pass? number action with
      | none => rw [List.filterMap_cons_none hpass]; rfl
      | some stream => rw [List.filterMap_cons_some hpass]; rfl

theorem mem_filterMap_pass?_iff (number : Nat) (actions : List Action) (stream : Stream) :
    stream ∈ actions.filterMap (pass? number) <-> Action.load number stream ∈ actions := by
  rw [List.mem_filterMap]
  constructor
  · intro hpass
    rcases hpass with ⟨action, haction, hstream⟩
    cases action with
    | load other found =>
        rw [pass?] at hstream
        by_cases hother : other = number
        · rw [if_pos hother] at hstream
          cases hstream
          exact hother ▸ haction
        · rw [if_neg hother] at hstream
          cases hstream
    | attach host => cases hstream
    | resolve other name => cases hstream
    | curry callable bound => cases hstream
    | invoke callable context arguments => cases hstream
  · intro hload
    exact ⟨.load number stream, hload, if_pos rfl⟩

theorem library?_after_attach
    (session : Session) (host : Host) (actions : List Action) :
    (session.after (.attach host :: actions)).workspace.library?
        session.workspace.libraries.length =
      some ((Library.fresh host).after
        (actions.filterMap (pass? session.workspace.libraries.length))) := by
  have hattached : (session.next (.attach host)).workspace.library?
      session.workspace.libraries.length = some (Library.fresh host) :=
    List.getElem?_concat_length
  exact library?_after hattached actions

end Session

namespace Library

theorem index?_after_eq_none_iff (host : Host) (streams : List Stream) (name : String) :
    ((fresh host).after streams).table.index? name = none <->
      forall stream, stream ∈ streams -> name ∉ LineReading.names stream.lines := by
  have hempty : Table.empty.names = [].eraseDups := rfl
  rw [Table.index?_eq_none_iff, table_after]
  show name ∉ (Table.empty.extendAll (passNames streams)).names <-> _
  rw [Manifest.names_extendAll hempty, List.nil_append, List.mem_eraseDups, passNames]
  simp

end Library
end HostBridge
