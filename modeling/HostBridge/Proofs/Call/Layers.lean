import HostBridge.Proofs.Call.HostRuns

/-!
# Stacks of layers

A callable may lie under layers of two kinds.  A bound value is a boundary.  A function of the interpreter
that forwards calls hands arguments of its own making to the callable below it, may add a frame to a failure
that comes back, and lets a panic pass.  A panic skips the forwarding functions up to the first boundary; from
there on, as every other failure, it gets the frames of all layers that it crosses.
-/

namespace HostBridge

inductive Layer where
  | bound (value : Value)
  | forwarding (signature : String) (hand : List Value → List Value)
      (note : TracedFailure → Option Frame)

namespace Callable

def IsInterpreted : Callable → Prop
  | .interpreted .. => True
  | _ => False

end Callable

namespace Layer

open Callable (curriedFrame nativeFrame)

def IsInterpreted : Layer → Prop
  | .bound _ => False
  | .forwarding .. => True

def handed : Layer → List Value → List Value
  | .bound value, arguments => value :: arguments
  | .forwarding _ hand _, arguments => hand arguments

def frames (below : Callable) (failure : TracedFailure) : Layer → List Frame
  | .bound _ => [curriedFrame below]
  | .forwarding _ _ note => (note failure).toList

def extend (below : Callable) (failure : TracedFailure) (layer : Layer) : TracedFailure :=
  ⟨failure.cause, failure.frames ++ layer.frames below failure⟩

def forward (note : TracedFailure → Option Frame) : Outcome TracedFailure → Outcome TracedFailure
  | .value result => .value result
  | .failure failure => .failure ⟨failure.cause, failure.frames ++ (note failure).toList⟩
  | .panic payload => .panic payload

def wrap (below : Callable) : Layer → Callable
  | .bound value => below.curried value
  | .forwarding signature hand note =>
      .interpreted signature fun context arguments =>
        forward note <$> below.invoke context (hand arguments)

/-!
## Stacks
-/

/-- Layers over a callable, the first of them innermost. -/
def stack (base : Callable) (layers : List Layer) : Callable :=
  layers.foldl wrap base

@[simp] theorem stack_nil (base : Callable) : stack base [] = base := rfl

@[simp] theorem stack_cons (base : Callable) (layer : Layer) (outer : List Layer) :
    stack base (layer :: outer) = stack (layer.wrap base) outer := rfl

def handDown (layers : List Layer) (arguments : List Value) : List Value :=
  layers.foldr handed arguments

/-- The frames that a failure gets from the layers that it crosses, innermost first.  A layer sees the
failure with the frames of the layers below. -/
def framesOver (below : Callable) (failure : TracedFailure) : List Layer → List Frame
  | [] => []
  | layer :: outer =>
      layer.frames below failure ++
        framesOver (layer.wrap below) (layer.extend below failure) outer

def extendAll (below : Callable) (failure : TracedFailure) (layers : List Layer) : TracedFailure :=
  ⟨failure.cause, failure.frames ++ framesOver below failure layers⟩

theorem extendAll_nil (below : Callable) (failure : TracedFailure) :
    extendAll below failure [] = failure := by
  rw [extendAll, framesOver, List.append_nil]

theorem extendAll_cons
    (below : Callable) (failure : TracedFailure) (layer : Layer) (outer : List Layer) :
    extendAll below failure (layer :: outer) =
      extendAll (layer.wrap below) (layer.extend below failure) outer := by
  rw [extendAll, extendAll, framesOver, extend, List.append_assoc]

/-!
## Outcomes through layers
-/

def cross (below : Callable) (layer : Layer) : Outcome TracedFailure → Outcome TracedFailure
  | .value result => .value result
  | .failure failure => .failure (layer.extend below failure)
  | .panic payload =>
      match layer with
      | .bound _ => .failure ⟨.panicked payload.message, [curriedFrame below]⟩
      | .forwarding .. => .panic payload

def crossAll (below : Callable) : List Layer → Outcome TracedFailure → Outcome TracedFailure
  | [], outcome => outcome
  | layer :: outer, outcome => crossAll (layer.wrap below) outer (layer.cross below outcome)

theorem result_invoke_wrap
    (below : Callable) (layer : Layer) (context : Context) (arguments : List Value) :
    ((layer.wrap below).invoke context arguments).result =
      layer.cross below (below.invoke context (layer.handed arguments)).result := by
  cases layer with
  | bound value =>
      show (Recorded.contain _ (below.invoke context (value :: arguments))).result =
        cross below _ (below.invoke context (value :: arguments)).result
      rcases below.invoke context (value :: arguments) with ⟨outcome, journal⟩
      cases outcome <;> rfl
  | forwarding signature hand note =>
      show forward note (below.invoke context (hand arguments)).result =
        cross below _ (below.invoke context (hand arguments)).result
      cases (below.invoke context (hand arguments)).result <;> rfl

theorem result_invoke_stack
    (base : Callable) (layers : List Layer) (context : Context) (arguments : List Value) :
    ((stack base layers).invoke context arguments).result =
      crossAll base layers (base.invoke context (handDown layers arguments)).result := by
  induction layers generalizing base with
  | nil => rfl
  | cons layer outer ih =>
      rw [stack_cons, ih, result_invoke_wrap]
      rfl

theorem crossAll_append
    (below : Callable) (inner outer : List Layer) (outcome : Outcome TracedFailure) :
    crossAll below (inner ++ outer) outcome =
      crossAll (stack below inner) outer (crossAll below inner outcome) := by
  induction inner generalizing below outcome with
  | nil => rfl
  | cons layer rest ih =>
      rw [List.cons_append, crossAll, ih]
      rfl

theorem crossAll_value (below : Callable) (layers : List Layer) (result : Value) :
    crossAll below layers (.value result) = .value result := by
  induction layers generalizing below with
  | nil => rfl
  | cons layer outer ih =>
      rw [crossAll, cross]
      exact ih (layer.wrap below)

theorem crossAll_failure (below : Callable) (layers : List Layer) (failure : TracedFailure) :
    crossAll below layers (.failure failure) = .failure (extendAll below failure layers) := by
  induction layers generalizing below failure with
  | nil =>
      rw [extendAll_nil]
      rfl
  | cons layer outer ih =>
      rw [crossAll, cross, extendAll_cons]
      exact ih (layer.wrap below) (layer.extend below failure)

theorem crossAll_panic
    {layers : List Layer} (hlayers : forall layer, layer ∈ layers -> layer.IsInterpreted)
    (below : Callable) (payload : Panic) :
    crossAll below layers (.panic payload) = .panic payload := by
  induction layers generalizing below with
  | nil => rfl
  | cons layer outer ih =>
      rcases List.forall_mem_cons.mp hlayers with ⟨hlayer, houter⟩
      cases layer with
      | bound value => exact hlayer.elim
      | forwarding signature hand note => exact ih houter _

theorem crossAll_panic_bound
    {inner : List Layer} (hinner : forall layer, layer ∈ inner -> layer.IsInterpreted)
    (below : Callable) (value : Value) (outer : List Layer) (payload : Panic) :
    crossAll below (inner ++ .bound value :: outer) (.panic payload) =
      .failure (extendAll ((stack below inner).curried value)
        ⟨.panicked payload.message, [curriedFrame (stack below inner)]⟩ outer) := by
  rw [crossAll_append, crossAll_panic hinner, crossAll]
  exact crossAll_failure _ outer _

theorem exists_first_bound (layers : List Layer) :
    (forall layer, layer ∈ layers -> layer.IsInterpreted) ∨
      exists inner value outer,
        layers = inner ++ .bound value :: outer ∧
          forall layer, layer ∈ inner -> layer.IsInterpreted := by
  induction layers with
  | nil => exact Or.inl fun layer hlayer => absurd hlayer List.not_mem_nil
  | cons layer rest ih =>
      cases layer with
      | bound value =>
          exact Or.inr ⟨[], value, rest, rfl, fun layer hlayer => absurd hlayer List.not_mem_nil⟩
      | forwarding signature hand note =>
          rcases ih with hall | ⟨inner, value, outer, rfl, hinner⟩
          · exact Or.inl (List.forall_mem_cons.mpr ⟨trivial, hall⟩)
          · exact Or.inr ⟨_ :: inner, value, outer, rfl, List.forall_mem_cons.mpr ⟨trivial, hinner⟩⟩

theorem crossAll_eq_panic_iff
    (below : Callable) (layers : List Layer) (outcome : Outcome TracedFailure) (payload : Panic) :
    crossAll below layers outcome = .panic payload <->
      outcome = .panic payload ∧ forall layer, layer ∈ layers -> layer.IsInterpreted := by
  constructor
  · intro hpanic
    cases outcome with
    | value result =>
        rw [crossAll_value] at hpanic
        cases hpanic
    | failure failure =>
        rw [crossAll_failure] at hpanic
        cases hpanic
    | panic raised =>
        rcases exists_first_bound layers with hall | ⟨inner, value, outer, rfl, hinner⟩
        · rw [crossAll_panic hall] at hpanic
          exact ⟨hpanic, hall⟩
        · rw [crossAll_panic_bound hinner] at hpanic
          cases hpanic
  · rintro ⟨rfl, hlayers⟩
    exact crossAll_panic hlayers below payload

/-- Only a function of the interpreter lets a panic out by itself. -/
theorem isInterpreted_of_panic
    {base : Callable} {context : Context} {arguments : List Value} {payload : Panic}
    (hpanic : (base.invoke context arguments).result = .panic payload) :
    base.IsInterpreted := by
  cases base with
  | native host name index =>
      rw [Callable.result_invoke_native] at hpanic
      cases hrun : (host.dispatch ⟨index, context, arguments⟩).result <;>
        rw [hrun] at hpanic <;> cases hpanic
  | curried inner bound =>
      have hwrap := result_invoke_wrap inner (.bound bound) context arguments
      rw [wrap, hpanic] at hwrap
      cases hrun : (inner.invoke context (handed (.bound bound) arguments)).result <;>
        rw [hrun] at hwrap <;> cases hwrap
  | interpreted signature body => exact trivial

/-- A panic leaves a stack of layers just where the base is interpreted and panics and no layer is a
boundary.  A panic of a native base is a failure with the base's frame, and a panic of an interpreted
base becomes one at the first bound value, with that value's frame; its cause has the words of the
panic, be they of the program or made at run time, or says that there are none.  Every failure, be it
such a one or one that the base returns, keeps its cause and its frames and gets those of each layer
that it crosses, in order, and values pass. -/
theorem invoke_stack
    (base : Callable) (layers : List Layer) (context : Context) (arguments : List Value) :
    let run := (base.invoke context (handDown layers arguments)).result
    let answer := ((stack base layers).invoke context arguments).result
    (forall payload, answer = .panic payload <->
      base.IsInterpreted ∧ run = .panic payload ∧
        forall layer, layer ∈ layers -> layer.IsInterpreted) ∧
      (forall host name index, base = .native host name index ->
        let native := (host.dispatch ⟨index, context, handDown layers arguments⟩).result
        let fails (cause : Failure) :=
          answer = .failure (extendAll base ⟨cause, [nativeFrame host name]⟩ layers)
        (forall words, native = .panic (.literal words) -> fails (.panicked words)) ∧
          (forall words, native = .panic (.text words) -> fails (.panicked words)) ∧
          (native = .panic .wordless -> fails (.panicked "Unknown panic")) ∧
          (forall cause, native = .failure cause -> fails cause)) ∧
      (forall payload, run = .panic payload ->
        (¬forall layer, layer ∈ layers -> layer.IsInterpreted) ->
          exists inner value outer,
            layers = inner ++ .bound value :: outer ∧
              (forall layer, layer ∈ inner -> layer.IsInterpreted) ∧
              let below := stack base inner
              let fails (cause : Failure) :=
                answer = .failure
                  (extendAll (below.curried value) ⟨cause, [curriedFrame below]⟩ outer)
              (forall words, payload = .literal words -> fails (.panicked words)) ∧
                (forall words, payload = .text words -> fails (.panicked words)) ∧
                (payload = .wordless -> fails (.panicked "Unknown panic"))) ∧
      (forall failure, run = .failure failure ->
        answer = .failure (extendAll base failure layers)) ∧
      (forall result, run = .value result -> answer = .value result) := by
  intro run answer
  have hanswer : answer = crossAll base layers run :=
    result_invoke_stack base layers context arguments
  have hfailure : forall failure, run = .failure failure ->
      answer = .failure (extendAll base failure layers) := by
    intro failure hrun
    rw [hanswer, hrun, crossAll_failure]
  refine ⟨?_, ?_, ?_, hfailure, ?_⟩
  · intro payload
    rw [hanswer, crossAll_eq_panic_iff]
    constructor
    · intro hpanic
      exact ⟨isInterpreted_of_panic hpanic.left, hpanic⟩
    · exact And.right
  · intro host name index hbase native fails
    have hrun : run = native.throughFrames [nativeFrame host name] := by
      show (base.invoke context (handDown layers arguments)).result = _
      rw [hbase]
      exact Callable.result_invoke_native host name index context (handDown layers arguments)
    have hpanicked : forall payload, native = .panic payload -> fails (.panicked payload.message) := by
      intro payload hpanic
      rw [hpanic] at hrun
      exact hfailure _ hrun
    refine ⟨fun words => hpanicked (.literal words), fun words => hpanicked (.text words),
      hpanicked .wordless, ?_⟩
    intro cause hcause
    rw [hcause] at hrun
    exact hfailure _ hrun
  · intro payload hrun hlayers
    rcases exists_first_bound layers with hall | ⟨inner, value, outer, rfl, hinner⟩
    · exact absurd hall hlayers
    · have hbound := crossAll_panic_bound hinner base value outer payload
      rw [← hrun, ← hanswer] at hbound
      refine ⟨inner, value, outer, rfl, hinner, ?_⟩
      intro below fails
      have hpanicked : forall raised, payload = raised -> fails (.panicked raised.message) := by
        intro raised hraised
        rw [hraised] at hbound
        exact hbound
      exact ⟨fun words => hpanicked (.literal words), fun words => hpanicked (.text words),
        hpanicked .wordless⟩
  · intro result hrun
    rw [hanswer, hrun, crossAll_value]

/-- A panic without words skips the frame of the function that forwards the call, gets that of the first
bound value, and then the frames of all layers outside. -/
theorem invoke_stack_wordless :
    let base := Callable.interpreted "f(a)" fun _ _ => pure (.panic .wordless)
    let layers : List Layer :=
      [.forwarding "g(a)" List.reverse fun _ => some ⟨"g(a)", "inner"⟩, .bound .null,
        .forwarding "h(a)" id fun _ => some ⟨"h(a)", "outer"⟩, .bound .null]
    (base.invoke .detached (handDown layers [])).result = .panic .wordless ∧
      (¬forall layer, layer ∈ layers -> layer.IsInterpreted) ∧
      ((stack base layers).invoke .detached []).result =
        .failure ⟨.panicked "Unknown panic",
          [⟨"g(a)/curried", "partial application"⟩, ⟨"h(a)", "outer"⟩,
            ⟨"h(a)/curried", "partial application"⟩]⟩ := by
  intro base layers
  have hbase : (base.invoke .detached (handDown layers [])).result = .panic .wordless := rfl
  have hlayers : ¬forall layer, layer ∈ layers -> layer.IsInterpreted :=
    fun hall => hall (.bound .null) (List.mem_cons_of_mem _ List.mem_cons_self)
  refine ⟨hbase, hlayers, ?_⟩
  rcases (invoke_stack base layers .detached []).right.right.left .wordless hbase hlayers with
    ⟨inner, value, outer, hsplit, hinner, _, _, hanswer⟩
  change [_, _, _, _] = _ at hsplit
  rcases inner with _ | ⟨first, _ | ⟨second, rest⟩⟩
  · cases hsplit
  · cases hsplit
    exact hanswer rfl
  · rcases List.cons.inj (List.cons.inj hsplit).right with ⟨hsecond, -⟩
    have hbound : IsInterpreted second := hinner second (List.mem_cons_of_mem _ List.mem_cons_self)
    rw [← hsecond] at hbound
    exact hbound.elim

end Layer
end HostBridge
