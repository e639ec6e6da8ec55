import HostBridge.Proofs.Symbol.Numbering
import HostBridge.Proofs.Symbol.Steps
import Mathlib.Data.List.TakeWhile

/-!
# Splitting a manifest

A manifest may be split in two passes without a trace in the table just where its first part binds no
name again: the second pass then starts at the index that one pass would have come to, and otherwise
below it, which the last line of the second part shows.
-/

namespace HostBridge

namespace Step

/-!
## Sizes along steps
-/

theorem previous?_eq_none_iff (step : Step) :
    step.previous? = none <-> step.name ∉ step.before.names :=
  Table.index?_eq_none_iff step.before step.name

theorem size_after (step : Step) :
    step.after.size + step.rebinding?.toList.length = step.before.size + 1 := by
  rw [after, Table.size_eq_length_names, Table.names_bind, Table.size_eq_length_names, rebinding?]
  cases hprevious : step.previous? with
  | none =>
      rw [if_neg ((previous?_eq_none_iff step).mp hprevious), List.length_append]
      rfl
  | some previous =>
      have hname : step.name ∈ step.before.names := by
        apply Classical.byContradiction
        intro hname
        rw [(previous?_eq_none_iff step).mpr hname] at hprevious
        cases hprevious
      rw [if_pos hname]
      rfl

theorem Leads.size_eq
    {first final : Table} {steps : List Step} (hleads : Leads first steps final) :
    final.size + (steps.filterMap Step.rebinding?).length = first.size + steps.length := by
  induction hleads with
  | refl table => rfl
  | step step _ ih =>
      have hstep := size_after step
      rw [rebindings_cons, List.length_append, List.length_cons]
      omega

end Step

namespace Table

theorem rebindings_stepsFrom_eq_nil_iff
    (pass : Nat) (opening table : Table) (index : Nat) (names : List String) :
    (stepsFrom pass opening table index names).filterMap Step.rebinding? = [] <->
      names.Nodup ∧ forall name, name ∈ names -> name ∉ table.names := by
  induction names generalizing table index with
  | nil => simp [stepsFrom]
  | cons name rest ih =>
      rw [stepsFrom, Step.rebindings_cons, List.append_eq_nil_iff, ih, List.nodup_cons,
        List.forall_mem_cons]
      have hnew : (Step.rebinding? ⟨pass, opening, table, name, index⟩).toList = [] <->
          name ∉ table.names := by
        rw [← index?_eq_none_iff, Step.rebinding?, Step.previous?]
        cases table.index? name <;> simp
      rw [hnew]
      constructor
      · intro hlines
        rcases hlines with ⟨hname, hrest, hothers⟩
        rw [names_bind, if_neg hname] at hothers
        refine ⟨⟨?_, hrest⟩, hname, ?_⟩
        · intro hmem
          exact hothers name hmem (List.mem_append_right _ List.mem_cons_self)
        · intro other hother hbound
          exact hothers other hother (List.mem_append_left _ hbound)
      · intro hlines
        rcases hlines with ⟨⟨hmem, hrest⟩, hname, hothers⟩
        refine ⟨hname, hrest, ?_⟩
        intro other hother hbound
        rw [names_bind, if_neg hname] at hbound
        rcases List.mem_append.mp hbound with hold | hsame
        · exact hothers other hother hold
        · exact hmem (List.mem_singleton.mp hsame ▸ hother)

theorem size_extend_iff (table : Table) (names : List String) :
    (table.extend names).size = table.size + names.length <->
      names.Nodup ∧ forall name, name ∈ names -> name ∉ table.names := by
  have hsize := (leads_steps 0 table names).size_eq
  rw [steps, length_stepsFrom] at hsize
  rw [← rebindings_stepsFrom_eq_nil_iff 0 table table table.size names, ← List.length_eq_zero_iff]
  omega

/-!
## Two passes and one
-/

theorem extend_extend_eq_iff
    (table : Table) (first : List String) {second : List String} (hsecond : second ≠ []) :
    (table.extend first).extend second = table.extend (first ++ second) <->
      (table.extend first).size = table.size + first.length := by
  constructor
  · intro hsame
    rcases List.eq_nil_or_concat second with hnil | ⟨front, last, rfl⟩
    · exact absurd hnil hsecond
    · -- The last line keeps its index in either table, so it tells where its pass started.
      have hapart : ((table.extend first).extend (front ++ [last])).index? last =
          some ((table.extend first).size + front.length) :=
        Manifest.index?_extend_last List.not_mem_nil (table.extend first) front
      have htogether : (table.extend (first ++ front ++ [last])).index? last =
          some (table.size + (first ++ front).length) :=
        Manifest.index?_extend_last List.not_mem_nil table (first ++ front)
      rw [List.append_assoc] at htogether
      rw [List.concat_eq_append] at hsame
      rw [hsame, htogether, Option.some.injEq, List.length_append] at hapart
      omega
  · intro hsize
    rw [extend, hsize, extend, extend, List.zipIdx_append, bindAll_append]

end Table

namespace Manifest

/-!
## Manifests of names
-/

def IsName (name : String) : Prop :=
  name ≠ "" ∧ '\n' ∉ name.toList ∧ name.toList.getLast? ≠ some '\r'

instance (name : String) : Decidable (IsName name) :=
  inferInstanceAs (Decidable (_ ∧ _ ∧ _))

def ofNames (names : List String) : String :=
  String.ofList (names.flatMap fun name => name.toList ++ ['\n'])

theorem textLines_ofNames
    {names : List String} (hnames : forall name, name ∈ names -> IsName name) :
    textLines (ofNames names) = names := by
  have hended : forall line, line ∈ names.map String.toList -> '\n' ∉ line := by
    intro line hline
    rcases List.mem_map.mp hline with ⟨name, hname, rfl⟩
    exact (hnames name hname).right.left
  have hcut : Cut.byMark '\n' (Cut.join '\n' ⟨names.map String.toList, []⟩) =
      ⟨names.map String.toList, []⟩ :=
    Cut.byMark_join hended List.not_mem_nil
  rw [Cut.join, List.append_nil, List.flatMap_map] at hcut
  rw [textLines, ofNames, String.toList_ofList, hcut]
  have hline : forall name, name ∈ names ->
      String.ofList (dropFinal '\r' name.toList) = name := by
    intro name hname
    rw [Cut.dropFinal_of_ne (hnames name hname).right.right, String.ofList_toList]
  simp only [List.map_map, if_true, List.append_nil]
  exact (List.map_congr_left hline).trans (List.map_id names)

theorem names_ofNames
    {names : List String} (hnames : forall name, name ∈ names -> IsName name) :
    Manifest.names (ofNames names) = names := by
  rw [Manifest.names, textLines_ofNames hnames, List.takeWhile_eq_self_iff]
  intro name hname
  exact decide_eq_true (hnames name hname).left

end Manifest

namespace Library

open Manifest (IsName ofNames)

theorem names_lines_ofNames
    {names : List String} (hnames : forall name, name ∈ names -> IsName name) :
    LineReading.names (Stream.ofText (ofNames names)).lines = names := by
  rw [Manifest.names_lines_ofText, Manifest.names_ofNames hnames]

/-- Whatever a library has bound, two manifests of names loaded one after the other leave the table
that the second leaves behind the first in one manifest, if and only if no line of the first binds a
name again, that is, its names are different and new.  The second may repeat names as it likes, but
not be empty. -/
theorem load_split_iff
    {first second : List String}
    (hfirst : forall name, name ∈ first -> IsName name)
    (hsecond : forall name, name ∈ second -> IsName name)
    (hne : second ≠ []) (library : Library) :
    let apart := library.after [.ofText (ofNames first), .ofText (ofNames second)]
    let together := library.after [.ofText (ofNames (first ++ second))]
    let rebindings :=
      (library.load (.ofText (ofNames first))).events.filterMap Event.rebinding?
    (apart.table = together.table <-> rebindings = []) ∧
      (rebindings = [] <->
        first.Nodup ∧ forall name, name ∈ first -> name ∉ library.table.names) := by
  intro apart together rebindings
  have hboth : forall name, name ∈ first ++ second -> IsName name := by
    intro name hname
    rcases List.mem_append.mp hname with hleft | hright
    · exact hfirst name hleft
    · exact hsecond name hright
  have hapart : apart.table = (library.table.extend first).extend second := by
    show (library.after _).table = _
    rw [table_after, passNames, List.map_cons, List.map_cons, names_lines_ofNames hfirst,
      names_lines_ofNames hsecond]
    rfl
  have htogether : together.table = library.table.extend (first ++ second) := by
    show (library.after _).table = _
    rw [table_after, passNames, List.map_cons, names_lines_ofNames hboth]
    rfl
  have hrebindings : rebindings = [] <->
      first.Nodup ∧ forall name, name ∈ first -> name ∉ library.table.names := by
    show List.filterMap Event.rebinding? _ = [] <-> _
    rw [load_rebindings library _ 0, names_lines_ofNames hfirst]
    exact Table.rebindings_stepsFrom_eq_nil_iff 0 library.table library.table library.table.size first
  refine ⟨?_, hrebindings⟩
  rw [hapart, htogether, Table.extend_extend_eq_iff _ _ hne, Table.size_extend_iff, hrebindings]

/-- Two new names may be split off, also where the second manifest repeats one of them; a name that
the library has may not. -/
theorem load_split_iff_new_and_bound :
    let library := (fresh (.scratch "lib")).after [.ofText "a\na\n"]
    let second := ["d", "b", "d"]
    let apart := fun first =>
      library.after [.ofText (ofNames first), .ofText (ofNames second)]
    let together := fun first => library.after [.ofText (ofNames (first ++ second))]
    (forall name, name ∈ ["b", "c"] -> IsName name) ∧
      (forall name, name ∈ ["a"] -> IsName name) ∧
      (forall name, name ∈ second -> IsName name) ∧
      second ≠ [] ∧
      (apart ["b", "c"]).table = (together ["b", "c"]).table ∧
      (apart ["a"]).table ≠ (together ["a"]).table := by
  intro library second apart together
  have hnew : forall name, name ∈ ["b", "c"] -> IsName name := by decide
  have hbound : forall name, name ∈ ["a"] -> IsName name := by decide
  have hsecond : forall name, name ∈ second -> IsName name := by decide
  have hne : second ≠ [] := List.cons_ne_nil _ _
  have hnames : library.table.names = ["a"] := rfl
  rcases load_split_iff hnew hsecond hne library with ⟨hsplit, hrebindings⟩
  rcases load_split_iff hbound hsecond hne library with ⟨hsplitBound, hrebindingsBound⟩
  refine ⟨hnew, hbound, hsecond, hne, ?_, ?_⟩
  · apply (hsplit.trans hrebindings).mpr
    rw [hnames]
    decide
  · intro hsame
    have hfree := ((hsplitBound.trans hrebindingsBound).mp hsame).right "a" List.mem_cons_self
    rw [hnames] at hfree
    exact hfree List.mem_cons_self

end Library
end HostBridge
