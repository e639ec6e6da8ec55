import HostBridge.Proofs.Symbol.Indices
import HostBridge.Proofs.Symbol.ListingText
import HostBridge.Proofs.Symbol.Numbering
import Mathlib.Data.List.Perm.Basic

/-!
# Listings of tables in a run

A listing has each name once, by ascending index, and names that share an index in the order in which
they first came.  Together with the lost indices that is all there is to the table but for the order
of names that share nothing, so two tables have the same listing just where they agree in it.
-/

namespace HostBridge

namespace Table

/-!
## The order of a listing
-/

def CameBefore (table : Table) (one other : String) : Prop :=
  table.names.idxOf one < table.names.idxOf other

def StandsAbove (table : Table) (above below : String × Nat) : Prop :=
  above.2 < below.2 ∨ above.2 = below.2 ∧ table.CameBefore above.1 below.1

theorem idxOf_lt_of_pair_sublist
    {names : List String} {one other : String}
    (hnames : names.Nodup) (hpair : [one, other].Sublist names) :
    names.idxOf one < names.idxOf other := by
  rcases List.cons_sublist_iff.mp hpair with ⟨front, back, rfl, hone, hrest⟩
  have hother : other ∈ back := List.singleton_sublist.mp hrest
  have hfront : other ∉ front := fun h =>
    (List.nodup_append.mp hnames).right.right other h other hother rfl
  rw [List.idxOf_append_of_mem hone, List.idxOf_append_of_notMem hfront]
  exact Nat.lt_of_lt_of_le (List.idxOf_lt_length_of_mem hone) (Nat.le_add_right _ _)

/-- What the sort goes by: a binding may stand above one with no smaller index. -/
def notAfter (above below : String × Nat) : Bool :=
  above.2 ≤ below.2

theorem notAfter_trans (one other third : String × Nat) :
    notAfter one other = true -> notAfter other third = true -> notAfter one third = true := by
  simp only [notAfter, decide_eq_true_eq]
  exact Nat.le_trans

theorem notAfter_total (one other : String × Nat) :
    (notAfter one other || notAfter other one) = true := by
  simp only [notAfter, Bool.or_eq_true, decide_eq_true_eq]
  exact Nat.le_total one.2 other.2

theorem byIndex_perm (table : Table) : table.byIndex.Perm table.bindings :=
  List.mergeSort_perm table.bindings notAfter

/-- The sort is stable: bindings of one index keep their order. -/
theorem filter_byIndex (table : Table) (index : Nat) :
    table.byIndex.filter (fun binding => binding.2 = index) =
      table.bindings.filter (fun binding => binding.2 = index) := by
  have hequal : (table.bindings.filter fun binding => binding.2 = index).Pairwise
      fun above below => notAfter above below = true := by
    apply List.pairwise_of_forall_mem_list
    intro above habove below hbelow
    have haboveIndex := of_decide_eq_true (List.mem_filter.mp habove).right
    have hbelowIndex := of_decide_eq_true (List.mem_filter.mp hbelow).right
    exact decide_eq_true (Nat.le_of_eq (haboveIndex.trans hbelowIndex.symm))
  have hsublist := List.sublist_mergeSort notAfter_trans notAfter_total hequal List.filter_sublist
  have hkept := hsublist.filter fun binding => decide (binding.2 = index)
  simp only [List.filter_filter, Bool.and_self] at hkept
  exact (hkept.eq_of_length ((byIndex_perm table).filter _).length_eq.symm).symm

theorem pairwise_standsAbove {table : Table} (hnames : table.names.Nodup) :
    table.byIndex.Pairwise table.StandsAbove := by
  rw [List.pairwise_iff_forall_sublist]
  intro above below hpair
  have hsorted := List.pairwise_mergeSort notAfter_trans notAfter_total table.bindings
  have hle := of_decide_eq_true (List.pairwise_iff_forall_sublist.mp hsorted hpair)
  rcases Nat.lt_or_eq_of_le hle with hlt | hindex
  · exact Or.inl hlt
  · refine Or.inr ⟨hindex, ?_⟩
    have hfilter := hpair.filter fun binding => decide (binding.2 = below.2)
    rw [filter_byIndex] at hfilter
    simp only [hindex, decide_true, List.filter_cons_of_pos, List.filter_nil] at hfilter
    have hbindings : [above, below].Sublist table.bindings := hfilter.trans List.filter_sublist
    exact idxOf_lt_of_pair_sublist hnames (hbindings.map Prod.fst)

theorem nodup_names_byIndex {table : Table} (hnames : table.names.Nodup) :
    (table.byIndex.map Prod.fst).Nodup :=
  ((byIndex_perm table).map Prod.fst).nodup_iff.mpr hnames

theorem mem_byIndex_iff {table : Table} (hnames : table.names.Nodup) (name : String) (index : Nat) :
    (name, index) ∈ table.byIndex <-> table.index? name = some index :=
  (byIndex_perm table).mem_iff.trans (mem_bindings_iff hnames name index)

/-!
## Tables that look alike
-/

/-- Two tables have the same names with the same indices, the same order among names that share an
index, and the same high-water mark. -/
structure LooksLike (first second : Table) : Prop where
  names : forall name, name ∈ first.names <-> name ∈ second.names
  indices : forall name, first.index? name = second.index? name
  order : forall one other index,
    first.index? one = some index -> first.index? other = some index ->
      (first.CameBefore one other <-> second.CameBefore one other)
  highWater : first.highWater = second.highWater

theorem StandsAbove.asymm
    {table : Table} {one other : String × Nat}
    (hone : table.StandsAbove one other) (hother : table.StandsAbove other one) : False := by
  rcases hone with hlt | ⟨hindex, hcame⟩
  · rcases hother with hgt | ⟨hindex, _⟩
    · exact Nat.lt_asymm hlt hgt
    · exact Nat.ne_of_gt hlt hindex
  · rcases hother with hgt | ⟨_, hbefore⟩
    · exact Nat.ne_of_gt hgt hindex
    · exact Nat.lt_asymm hcame hbefore

theorem LooksLike.byIndex_eq
    {first second : Table} (hlooks : first.LooksLike second)
    (hfirst : first.names.Nodup) (hsecond : second.names.Nodup) :
    first.byIndex = second.byIndex := by
  have hmem : forall binding, binding ∈ first.byIndex <-> binding ∈ second.byIndex := by
    rintro ⟨name, index⟩
    rw [mem_byIndex_iff hfirst, mem_byIndex_iff hsecond, hlooks.indices]
  have hperm : first.byIndex.Perm second.byIndex :=
    (List.perm_ext_iff_of_nodup (nodup_names_byIndex hfirst).of_map
      (nodup_names_byIndex hsecond).of_map).mpr hmem
  have hsorted : second.byIndex.Pairwise first.StandsAbove := by
    apply (pairwise_standsAbove hsecond).imp_of_mem
    rintro ⟨one, index⟩ ⟨other, otherIndex⟩ hone hother (hlt | ⟨hindex, hcame⟩)
    · exact Or.inl hlt
    · refine Or.inr ⟨hindex, ?_⟩
      cases hindex
      have honeIndex := (mem_byIndex_iff hfirst one index).mp ((hmem _).mpr hone)
      have hotherIndex := (mem_byIndex_iff hfirst other index).mp ((hmem _).mpr hother)
      exact (hlooks.order one other index honeIndex hotherIndex).mpr hcame
  exact hperm.eq_of_pairwise (fun _ _ _ _ hone hother => (hone.asymm hother).elim)
    (pairwise_standsAbove hfirst) hsorted

/-- The order of names that share no index does not show. -/
theorem LooksLike.of_perm
    {first second : Table} (hperm : first.bindings.Perm second.bindings)
    (hnames : first.names.Nodup) (hindices : first.indices.Nodup)
    (hhighWater : first.highWater = second.highWater) :
    first.LooksLike second := by
  have hsecond : second.names.Nodup := (hperm.map Prod.fst).nodup_iff.mp hnames
  refine ⟨fun name => (hperm.map Prod.fst).mem_iff, ?_, ?_, hhighWater⟩
  · intro name
    apply Option.ext
    intro index
    rw [← mem_bindings_iff hnames, ← mem_bindings_iff hsecond, hperm.mem_iff]
  · intro one other index hone hother
    have hbinding : (one, index) = (other, index) :=
      List.inj_on_of_nodup_map hindices ((mem_bindings_iff hnames one index).mpr hone)
        ((mem_bindings_iff hnames other index).mpr hother) rfl
    cases hbinding
    exact iff_of_false (Nat.lt_irrefl _) (Nat.lt_irrefl _)

theorem standsAbove_iff_idxOf_lt
    {table : Table} (hnames : table.names.Nodup) {one other : String × Nat}
    (hone : one ∈ table.byIndex) (hother : other ∈ table.byIndex) :
    table.StandsAbove one other <-> table.byIndex.idxOf one < table.byIndex.idxOf other := by
  have hearlier : forall {above below : String × Nat}, below ∈ table.byIndex ->
      table.byIndex.idxOf above < table.byIndex.idxOf below -> table.StandsAbove above below := by
    intro above below hbelow hlt
    have hlength := List.idxOf_lt_length_of_mem hbelow
    have hstands := List.pairwise_iff_getElem.mp (pairwise_standsAbove hnames) _ _
      (Nat.lt_trans hlt hlength) hlength hlt
    rwa [List.getElem_idxOf, List.getElem_idxOf] at hstands
  constructor
  · intro habove
    rcases Nat.lt_trichotomy (table.byIndex.idxOf one) (table.byIndex.idxOf other) with
      hlt | hsame | hgt
    · exact hlt
    · rw [(List.idxOf_inj hone).mp hsame] at habove
      exact (habove.asymm habove).elim
    · exact (habove.asymm (hearlier hone hgt)).elim
  · exact hearlier hother

theorem standsAbove_same_index_iff (table : Table) (one other : String) (index : Nat) :
    table.StandsAbove (one, index) (other, index) <-> table.CameBefore one other := by
  constructor
  · rintro (hlt | ⟨_, hcame⟩)
    · exact absurd hlt (Nat.lt_irrefl index)
    · exact hcame
  · intro hcame
    exact Or.inr ⟨rfl, hcame⟩

theorem mem_indices_or_unreachable_iff
    {table : Table} (hready : table.ReadyFor table.size) (index : Nat) :
    index < table.highWater <-> index ∈ table.indices ∨ index ∈ table.unreachable := by
  rw [unreachable, List.mem_filter, List.mem_range, decide_eq_true_eq]
  constructor
  · intro hlt
    by_cases hindex : index ∈ table.indices
    · exact Or.inl hindex
    · exact Or.inr ⟨hlt, hindex⟩
  · rintro (hindex | ⟨hlt, _⟩)
    · rcases (mem_indices_iff hready.nodup_names index).mp hindex with ⟨name, hname⟩
      exact hready.index_lt hname
    · exact hlt

theorem byIndex_eq_and_unreachable_eq_iff
    {first second : Table}
    (hfirst : first.ReadyFor first.size) (hsecond : second.ReadyFor second.size) :
    first.byIndex = second.byIndex ∧ first.unreachable = second.unreachable <->
      first.LooksLike second := by
  constructor
  · rintro ⟨hrows, hlost⟩
    have hindices : forall name, first.index? name = second.index? name := by
      intro name
      apply Option.ext
      intro index
      rw [← mem_byIndex_iff hfirst.nodup_names, ← mem_byIndex_iff hsecond.nodup_names, hrows]
    refine ⟨?_, hindices, ?_, ?_⟩
    · intro name
      rw [← not_iff_not, ← index?_eq_none_iff, ← index?_eq_none_iff, hindices]
    · intro one other index hone hother
      have honeSecond := (hindices one).symm.trans hone
      have hotherSecond := (hindices other).symm.trans hother
      rw [← standsAbove_same_index_iff first one other index,
        ← standsAbove_same_index_iff second one other index,
        standsAbove_iff_idxOf_lt hfirst.nodup_names
          ((mem_byIndex_iff hfirst.nodup_names one index).mpr hone)
          ((mem_byIndex_iff hfirst.nodup_names other index).mpr hother),
        standsAbove_iff_idxOf_lt hsecond.nodup_names
          ((mem_byIndex_iff hsecond.nodup_names one index).mpr honeSecond)
          ((mem_byIndex_iff hsecond.nodup_names other index).mpr hotherSecond), hrows]
    · have hbelow : forall index, index < first.highWater <-> index < second.highWater := by
        intro index
        rw [mem_indices_or_unreachable_iff hfirst, mem_indices_or_unreachable_iff hsecond, hlost,
          mem_indices_iff hfirst.nodup_names, mem_indices_iff hsecond.nodup_names]
        simp only [hindices]
      exact Nat.le_antisymm (Nat.le_of_not_lt fun h => Nat.lt_irrefl _ ((hbelow _).mp h))
        (Nat.le_of_not_lt fun h => Nat.lt_irrefl _ ((hbelow _).mpr h))
  · intro hlooks
    refine ⟨hlooks.byIndex_eq hfirst.nodup_names hsecond.nodup_names, ?_⟩
    rw [unreachable, unreachable, hlooks.highWater]
    apply List.filter_congr
    intro index _
    rw [decide_eq_decide, not_iff_not, mem_indices_iff hfirst.nodup_names,
      mem_indices_iff hsecond.nodup_names]
    simp only [hlooks.indices]

end Table

/-!
## Names of streams
-/

namespace Stream

theorem lineFeed_not_mem_of_readLine
    {line : List UInt8} {name : String}
    (hline : lineFeed ∉ line) (hread : readLine line = .ok name) : '\n' ∉ name.toList := by
  intro hmem
  apply hline
  rw [readLine] at hread
  cases htext : Octets.toText? line with
  | none =>
      rw [htext] at hread
      cases hread
  | some text =>
      rw [htext] at hread
      cases hread
      rw [Octets.toText?_eq_some_iff.mp htext, Octets.ofText, List.mem_flatMap]
      refine ⟨'\n', hmem, ?_⟩
      rw [isCodeOf_lineFeed.encode_mark]
      exact List.mem_singleton_self lineFeed

theorem mem_of_mem_dropFinal {octet mark : UInt8} {line : List UInt8}
    (hmem : octet ∈ dropFinal mark line) : octet ∈ line := by
  rw [dropFinal] at hmem
  split at hmem
  · exact List.dropLast_subset line hmem
  · exact hmem

theorem lineFeed_not_mem_of_mem_lines
    {stream : Stream} {name : String} (hname : .ok name ∈ stream.lines) : '\n' ∉ name.toList := by
  rcases List.mem_append.mp hname with hended | hpending
  · rcases List.mem_map.mp hended with ⟨line, hline, hread⟩
    apply lineFeed_not_mem_of_readLine _ hread
    intro hmem
    exact Cut.not_mem_of_mem_ended_byMark hline (mem_of_mem_dropFinal hmem)
  · cases hending : stream.ending with
    | broken fault =>
        rw [hending, readPending] at hpending
        cases List.mem_singleton.mp hpending
    | complete =>
        rw [hending, readPending] at hpending
        split at hpending
        · cases hpending
        · exact lineFeed_not_mem_of_readLine (Cut.not_mem_pending_byMark lineFeed stream.octets)
            (List.mem_singleton.mp hpending).symm

end Stream

namespace LineReading

theorem ok_mem_of_mem_names {readings : List LineReading} {name : String}
    (hname : name ∈ names readings) : .ok name ∈ readings := by
  induction readings with
  | nil => cases hname
  | cons reading rest ih =>
      cases reading with
      | error fault => cases hname
      | ok first =>
          rw [names] at hname
          split at hname
          · cases hname
          · rcases List.mem_cons.mp hname with rfl | hrest
            · exact List.mem_cons_self
            · exact List.mem_cons_of_mem _ (ih hrest)

end LineReading

namespace Library

theorem namesFit_after (host : Host) (streams : List Stream) :
    ((fresh host).after streams).table.NamesFit := by
  intro name hname
  have hempty : (fresh host).table.names = [].eraseDups := rfl
  rw [table_after, Manifest.names_extendAll hempty, List.mem_eraseDups, List.nil_append,
    List.mem_flatten] at hname
  rcases hname with ⟨pass, hpass, hmem⟩
  rcases List.mem_map.mp hpass with ⟨stream, _, rfl⟩
  exact Stream.lineFeed_not_mem_of_mem_lines (LineReading.ok_mem_of_mem_names hmem)

/-!
## Listings
-/

/-- Two libraries of one name have the same listing if and only if their tables have the same names
with the same indices, the same order among names that share an index, and the same high-water mark.
Below its heading a listing has one line for each binding, with no name twice, by ascending index and
as the names came where they share one; a line of the lost indices is last, and is there just where
some index below the high-water mark is bound to no name. -/
theorem listing_eq_iff_looksLike
    {host other : Host} (hsoname : host.soname = other.soname) (streams others : List Stream) :
    let first := (fresh host).after streams
    let second := (fresh other).after others
    (first.listing = second.listing <-> first.table.LooksLike second.table) ∧
      exists (rows : List (String × Nat)) (below : String),
        first.listing = first.table.heading host.soname ++ below ∧
          Cut.byMark '\n' below.toList =
            ⟨rows.map Table.bindingText ++ Table.lostTexts first.table.unreachable, []⟩ ∧
          (rows.map Prod.fst).Nodup ∧
          (forall name index,
            (name, index) ∈ rows <-> first.table.index? name = some index) ∧
          rows.Pairwise first.table.StandsAbove ∧
          (Table.lostTexts first.table.unreachable ≠ [] <->
            exists index, index < first.table.highWater ∧
              forall name, first.table.index? name ≠ some index) := by
  intro first second
  have hfirst : first.table.ReadyFor first.table.size := readyFor_after host streams
  have hsecond : second.table.ReadyFor second.table.size := readyFor_after other others
  have hfit : first.table.NamesFit := namesFit_after host streams
  have hfitSecond : second.table.NamesFit := namesFit_after other others
  have hfirstName : first.soname = host.soname := soname_after (fresh host) streams
  have hsecondName : second.soname = host.soname :=
    (soname_after (fresh other) others).trans hsoname.symm
  have hlisting : first.listing = first.table.listing host.soname := by
    rw [listing, hfirstName]
  have hsecondListing : second.listing = second.table.listing host.soname := by
    rw [listing, hsecondName]
  constructor
  · rw [hlisting, hsecondListing, Table.listing_eq_listing_iff hfit hfitSecond,
      Table.byIndex_eq_and_unreachable_eq_iff hfirst hsecond]
  · refine ⟨first.table.byIndex, first.table.body, ?_, Table.byMark_body hfit,
      Table.nodup_names_byIndex hfirst.nodup_names, Table.mem_byIndex_iff hfirst.nodup_names,
      Table.pairwise_standsAbove hfirst.nodup_names, ?_⟩
    · rw [hlisting, Table.listing_eq]
    · rw [Table.lostTexts_ne_nil_iff]
      exact exists_congr (Table.mem_unreachable_iff hfirst.nodup_names)

/-- Two tables with the same two names the other way round. -/
theorem listing_eq_iff_looksLike_turned :
    let host : Host := .scratch "lib"
    let other : Host := ⟨"lib", fun call => pure (.value (.text call.context.task.repr))⟩
    let first := (fresh host).after [.ofText "x\ny\nx\n"]
    let second := (fresh other).after [.ofText "y\ny\n", .ofText "x\nx\n"]
    host.soname = other.soname ∧
      first.table.names ≠ second.table.names ∧
      first.table.LooksLike second.table ∧
      first.listing = second.listing := by
  intro host other first second
  have hsoname : host.soname = other.soname := rfl
  have hlooks : first.table.LooksLike second.table :=
    .of_perm (by decide +kernel) (by decide +kernel) (by decide +kernel) (by decide +kernel)
  have hlisting := (listing_eq_iff_looksLike hsoname _ _).left.mpr hlooks
  exact ⟨hsoname, by decide +kernel, hlooks, hlisting⟩

end Library
end HostBridge
