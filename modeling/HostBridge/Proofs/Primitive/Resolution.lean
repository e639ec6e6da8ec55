import HostBridge.Proofs.Primitive.Opening

/-!
# Resolution after later passes

A first pass over different names keeps its indices for them, whatever passes follow.  The core library
is opened with such names, so a name of it that is resolved after any more passes reaches the primitive
of that name, or an index that has no primitive.
-/

namespace HostBridge

namespace CoreLibrary

open Callable (nativeFrame)

theorem index?_of_reserves
    {table : Table} (hreserves : table.Reserves Primitive.names) {name : String} {index : Nat}
    (hindex : table.index? name = some index) :
    (exists primitive, Primitive.all[index]? = some primitive ∧ primitive.name = name) ∨
      Primitive.all.length ≤ index := by
  have hlength : Primitive.names.length = Primitive.all.length := List.length_map _
  rcases Nat.lt_or_ge index Primitive.all.length with hlt | hge
  · left
    rw [← hlength] at hlt
    exact (Primitive.getElem?_names_eq_some_iff index name).mp (hreserves.owner hlt hindex)
  · right
    exact hge

theorem invoke_native_of_le
    {index : Nat} (hindex : Primitive.all.length ≤ index)
    (name : String) (context : Context) (arguments : List Value) :
    ((Callable.native host name index).invoke context arguments).result =
      .failure ⟨.unknownIndex soname index, [nativeFrame host name]⟩ := by
  rw [Callable.result_invoke_native, dispatch_host, answer_of_le hindex]
  rfl

end CoreLibrary

namespace Library

open Callable (nativeFrame)

/-- If the first pass over a fresh library binds different names, each to its position, then at every
later time no other name has one of these positions, and each of the names has its own or an index above
them all.  The manifests of the core library list the names of its primitives in the order of their
indices, and with those it opens.  After any more passes a callable that a name of it is resolved to runs
the primitive of that name, or fails since there is no primitive at its index. -/
theorem later_passes_keep_indices :
    (forall (host : Host) (first : Stream),
      let names := LineReading.names first.lines
      let loaded := (fresh host).after [first]
      names.Nodup ->
        (forall name index, loaded.table.index? name = some index <-> names[index]? = some name) ∧
          forall later,
            (loaded.after later).table.Reserves names ∧
              forall step, step ∈ loaded.steps later ->
                step.before.Reserves names ∧ step.after.Reserves names) ∧
      Manifest.names CoreLibrary.arithmeticManifest ++
          Manifest.names CoreLibrary.conversionsManifest = Primitive.all.map Primitive.name ∧
      CoreLibrary.opened.result = .ok CoreLibrary.library ∧
      CoreLibrary.library.table.InOrder (Primitive.all.map Primitive.name) ∧
      forall later name callable,
        (CoreLibrary.library.after later).resolve? name = some callable ->
          (exists index primitive,
            Primitive.all[index]? = some primitive ∧
              primitive.name = name ∧
              forall context arguments,
                callable.invoke context arguments =
                  ⟨(Outcome.ofExcept (primitive.run arguments)).throughFrames
                      [nativeFrame CoreLibrary.host name],
                    [.logged (.dispatched CoreLibrary.soname index arguments.length)]⟩) ∨
            exists index,
              Primitive.all.length ≤ index ∧
                forall context arguments,
                  (callable.invoke context arguments).result =
                    .failure ⟨.unknownIndex CoreLibrary.soname index,
                      [nativeFrame CoreLibrary.host name]⟩ := by
  refine ⟨?_, CoreLibrary.names_manifests, CoreLibrary.opened_result, CoreLibrary.inOrder_table, ?_⟩
  · intro host first names loaded hnames
    have horder : loaded.table.InOrder names := inOrder_first_pass host hnames
    exact ⟨horder.index?_eq_some_iff, reserves_after horder.reserves⟩
  · intro later name callable hresolved
    have horder : CoreLibrary.library.table.InOrder Primitive.names := CoreLibrary.inOrder_table
    have hreserves := (reserves_after horder.reserves later).left
    rcases (resolve?_eq_some_iff _ name callable).mp hresolved with ⟨index, hindex, rfl⟩
    rw [after_eq]
    rcases CoreLibrary.index?_of_reserves hreserves hindex with
      ⟨primitive, hprimitive, hname⟩ | hnone
    · left
      exact ⟨index, primitive, hprimitive, hname,
        CoreLibrary.invoke_curryAll_of_getElem? hprimitive name []⟩
    · right
      exact ⟨index, hnone, CoreLibrary.invoke_native_of_le hnone name⟩

/-- Two passes that bind the first names again and give out indices twice leave the first two indices
alone.  A core primitive whose name is bound again is out of reach by that name. -/
theorem later_passes_keep_indices_rebound :
    let first := Stream.ofText "a\nb\n"
    let later := [Stream.ofText "a\nx\na\n", Stream.ofText "y\nb\n"]
    let table : Table := ⟨[("a", 4), ("b", 4), ("x", 3), ("y", 3)], 5⟩
    (LineReading.names first.lines).Nodup ∧
      ((fresh (.scratch "lib")).after (first :: later)).table = table ∧
      table.Reserves ["a", "b"] ∧
      (CoreLibrary.library.after [.ofText "add\n"]).resolve? "add" =
        some (.native CoreLibrary.host "add" 17) ∧
      ((Callable.native CoreLibrary.host "add" 17).invoke .detached []).result =
        .failure ⟨.unknownIndex "kiln.core" 17, [⟨"kiln.core::add", "native call"⟩]⟩ := by
  intro first later table
  have hnames : (LineReading.names first.lines).Nodup := by decide +kernel
  have htable : ((fresh (.scratch "lib")).after (first :: later)).table = table := by
    decide +kernel
  have hreserves := ((later_passes_keep_indices.left (.scratch "lib") first hnames).right later).left
  have hindex : (CoreLibrary.library.after [.ofText "add\n"]).table.index? "add" = some 17 := by
    decide +kernel
  have hresolved : (CoreLibrary.library.after [.ofText "add\n"]).resolve? "add" =
      some (.native CoreLibrary.host "add" 17) := by
    rw [resolve?_eq_some_iff]
    exact ⟨17, hindex, by rw [after_eq]; rfl⟩
  refine ⟨hnames, htable, ?_, hresolved, ?_⟩
  · rw [← htable]
    exact hreserves
  · rcases later_passes_keep_indices.right.right.right.right _ _ _ hresolved with
      ⟨index, primitive, hprimitive, _, hinvoke⟩ | ⟨index, _, hinvoke⟩
    · have hjournal : [Entry.logged (.dispatched "kiln.core" 17 0)] =
          [Entry.logged (.dispatched "kiln.core" index 0)] :=
        congrArg Recorded.journal (hinvoke .detached [])
      cases hjournal
      cases hprimitive
    · have hresult := hinvoke .detached []
      cases hresult
      exact hinvoke .detached []

end Library
end HostBridge
