import HostBridge.Primitive.Catalog
import HostBridge.Proofs.Call.HostRuns
import HostBridge.Proofs.Symbol.Reserved
import HostBridge.Proofs.Symbol.Splitting

/-!
# Opening the core library

Both manifests of the core library load, and leave its names in the order of the primitives.  So a name
is resolved to the index of the primitive that has it, and a call by an index runs the primitive there.
-/

namespace HostBridge

namespace Primitive

def names : List String :=
  all.map name

theorem nodup_names : names.Nodup := by
  decide

theorem getElem?_names_eq_some_iff (index : Nat) (function : String) :
    names[index]? = some function <->
      exists primitive, all[index]? = some primitive ∧ primitive.name = function := by
  rw [names, List.getElem?_map, Option.map_eq_some_iff]

theorem mem_all (primitive : Primitive) : primitive ∈ all := by
  cases primitive <;> decide

theorem mem_names_iff (function : String) :
    function ∈ names <-> exists primitive : Primitive, primitive.name = function := by
  rw [names, List.mem_map]
  constructor
  · intro hname
    rcases hname with ⟨primitive, _, hname⟩
    exact ⟨primitive, hname⟩
  · intro hname
    rcases hname with ⟨primitive, hname⟩
    exact ⟨primitive, mem_all primitive, hname⟩

end Primitive

namespace CoreLibrary

/-!
## The library when it is opened
-/

/-- The manifests list the names of the primitives in the order of their indices. -/
theorem names_manifests :
    Manifest.names arithmeticManifest ++ Manifest.names conversionsManifest = Primitive.names := by
  decide +kernel

def table : Table :=
  (Table.empty.extend (Manifest.names arithmeticManifest)).extend (Manifest.names conversionsManifest)

def library : Library :=
  ⟨host, table⟩

theorem opened_result : opened.result = .ok library := by
  rw [opened, Recorded.result_bind, Manifest.load_ofText_result]
  show Recorded.result (_ >>= _) = _
  rw [Recorded.result_bind, Manifest.load_ofText_result]
  rfl

theorem inOrder_table : table.InOrder Primitive.names := by
  have hboth : ([] ++ Manifest.names arithmeticManifest ++
      Manifest.names conversionsManifest).Nodup := by
    rw [List.nil_append, names_manifests]
    exact Primitive.nodup_names
  rw [← names_manifests]
  exact (Table.inOrder_empty.extend hboth.of_append_left).extend hboth

theorem index?_table_iff (function : String) (index : Nat) :
    table.index? function = some index <->
      exists primitive, Primitive.all[index]? = some primitive ∧ primitive.name = function := by
  rw [inOrder_table.index?_eq_some_iff, Primitive.getElem?_names_eq_some_iff]

theorem index?_table_eq_none_iff (function : String) :
    table.index? function = none <-> forall primitive : Primitive, primitive.name ≠ function := by
  rw [Table.index?_eq_none_iff, inOrder_table.names_eq, Primitive.mem_names_iff, not_exists]

/-!
## Calls by index
-/

theorem dispatch_host (call : HostCall) :
    host.dispatch call =
      ⟨.ofExcept (answer call.index call.arguments),
        [.logged (.dispatched soname call.index call.arguments.length)]⟩ := rfl

theorem answer_of_getElem?
    {index : Nat} {primitive : Primitive} (hindex : Primitive.all[index]? = some primitive)
    (arguments : List Value) :
    answer index arguments = primitive.run arguments := by
  rw [answer, hindex]

theorem answer_of_le
    {index : Nat} (hindex : Primitive.all.length ≤ index) (arguments : List Value) :
    answer index arguments = .error (.unknownIndex soname index) := by
  rw [answer, List.getElem?_eq_none hindex]

theorem invoke_curryAll_of_getElem?
    {index : Nat} {primitive : Primitive} (hindex : Primitive.all[index]? = some primitive)
    (name : String) (values : List Value) (context : Context) (arguments : List Value) :
    ((Callable.native host name index).curryAll values).invoke context arguments =
      ⟨(Outcome.ofExcept (primitive.run (values ++ arguments))).throughFrames
          (Callable.nativeFrames host name values.length),
        [.logged (.dispatched soname index (values ++ arguments).length)]⟩ := by
  rw [Callable.invoke_native_curryAll, dispatch_host, answer_of_getElem? hindex]
  cases primitive.run (values ++ arguments) with
  | error cause => rfl
  | ok result => rfl

end CoreLibrary
end HostBridge
