import HostBridge.Proofs.Call.Currying

/-!
# Runs of a host

A native function with any number of values bound to it makes one run of its host, at the index that it
keeps and on the values before the arguments.  What comes of the run passes its own boundary and those of
the values.
-/

namespace HostBridge

namespace Outcome

/-- What boundaries make of the outcome of a host: a failure gets their frames, and a panic becomes a
failure with them. -/
def throughFrames (frames : List Frame) : Outcome Failure → Outcome TracedFailure
  | .value result => .value result
  | .failure cause => .failure ⟨cause, frames⟩
  | .panic payload => .failure ⟨.panicked payload.message, frames⟩

end Outcome

namespace Callable

def nativeFrames (host : Host) (name : String) (count : Nat) : List Frame :=
  nativeFrame host name ::
    (List.range count).map fun inner =>
      ⟨host.soname ++ "::" ++ name ++ String.join (List.replicate (inner + 1) curryMarker),
        curriedLabel⟩

theorem nativeFrames_eq (host : Host) (name : String) (index count : Nat) :
    nativeFrames host name count =
      nativeFrame host name :: (native host name index).curriedFrames count := rfl

theorem invoke_native_curryAll
    (host : Host) (name : String) (index : Nat) (values : List Value)
    (context : Context) (arguments : List Value) :
    ((native host name index).curryAll values).invoke context arguments =
      let run := host.dispatch ⟨index, context, values ++ arguments⟩
      ⟨run.result.throughFrames (nativeFrames host name values.length),
        run.journal ++ containmentLog run.result.traced⟩ := by
  rw [invoke_curryAll, invoke]
  generalize host.dispatch ⟨index, context, values ++ arguments⟩ = run
  rcases run with ⟨outcome, journal⟩
  cases outcome with
  | value result =>
      simp only [Outcome.traced]
      rw [Recorded.contain_value, Recorded.containAll_value]
      simp [containmentLog, Outcome.throughFrames]
  | failure cause =>
      simp only [Outcome.traced]
      rw [Recorded.contain_failure, Recorded.containAll_failure]
      simp [containmentLog, Outcome.throughFrames, nativeFrames_eq host name index]
  | panic payload =>
      simp only [Outcome.traced]
      rw [Recorded.contain_panic, Recorded.containAll_failure, containmentLog_panic]
      rfl

theorem result_invoke_native
    (host : Host) (name : String) (index : Nat) (context : Context) (arguments : List Value) :
    ((native host name index).invoke context arguments).result =
      (host.dispatch ⟨index, context, arguments⟩).result.throughFrames [nativeFrame host name] :=
  congrArg Recorded.result (invoke_native_curryAll host name index [] context arguments)

end Callable
end HostBridge
