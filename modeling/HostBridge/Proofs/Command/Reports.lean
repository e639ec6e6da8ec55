import HostBridge.Command.Program

/-!
# Reports and what was logged

A run writes what was logged before the diagnostics of its report.  Its exit code is that of a usage
error just where its arguments are no command.
-/

namespace HostBridge

theorem Recorded.result_map
    {first second : Type} (change : first → second) (recorded : Recorded first) :
    (change <$> recorded).result = change recorded.result := rfl

theorem Recorded.events_map
    {first second : Type} (change : first → second) (recorded : Recorded first) :
    (change <$> recorded).events = recorded.events := by
  show (recorded.journal ++ []).filterMap Entry.event? = _
  rw [List.append_nil, events]

namespace Report

@[simp] theorem code_after (earlier : List Diagnostic) (report : Report) :
    (report.after earlier).code = report.code := rfl

@[simp] theorem output_after (earlier : List Diagnostic) (report : Report) :
    (report.after earlier).output = report.output := rfl

@[simp] theorem diagnostics_after (earlier : List Diagnostic) (report : Report) :
    (report.after earlier).diagnostics = earlier ++ report.diagnostics := rfl

end Report

/-- What a run may write beside its answer: a line of the log, or a warning about the log filter. -/
inductive Diagnostic.IsNotice : Diagnostic → Prop where
  | logged (event : Event) : IsNotice (.logged event)
  | filter (fault : String) : IsNotice (Program.filterWarning fault)

namespace Program

/-- What a run writes before its report: the warnings about its filter, and the events that the
filter admits. -/
def notices (environment : Environment) (events : List Event) : List Diagnostic :=
  let (filter, faults) := LogFilter.read (environment.logFilter.getD LogFilter.standard)
  faults.map filterWarning ++ (events.filter filter.admits).map Diagnostic.logged

theorem isNotice_of_mem_notices
    {environment : Environment} {events : List Event} {notice : Diagnostic}
    (hnotice : notice ∈ notices environment events) : notice.IsNotice := by
  rcases List.mem_append.mp hnotice with hwarning | hlogged
  · rcases List.mem_map.mp hwarning with ⟨fault, _, rfl⟩
    exact .filter fault
  · rcases List.mem_map.mp hlogged with ⟨event, _, rfl⟩
    exact .logged event

theorem run_of_read?_eq_some
    {arguments : List String} {command : Command}
    (hread : Command.read? arguments = some command) (environment : Environment) :
    run environment arguments =
      (report environment command).result.after
        (notices environment (report environment command).events) := by
  rw [run, hread]
  rfl

theorem run_of_read?_eq_none
    {arguments : List String} (hread : Command.read? arguments = none)
    (environment : Environment) :
    run environment arguments = Report.usage.after (notices environment []) := by
  rw [run, hread]
  rfl

/-!
## Exit codes
-/

theorem code_callReport_ne (outcome : Except CommandFault (Outcome TracedFailure)) :
    (callReport outcome).code ≠ Report.usage.code := by
  intro hcode
  rcases outcome with fault | (value | failure | panic) <;> cases hcode

theorem code_symbolsReport_ne (listed : Except CommandFault Library) :
    (symbolsReport listed).code ≠ Report.usage.code := by
  intro hcode
  cases listed <;> cases hcode

theorem code_infoReport_ne (environment : Environment) (opened : Except LoadFailure Library) :
    (infoReport environment opened).code ≠ Report.usage.code := by
  intro hcode
  cases opened <;> cases hcode

theorem code_report_ne (environment : Environment) (command : Command) :
    (report environment command).result.code ≠ Report.usage.code := by
  cases command with
  | symbols soname manifests => exact code_symbolsReport_ne _
  | call function bind arguments => exact code_callReport_ne _
  | info => exact code_infoReport_ne environment _
  | version =>
      intro hcode
      cases hcode
  | help topic =>
      intro hcode
      cases hcode

/-- A run is a usage error if and only if its arguments are no command. -/
theorem code_run_eq_iff (environment : Environment) (arguments : List String) :
    (run environment arguments).code = Report.usage.code <-> Command.read? arguments = none := by
  cases hread : Command.read? arguments with
  | none =>
      rw [run_of_read?_eq_none hread, Report.code_after]
      exact iff_of_true rfl rfl
  | some command =>
      rw [run_of_read?_eq_some hread, Report.code_after]
      exact iff_of_false (code_report_ne environment command) (Option.some_ne_none command)

end Program
end HostBridge
