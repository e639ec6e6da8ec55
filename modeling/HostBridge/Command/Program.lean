import HostBridge.Command.Call
import HostBridge.Command.Help
import HostBridge.Command.LogFilter
import HostBridge.Command.Symbols
import HostBridge.Text.Terminal

/-!
# The program

A run of the program as a report: its exit code, its output, and its diagnostics, which are messages
and the log events that the filter admits.
-/

namespace HostBridge

structure Environment where
  logFilter : Option String := none
  noColor : Option String := none
  platform : String
  files : SymbolsCommand.Files

inductive Diagnostic where
  | message (words : String)
  | logged (event : Event)
  deriving DecidableEq, Repr

namespace Diagnostic

/-- Later lines of a log message are indented. -/
def indent (text : String) : String :=
  String.join (text.toList.map fun character =>
    if character = '\n' then "\n    " else String.singleton character)

/-- Messages are written as they are, and log lines as plain text. -/
def text (stamp : String) : Diagnostic → String
  | .message words => words ++ "\n"
  | .logged event =>
      Terminal.plainText
        ("[" ++ stamp ++ " " ++ String.ofList (event.level.name.toList.rightpad 5 ' ') ++ " " ++
          event.origin ++ "] " ++ indent event.message ++ "\n")

end Diagnostic

structure Report where
  code : Nat
  output : String := ""
  diagnostics : List Diagnostic := []
  deriving DecidableEq, Repr

namespace Report

def success (output : String) : Report :=
  { code := 0, output := output }

def failed (message : String) : Report :=
  { code := 1, diagnostics := [.message ("error: " ++ message)] }

def usage : Report :=
  { code := 2, diagnostics := [.message "usage: kiln (call | symbols | info | help | --version)"] }

/-- Put diagnostics in front of those of a report. -/
def after (earlier : List Diagnostic) (report : Report) : Report :=
  ⟨report.code, report.output, earlier ++ report.diagnostics⟩

def errorText (report : Report) (stamp : String) : String :=
  String.join (report.diagnostics.map (Diagnostic.text stamp))

end Report

/-!
## Commands
-/

namespace Program

def programVersion : String := "0.2.0"

def callReport : Except CommandFault (Outcome TracedFailure) → Report
  | .error fault => .failed fault.message
  | .ok (.value value) => .success (Literal.write value ++ "\n")
  | .ok (.failure failure) => .failed failure.render
  | .ok (.panic panic) => .failed panic.message

def symbolsReport : Except CommandFault Library → Report
  | .error fault => .failed fault.message
  | .ok library => .success library.listing

def variableLine (name : String) (value : Option String) : String :=
  "  " ++ name ++ " = " ++ value.getD "(default)" ++ "\n"

def infoReport (environment : Environment) : Except LoadFailure Library → Report
  | .error cause => .failed (CommandFault.library cause).message
  | .ok library =>
      .success ("Kiln v" ++ programVersion ++ "\n\n" ++
        "Platform:     " ++ environment.platform ++ "\n" ++
        "Core library: " ++ library.soname ++ " (" ++ toString library.table.size ++
          " symbols)\n\n" ++
        "Environment:\n" ++
        variableLine "KILN_LOG" environment.logFilter ++
        variableLine "NO_COLOR" environment.noColor)

def report (environment : Environment) : Command → Recorded Report
  | .symbols soname manifests =>
      symbolsReport <$> SymbolsCommand.run environment.files soname manifests
  | .call function bind arguments => callReport <$> CallCommand.run function bind arguments
  | .info => infoReport environment <$> CoreLibrary.opened
  | .version => pure (.success ("kiln " ++ programVersion ++ "\n"))
  | .help topic => pure (.success topic.page.text)

def filterWarning (fault : String) : Diagnostic :=
  .message ("warning: invalid logging spec '" ++ fault ++ "', ignoring it")

/-- What was logged comes before the report's own diagnostics. -/
def run (environment : Environment) (arguments : List String) : Report :=
  let (filter, faults) := LogFilter.read (environment.logFilter.getD LogFilter.standard)
  let reported : Recorded Report :=
    match Command.read? arguments with
    | none => pure .usage
    | some command => report environment command
  let logged := (reported.events.filter filter.admits).map Diagnostic.logged
  reported.result.after (faults.map filterWarning ++ logged)

end Program
end HostBridge
