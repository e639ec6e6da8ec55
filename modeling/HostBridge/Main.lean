import HostBridge.Command.Program

/-!
# Command line

The run of the program in its surroundings: manifests come from the file system, the filter from the
environment, and log lines carry the time since the system came up.
-/

namespace HostBridge

/-- The system's words for a path that cannot be opened. -/
def openReason : IO.Error → String
  | .noFileOrDirectory .. => "No such file or directory (os error 2)"
  | .permissionDenied .. => "Permission denied (os error 13)"
  | other => toString other

/-- A directory opens, and fails at the first read. -/
def openStream (path : String) : IO (Except String Stream) := do
  try
    let content ← IO.FS.readBinFile path
    return .ok ⟨content.toList, .complete⟩
  catch
    | .inappropriateType .. => return .ok ⟨[], .broken "Is a directory (os error 21)"⟩
    | reason => return .error (openReason reason)

/-- The manifests of a command, opened beforehand. -/
def openManifests : Option Command → IO SymbolsCommand.Files
  | some (.symbols _ manifests) => do
      let opened ← manifests.mapM fun path => return (path, ← openStream path)
      return fun path => (opened.lookup path).getD (.error "not opened")
  | _ => return fun _ => .error "not opened"

def kernelName (file : String) : IO String := do
  try
    return (← IO.FS.readFile ("/proc/sys/kernel/" ++ file)).trimAscii.toString.toLower
  catch _ => return "unknown"

def platform : IO String :=
  return (← kernelName "ostype") ++ " (" ++ (← kernelName "arch") ++ ")"

end HostBridge

open HostBridge in
def main (arguments : List String) : IO UInt32 := do
  let files ← openManifests (Command.read? arguments)
  let environment : Environment :=
    { logFilter := ← IO.getEnv "KILN_LOG"
      noColor := ← IO.getEnv "NO_COLOR"
      platform := ← platform
      files := files }
  let report := Program.run environment arguments
  IO.print report.output
  IO.eprint (report.errorText (toString (← IO.monoMsNow)))
  return UInt32.ofNat report.code
