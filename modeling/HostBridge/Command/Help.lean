import HostBridge.Command.Arguments

/-!
# Pages of help

A page says what a command is for and how it is called, and lists what it takes in tables of two columns.
-/

namespace HostBridge

structure HelpTable where
  title : String
  rows : List (String × String)

namespace HelpTable

/-- The second column stands behind the longest entry of the first. -/
def text (table : HelpTable) : String :=
  let width := (table.rows.map fun row => row.1.length).foldl max 0
  table.title ++ ":\n" ++
    String.join (table.rows.map fun row =>
      "  " ++ String.ofList (row.1.toList.rightpad width ' ') ++ "  " ++ row.2 ++ "\n")

end HelpTable

structure HelpPage where
  about : String
  usage : String
  tables : List HelpTable

namespace HelpPage

def text (page : HelpPage) : String :=
  page.about ++ "\n\nUsage: " ++ page.usage ++ "\n" ++
    String.join (page.tables.map fun table => "\n" ++ table.text)

def symbolsAbout : String := "Load symbol manifests and print the binding table"

def callAbout : String := "Call a core primitive"

def infoAbout : String := "Display version and environment info"

def helpAbout : String := "Print this message or the help of the given subcommand(s)"

def helpRow : String × String := ("-h, --help", "Print help")

end HelpPage

/-- Options without a short form stand below the long forms of those that have one. -/
def Topic.page : Topic → HelpPage
  | .program =>
      ⟨"Kiln native library toolkit", "kiln <COMMAND>",
        [⟨"Commands", [("symbols", HelpPage.symbolsAbout), ("call", HelpPage.callAbout),
            ("info", HelpPage.infoAbout), ("help", HelpPage.helpAbout)]⟩,
          ⟨"Options", [HelpPage.helpRow, ("-V, --version", "Print version")]⟩]⟩
  | .symbols =>
      ⟨HelpPage.symbolsAbout, "kiln symbols [OPTIONS] <MANIFESTS>...",
        [⟨"Arguments", [("<MANIFESTS>...", "Manifest files, loaded in order")]⟩,
          ⟨"Options", [("    --soname <SONAME>",
              "Library name used in diagnostics [default: " ++ Command.defaultSoname ++ "]"),
            HelpPage.helpRow]⟩]⟩
  | .call =>
      ⟨HelpPage.callAbout, "kiln call [OPTIONS] <FUNCTION> [ARGS]...",
        [⟨"Arguments", [("<FUNCTION>", "Function name in kiln.core"),
            ("[ARGS]...", "Call arguments as literals")]⟩,
          ⟨"Options", [("    --bind <BIND>",
              "Value to bind ahead of the arguments (repeatable, applied in order)"),
            HelpPage.helpRow]⟩]⟩
  | .info => ⟨HelpPage.infoAbout, "kiln info", [⟨"Options", [HelpPage.helpRow]⟩]⟩
  | .help =>
      ⟨HelpPage.helpAbout, "kiln help [COMMAND]...",
        [⟨"Arguments", [("[COMMAND]...", "Print help for the subcommand(s)")]⟩]⟩

end HostBridge
