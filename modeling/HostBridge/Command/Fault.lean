import HostBridge.Literal.Reading
import HostBridge.Symbol.Loading

/-!
# Command faults

What stops a command before it has an answer.
-/

namespace HostBridge

inductive CommandFault where
  | unknownFunction (name soname : String)
  | literal (cause : LiteralFault)
  | cannotOpen (path reason : String)
  | cannotLoad (path : String) (cause : LoadFailure)
  | library (cause : LoadFailure)
  deriving DecidableEq, Repr

/-- The fault and what is behind it, outermost first. -/
def CommandFault.message : CommandFault → String
  | .unknownFunction name soname => "no function named '" ++ name ++ "' in " ++ soname
  | .literal cause => cause.message
  | .cannotOpen path reason => "cannot open " ++ path ++ ": " ++ reason
  | .cannotLoad path cause =>
      "failed to load " ++ path ++ ": " ++ cause.message ++ ": " ++ cause.cause.message
  | .library cause => cause.message ++ ": " ++ cause.cause.message

end HostBridge
