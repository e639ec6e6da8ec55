import HostBridge.Main
import HostBridge.Value.Classes
import HostBridge.Workspace
import HostBridge.Proofs.Call.Currying
import HostBridge.Proofs.Call.Layers
import HostBridge.Proofs.Command.LiteralSplit
import HostBridge.Proofs.Command.Manifests
import HostBridge.Proofs.Command.WrittenArguments
import HostBridge.Proofs.Symbol.Assignments
import HostBridge.Proofs.Symbol.Passes
import HostBridge.Proofs.Text.Lines
import HostBridge.Proofs.Text.LongestText
import HostBridge.Proofs.Symbol.Numbering
import HostBridge.Proofs.Symbol.BrokenStreams
import HostBridge.Proofs.Symbol.LostIndices
import HostBridge.Proofs.Symbol.Rebinding
import HostBridge.Proofs.Symbol.Splitting
import HostBridge.Proofs.Symbol.Reserved
import HostBridge.Proofs.Symbol.InvalidText
import HostBridge.Proofs.Symbol.LastLine
import HostBridge.Proofs.Symbol.Listings
import HostBridge.Proofs.Symbol.Replay
import HostBridge.Proofs.Primitive.Resolution
import HostBridge.Proofs.Session.Capture
import HostBridge.Proofs.Number.Rounding
import HostBridge.Proofs.Number.Shortest
import HostBridge.Proofs.Number.IntegerText
import HostBridge.Proofs.Number.SignedDigits
import HostBridge.Proofs.Number.Numeral
import HostBridge.Proofs.Number.FloatText
import HostBridge.Proofs.Literal.Forms
import HostBridge.Proofs.Literal.RoundTrip
import HostBridge.Proofs.Literal.Grammar
import HostBridge.Proofs.Literal.WrittenForms
import HostBridge.Proofs.Primitive.WholeNumbers
import HostBridge.Proofs.Primitive.Wrapping
import HostBridge.Proofs.Primitive.Division
import HostBridge.Proofs.Primitive.NumberOrder
import HostBridge.Proofs.Primitive.Panics
import HostBridge.Proofs.Value.Classes
import HostBridge.Proofs.Value.Boxings
import HostBridge.Proofs.Value.Heaps
import HostBridge.Proofs.Value.Conversions
import HostBridge.Proofs.Primitive.CharacterCodes
