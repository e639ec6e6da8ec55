import HostBridge.Text.Lines
import HostBridge.Text.Octets

/-!
# Manifest streams

A stream of octets ends, or breaks off with a fault.  It is read line by line: a line runs to its
line feed, and has to be a text by itself.  A fault hits the line being read, also one of which
nothing has come yet.
-/

namespace HostBridge

inductive StreamEnd where
  | complete
  | broken (fault : String)
  deriving DecidableEq, Repr

structure Stream where
  octets : List UInt8
  ending : StreamEnd := .complete
  deriving DecidableEq, Repr

inductive ReadFault where
  | notText
  | device (fault : String)
  deriving DecidableEq, Repr

def ReadFault.message : ReadFault → String
  | .notText => "stream did not contain valid UTF-8"
  | .device fault => fault

abbrev LineReading := Except ReadFault String

namespace Stream

def lineFeed : UInt8 := 10

def carriageReturn : UInt8 := 13

def ofText (text : String) : Stream :=
  ⟨Octets.ofText text, .complete⟩

def readLine (line : List UInt8) : LineReading :=
  match Octets.toText? line with
  | some text => .ok text
  | none => .error .notText

def readPending (pending : List UInt8) : StreamEnd → List LineReading
  | .broken fault => [.error (.device fault)]
  | .complete => if pending = [] then [] else [readLine pending]

/-- The lines in order.  Nothing is read after the first that fails. -/
def lines (stream : Stream) : List LineReading :=
  let cut := Cut.byMark lineFeed stream.octets
  cut.ended.map (fun line => readLine (dropFinal carriageReturn line)) ++
    readPending cut.pending stream.ending

end Stream
end HostBridge
