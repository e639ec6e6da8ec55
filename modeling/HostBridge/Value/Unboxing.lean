import HostBridge.Failure
import HostBridge.Value.Datum

/-!
# Boxing and unboxing

What a value gives where a certain type is wanted, and the value that each type makes.  Integers
accept characters, longs accept both, and doubles accept singles and integers; everything else
accepts its own tag alone.  A refusal names the type that was wanted and the value's own.
-/

namespace HostBridge
namespace Unboxing

def refuse {target : Type} (wanted : String) (value : Value) : Except Failure target :=
  .error (.typeMismatch wanted value.typeName)

def accept {target : Type} (wanted : String) (value : Value) (view : Datum → Option target) :
    Except Failure target :=
  match value.datum?.bind view with
  | some result => .ok result
  | none => refuse wanted value

def integer (value : Value) : Except Failure Int32 :=
  accept "int" value Datum.asInteger?

def truth (value : Value) : Except Failure Bool :=
  accept "bool" value fun datum => datum.asInteger?.map fun number => number ≠ 0

def character (value : Value) : Except Failure UInt16 :=
  accept "char" value fun
    | .character unit => some unit
    | _ => none

def long (value : Value) : Except Failure Int64 :=
  accept "long" value fun datum => datum.whole?.map Int64.ofInt

def single (value : Value) : Except Failure Single :=
  accept "f32" value fun
    | .single number => some number
    | _ => none

def double (value : Value) : Except Failure Double :=
  accept "f64" value fun
    | .double number => some number
    | .single number => some number.toDouble
    | .integer number => some (Double.ofInt number.toInt)
    | _ => none

def text (value : Value) : Except Failure String :=
  match value.text? with
  | some content => .ok content
  | none => refuse "string" value

end Unboxing
end HostBridge
