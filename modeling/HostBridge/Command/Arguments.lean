/-!
# Command lines

The arguments of the program as a command.  Options and positional arguments may be mixed; after two
dashes everything is positional.  An argument that starts with a dash is otherwise an option, but for
a dash alone and, where a place takes numbers, for negative numbers.  An option that asks for help is
answered at once, whatever stands behind it.
-/

namespace HostBridge

inductive Topic where
  | program
  | symbols
  | call
  | info
  | help
  deriving DecidableEq, Repr

def Topic.ofName? : String → Option Topic
  | "symbols" => some .symbols
  | "call" => some .call
  | "info" => some .info
  | "help" => some .help
  | _ => none

inductive Command where
  | symbols (soname : String) (manifests : List String)
  | call (function : String) (bind arguments : List String)
  | info
  | version
  | help (topic : Topic)
  deriving DecidableEq, Repr

/-!
## Shapes of arguments
-/

namespace Argument

/-- Digits with at most one point, which is not first and comes before any exponent letter, and at
most one exponent letter, which is neither first nor last. -/
def isUnsigned : (started pointed marked : Bool) → List Char → Bool
  | _, _, _, [] => true
  | started, pointed, marked, first :: rest =>
      if first.isDigit then isUnsigned true pointed marked rest
      else if first = '.' then started && !pointed && !marked && isUnsigned true true marked rest
      else if first = 'e' ∨ first = 'E' then
        started && !marked && !rest.isEmpty && isUnsigned true pointed true rest
      else false

def isNegativeNumber : List Char → Bool
  | '-' :: rest => isUnsigned false false false rest
  | _ => false

inductive Shape where
  | separator
  | long (name : String) (value : Option String)
  | help
  | short
  | negative
  | plain
  deriving DecidableEq, Repr

/-- An option of two dashes may carry its value behind an equals sign. -/
def longShape (text : List Char) : Shape :=
  let name := String.ofList (text.takeWhile (· ≠ '='))
  match text.dropWhile (· ≠ '=') with
  | [] => if name = "help" then .help else .long name none
  | _ :: value => .long name (some (String.ofList value))

def shape (argument : String) : Shape :=
  match argument.toList with
  | ['-', '-'] => .separator
  | '-' :: '-' :: rest => longShape rest
  | ['-'] => .plain
  | '-' :: 'h' :: _ => .help
  | '-' :: rest => if isNegativeNumber ('-' :: rest) then .negative else .short
  | _ => .plain

end Argument

/-!
## Options and positional arguments
-/

/-- What a command takes: one option with a value, whether that value may be a negative number, and
the position from which on arguments may be. -/
structure Parameters where
  option : String
  optionNegative : Bool
  negativeFrom : Option Nat
  deriving DecidableEq, Repr

/-- Reading ends behind the last argument, at one that asks for help, or at one that fits nowhere. -/
inductive Ending where
  | complete
  | help
  | misfit
  deriving DecidableEq, Repr

structure Gathered where
  options : List String := []
  positional : List String := []
  ending : Ending := .complete
  deriving DecidableEq, Repr

namespace Gathered

def addOption (value : String) (gathered : Gathered) : Gathered :=
  { gathered with options := value :: gathered.options }

def addPositional (argument : String) (gathered : Gathered) : Gathered :=
  { gathered with positional := argument :: gathered.positional }

end Gathered

namespace Parameters

def isOptionValue (parameters : Parameters) (argument : String) : Bool :=
  match Argument.shape argument with
  | .plain => true
  | .negative => parameters.optionNegative
  | _ => false

def takesNegative (parameters : Parameters) (position : Nat) : Bool :=
  match parameters.negativeFrom with
  | some first => first ≤ position
  | none => false

/-- The values of the option and the positional arguments, each in order, up to where reading ends; there
were `position` positional arguments before. -/
def gather (parameters : Parameters) : (position : Nat) → List String → Gathered
  | _, [] => {}
  | position, argument :: rest =>
      match Argument.shape argument with
      | .separator => { positional := rest }
      | .plain => (gather parameters (position + 1) rest).addPositional argument
      | .negative =>
          if parameters.takesNegative position then
            (gather parameters (position + 1) rest).addPositional argument
          else { ending := .misfit }
      | .help => { ending := .help }
      | .short => { ending := .misfit }
      | .long name attached =>
          if name ≠ parameters.option then { ending := .misfit }
          else
            match attached with
            | some value => (gather parameters position rest).addOption value
            | none =>
                match rest with
                | [] => { ending := .misfit }
                | value :: later =>
                    if parameters.isOptionValue value then
                      (gather parameters position later).addOption value
                    else { ending := .misfit }

end Parameters

/-!
## Commands
-/

namespace Command

def callParameters : Parameters :=
  ⟨"bind", true, some 1⟩

def symbolsParameters : Parameters :=
  ⟨"soname", false, none⟩

def defaultSoname : String := "scratch"

def readCall (arguments : List String) : Option Command :=
  let gathered := callParameters.gather 0 arguments
  match gathered.ending, gathered.positional with
  | .help, _ => some (.help .call)
  | .complete, function :: rest => some (.call function gathered.options rest)
  | _, _ => none

/-- An empty path, or a second value of the option, is refused also where help is asked for behind it. -/
def readSymbols (arguments : List String) : Option Command :=
  let gathered := symbolsParameters.gather 0 arguments
  if "" ∈ gathered.positional ∨ 1 < gathered.options.length then none
  else
    match gathered.ending, gathered.positional with
    | .help, _ => some (.help .symbols)
    | .complete, first :: rest =>
        some (.symbols (gathered.options.headD defaultSoname) (first :: rest))
    | _, _ => none

def readInfo : List String → Option Command
  | [] => some .info
  | ["--"] => some .info
  | first :: _ => if Argument.shape first = .help then some (.help .info) else none

def readHelp : List String → Option Command
  | [] => some (.help .program)
  | [name] => (Topic.ofName? name).map .help
  | _ => none

def read? : List String → Option Command
  | [] => none
  | first :: rest =>
      if first = "--version" ∨ first.toList.take 2 = ['-', 'V'] then some .version
      else if Argument.shape first = .help then some (.help .program)
      else if first = "help" then readHelp rest
      else if first = "call" then readCall rest
      else if first = "symbols" then readSymbols rest
      else if first = "info" then readInfo rest
      else none

end Command
end HostBridge
