import FunctionalSize.Analysis
import FunctionalSize.Report.Format

set_option autoImplicit false

/-!
# The command line

Arguments are read one after another. The value of an option and the words of a command are only
looked at when the next argument has been understood, or at the end. So an argument that is not
known is reported before a wrong value in front of it. A value that is attached to its option by
an equals sign is looked at right away.
-/

namespace FunctionalSize

namespace CommandLine

inductive Stop where
  | help
  /-- Help is shown because there is no command. -/
  | helpForMissing
  | version
  | unknownArgument
  | unknownCommand
  | invalidValue
  | tooManyValues
  | conflict
  | missingArgument
deriving DecidableEq, Repr, Inhabited

inductive ValueOption where
  | strategy
  | oracle
  | format
  | output
  | config
deriving DecidableEq, Repr, Inhabited

inductive Switch where
  | pointers
  | omitTrigger
  | force
  | verbose
  | help
  | version
deriving DecidableEq, Repr, Inhabited

inductive Key where
  | value (option : ValueOption)
  | switch (switch : Switch)
deriving DecidableEq, Repr, Inhabited

inductive Arity where
  | none
  | one
  | many
deriving DecidableEq, Repr, Inhabited

structure Grammar where
  long : List (String × Key)
  short : List (Char × Key)
  words : Arity

structure Choices where
  strategy : Option Strategy := none
  oracle : Option OracleKind := none
  format : Option Format := none
  output : Option String := none
  config : Option String := none
  pointers : Bool := false
  omitTrigger : Bool := false
  force : Bool := false
  verbosity : Nat := 0
  words : List String := []
deriving DecidableEq, Repr, Inhabited

namespace Choices

def strategyOf? : String → Option Strategy
  | "static" => some .static
  | "whole-program" | "ptr" => some .wholeProgram
  | _ => none

def oracleOf? : String → Option OracleKind
  | "recorded" => some .recorded
  | "address-taken" => some .addressTaken
  | _ => none

def formatOf? : String → Option Format
  | "json" => some .json
  | "terminal" => some .terminal
  | "markdown" => some .markdown
  | _ => none

def pathOf? (text : String) : Option String := if text = "" then none else some text

def isGiven (c : Choices) : ValueOption → Bool
  | .strategy => c.strategy.isSome
  | .oracle => c.oracle.isSome
  | .format => c.format.isSome
  | .output => c.output.isSome
  | .config => c.config.isSome

def assign? (c : Choices) (text : String) : ValueOption → Option Choices
  | .strategy => (strategyOf? text).map fun v => { c with strategy := some v }
  | .oracle => (oracleOf? text).map fun v => { c with oracle := some v }
  | .format => (formatOf? text).map fun v => { c with format := some v }
  | .output => (pathOf? text).map fun v => { c with output := some v }
  | .config => (pathOf? text).map fun v => { c with config := some v }

def setValue (c : Choices) (option : ValueOption) (text : String) : Except Stop Choices :=
  if c.isGiven option then .error .conflict
  else match c.assign? text option with
    | some c => .ok c
    | none => .error .invalidValue

def addWords (c : Choices) (words : List String) : Except Stop Choices :=
  if words.all (· ≠ "") then .ok { c with words := c.words ++ words } else .error .invalidValue

/-- Turns a switch on. Only verbosity can be raised repeatedly, up to what a byte holds. -/
def turnOn (c : Choices) : Switch → Except Stop Choices
  | .pointers => if c.pointers then .error .conflict else .ok { c with pointers := true }
  | .omitTrigger => if c.omitTrigger then .error .conflict else .ok { c with omitTrigger := true }
  | .force => if c.force then .error .conflict else .ok { c with force := true }
  | .verbose => .ok { c with verbosity := min 255 (c.verbosity + 1) }
  | .help => .error .help
  | .version => .error .version

end Choices

inductive Pending where
  | nothing
  | option (option : ValueOption) (value : Option String)
  | words (words : List String)
deriving DecidableEq, Repr, Inhabited

structure State where
  choices : Choices := {}
  pending : Pending := .nothing
  started : Bool := false
  onlyWords : Bool := false

namespace State

def settle (s : State) : Except Stop State :=
  match s.pending with
  | .nothing => .ok s
  | .option _ none => .error .invalidValue
  | .option option (some text) => do
    return { s with choices := ← s.choices.setValue option text, pending := .nothing }
  | .words words => do
    return { s with choices := ← s.choices.addWords words, pending := .nothing }

def attach (s : State) (option : ValueOption) (text : String) : Except Stop State := do
  let s ← s.settle
  return { s with choices := ← s.choices.setValue option text }

def await (s : State) (option : ValueOption) : Except Stop State := do
  return { ← s.settle with pending := .option option none }

def switch (s : State) (switch : Switch) : Except Stop State := do
  let s ← s.settle
  return { s with choices := ← s.choices.turnOn switch }

def readLong (g : Grammar) (s : State) (name : String) (value : Option String) :
    Except Stop State :=
  match g.long.lookup name, value with
  | none, _ => .error .unknownArgument
  | some (.value option), some text => s.attach option text
  | some (.value option), none => s.await option
  | some (.switch _), some _ => .error .tooManyValues
  | some (.switch switch), none => s.switch switch

def readShort (g : Grammar) (s : State) : List Char → Except Stop State
  | [] => .ok s
  | c :: rest =>
    match g.short.lookup c with
    | none => .error .unknownArgument
    | some (.switch switch) => do readShort g (← s.switch switch) rest
    | some (.value option) =>
      match rest with
      | [] => s.await option
      | '=' :: value => s.attach option (String.ofList value)
      | value => s.attach option (String.ofList value)

def readWord (g : Grammar) (s : State) (word : String) : Except Stop State :=
  match g.words, s.pending with
  | .none, _ => .error .unknownArgument
  | .one, _ =>
    if s.started then .error .unknownArgument
    else do return { ← s.settle with pending := .words [word], started := true }
  | .many, .words words => .ok { s with pending := .words (words ++ [word]) }
  | .many, _ => do return { ← s.settle with pending := .words [word], started := true }

def read (g : Grammar) (s : State) (arg : String) : Except Stop State :=
  if s.onlyWords then s.readWord g arg
  else match arg.toList with
    | ['-', '-'] => .ok { s with onlyWords := true }
    | '-' :: '-' :: rest =>
      let name := String.ofList (rest.takeWhile (· ≠ '='))
      match rest.dropWhile (· ≠ '=') with
      | _ :: value => s.readLong g name (some (String.ofList value))
      | [] => s.readLong g name none
    | '-' :: c :: rest => s.readShort g (c :: rest)
    | _ =>
      match s.pending with
      | .option option none => .ok { s with pending := .option option (some arg) }
      | _ => s.readWord g arg

end State

def Grammar.read (g : Grammar) (args : List String) : Except Stop Choices := do
  let s ← (← args.foldlM (State.read g) {}).settle
  let c := s.choices
  if c.pointers ∧ c.strategy.isSome then throw .conflict
  if g.words ≠ .none ∧ c.words = [] then throw .missingArgument
  return c

def sharedLong : List (String × Key) :=
  [("strategy", .value .strategy), ("ptr", .switch .pointers), ("oracle", .value .oracle),
    ("output", .value .output), ("config", .value .config),
    ("no-trigger-entry", .switch .omitTrigger), ("verbose", .switch .verbose),
    ("help", .switch .help)]

def sharedShort : List (Char × Key) :=
  [('o', .value .output), ('c', .value .config), ('v', .switch .verbose), ('h', .switch .help)]

def analyzeGrammar : Grammar :=
  ⟨("format", .value .format) :: sharedLong, ('f', .value .format) :: sharedShort, .one⟩

def batchGrammar : Grammar := ⟨sharedLong, sharedShort, .many⟩

def initGrammar : Grammar :=
  ⟨[("force", .switch .force), ("help", .switch .help)],
    [('f', .switch .force), ('h', .switch .help)], .none⟩

def rootGrammar : Grammar :=
  ⟨[("help", .switch .help), ("version", .switch .version)],
    [('h', .switch .help), ('V', .switch .version)], .none⟩

inductive Invocation where
  | analyze (choices : Choices)
  | batch (choices : Choices)
  | init (choices : Choices)
deriving DecidableEq, Repr, Inhabited

def Invocation.choices : Invocation → Choices
  | analyze c | batch c | init c => c

def commandNames : List String := ["analyze", "batch", "init", "help"]

def helpOn : List String → Stop
  | [] => .help
  | [name] => if name ∈ commandNames then .help else .unknownCommand
  | _ => .unknownCommand

def parse : List String → Except Stop Invocation
  | [] => .error .helpForMissing
  | ["--"] => .error .helpForMissing
  | "--" :: word :: _ =>
    .error (if word ∈ commandNames then .unknownArgument else .unknownCommand)
  | "analyze" :: args => (analyzeGrammar.read args).map .analyze
  | "batch" :: args => (batchGrammar.read args).map .batch
  | "init" :: args => (initGrammar.read args).map .init
  | "help" :: args => .error (helpOn args)
  | arg :: _ =>
    match arg.toList with
    | '-' :: _ :: _ =>
      match State.read rootGrammar {} arg with
      | .error stop => .error stop
      | .ok _ => .error .help
    | _ => .error .unknownCommand

/-- `ptr` on its own is a way to name the strategy. -/
def Choices.strategyChoice (c : Choices) : Option Strategy :=
  if c.pointers then some .wholeProgram else c.strategy

def Choices.logFilter (c : Choices) : String :=
  match c.verbosity with
  | 0 => "cosmicmap=warn"
  | 1 => "cosmicmap=info"
  | 2 => "cosmicmap=debug"
  | _ => "cosmicmap=trace"

end CommandLine

end FunctionalSize
