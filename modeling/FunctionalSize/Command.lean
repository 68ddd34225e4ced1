import FunctionalSize.CommandLine
import FunctionalSize.Config
import FunctionalSize.Survey

set_option autoImplicit false

namespace FunctionalSize

structure Failure where
  message : String
  causes : List String := []
deriving DecidableEq, Repr, Inhabited

namespace Failure

def ofError (e : Error) : Failure := ⟨e.message, e.chain.drop 1⟩

def addContext (context : String) (f : Failure) : Failure := ⟨context, f.message :: f.causes⟩

def chain (f : Failure) : List String := f.message :: f.causes

def indented (first later text : String) : String :=
  first ++ ("\n" ++ later).intercalate (Text.splitOn '\n' text)

def causeLines : List String → List String
  | [cause] => [indented "    " "    " cause]
  | causes => causes.mapIdx fun i cause =>
    let number := i.repr
    let blanks := String.ofList (List.replicate (5 - number.length) ' ')
    indented (blanks ++ number ++ ": ") "       " cause

def report (f : Failure) : String :=
  let causes := if f.causes.isEmpty then "" else
    "\n\nCaused by:\n" ++ "\n".intercalate (causeLines f.causes)
  "Error: " ++ f.message ++ causes ++ "\n"

end Failure

namespace Command

variable {m : Type → Type} [Monad m] [FileAccess m]

def loadConfig (path : Option String) : ExceptT Failure m Config := do
  match path with
  | none => Config.discoverHere
  | some path =>
    match ← Config.load path with
    | .ok config => return config
    | .error e => throw ((Failure.ofError e).addContext ("Failed to load configuration " ++ path))

def loadModel (main : RoutineId) (path : String) : ExceptT Failure m Model.Loaded := do
  match ← Model.loadPath main path with
  | .ok loaded => return loaded
  | .error e => throw ((Failure.ofError e).addContext ("Failed to load program model " ++ path))

def save (path text : String) (context : Option String) : ExceptT Failure m Unit := do
  match ← FileAccess.save path text with
  | .ok () => return ()
  | .error fault =>
    let failure : Failure := ⟨fault.message, []⟩
    throw (context.elim failure (failure.addContext ·))

structure AnalyzeRequest where
  path : String
  overrides : Config.Overrides := {}
  output : Option String := none
  config : Option String := none

/-- Analyses a model and renders its report. A report for a file is never colored. -/
def renderReport (request : AnalyzeRequest) (terminalColor : Bool) :
    ExceptT Failure m String := do
  let config ← loadConfig request.config
  let loaded ← loadModel config.mainRoutine request.path
  match Analysis.run loaded.program config.classifier (request.overrides.settings config) with
  | .error e => throw ((Failure.ofError e).addContext "Analysis failed")
  | .ok report =>
    let color := if request.output.isSome then ColorMode.never else config.colorMode
    return report.render (color.resolve terminalColor) (request.overrides.resolveFormat config)

structure BatchRequest where
  targets : List String
  overrides : Config.Overrides := {}
  output : Option String := none
  config : Option String := none

def survey (request : BatchRequest) : ExceptT Failure m Survey := do
  let config ← loadConfig request.config
  Survey.ofTargets
    { main := config.mainRoutine
      classifier := config.classifier
      settings := request.overrides.settings config } request.targets

def writeTemplate (directory : String) (force : Bool) : ExceptT Failure m String := do
  let path := Path.join directory Config.fileName
  if (← FileAccess.kind? path).isSome ∧ !force then
    throw ⟨"Configuration file already exists. Use --force to overwrite.", []⟩
  save path Config.template none
  return path

/-- What a run of the program leaves: its exit code and what it printed. `logFilter` is the filter
that the log starts with, unless the environment sets one. -/
structure Outcome where
  code : Nat := 0
  stdout : String := ""
  stderr : String := ""
  logFilter : Option String := none
deriving DecidableEq, Repr, Inhabited

def deliver (text : String) (output : Option String) (context : String) :
    ExceptT Failure m String := do
  match output with
  | none => return text
  | some path =>
    save path text (context ++ path)
    return ""

def averageLine (s : Survey) : String :=
  match s.average? with
  | some average =>
    "Average eLOC/FP across " ++ s.measured.length.repr ++ " targets: "
      ++ Decimal.fixed 2 average ++ "\n"
  | none => "No target had a functional size\n"

open CommandLine in
def overridesOf (c : Choices) : Config.Overrides where
  strategy := c.strategyChoice
  oracle := c.oracle
  format := c.format
  omitTrigger := c.omitTrigger

open CommandLine in
def execute (terminalColor : Bool) : Invocation → ExceptT Failure m Outcome
  | .analyze c => do
    let text ← renderReport ⟨c.words.headD "", overridesOf c, c.output, c.config⟩ terminalColor
    return { stdout := ← deliver text c.output "Failed to write report to " }
  | .batch c => do
    let s ← survey ⟨c.words, overridesOf c, c.output, c.config⟩
    return {
      stdout := ← deliver s.csv c.output "Failed to write CSV to "
      stderr := averageLine s }
  | .init c => do
    let path ← writeTemplate "." c.force
    return { stdout := "Created " ++ path ++ " configuration file\n" }

def usage : String := Text.unlines
  ["COSMIC functional-size estimator",
   "",
   "Usage: cosmicmap <COMMAND>",
   "",
   "Commands:",
   "  analyze  Estimate functional size of a program model",
   "  batch    Size several targets and write eLOC per functional point as CSV",
   "  init     Initialize configuration file",
   "  help     Print this message or the help of the given subcommand(s)",
   "",
   "Options:",
   "  -h, --help     Print help",
   "  -V, --version  Print version"]

def versionLine : String := "cosmicmap 0.3.0\n"

open CommandLine in
def stopText : Stop → String
  | .unknownArgument => "unexpected argument found"
  | .unknownCommand => "unrecognized subcommand"
  | .invalidValue => "invalid value for an argument"
  | .tooManyValues => "unexpected value for an argument"
  | .conflict => "arguments cannot be used together"
  | .missingArgument => "required arguments were not provided"
  | _ => ""

open CommandLine in
def stopped : Stop → Outcome
  | .help => { stdout := usage }
  | .version => { stdout := versionLine }
  | .helpForMissing => { code := 2, stderr := usage }
  | stop => { code := 2, stderr := "error: " ++ stopText stop ++ "\n\n" ++ usage }

def run (terminalColor : Bool) (args : List String) : m Outcome := do
  match CommandLine.parse args with
  | .error stop => return stopped stop
  | .ok invocation =>
    let logFilter := some invocation.choices.logFilter
    match ← (execute terminalColor invocation).run with
    | .ok outcome => return { outcome with logFilter }
    | .error failure => return { code := 1, stderr := failure.report, logFilter }

end Command

end FunctionalSize
