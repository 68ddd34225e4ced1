import FunctionalSize.Analysis
import FunctionalSize.Files
import FunctionalSize.Report.Format
import FunctionalSize.Toml.Document

set_option autoImplicit false

namespace FunctionalSize

structure AnalysisSection where
  strategy : Option Strategy := none
  oracle : Option OracleKind := none
  countTrigger : Option Bool := none
  mainPackage : Option String := none
  mainName : Option String := none
  extendRules : Option Bool := none
deriving DecidableEq, Repr, Inhabited

structure OutputSection where
  format : Option String := none
  useColor : Option Bool := none
deriving DecidableEq, Repr, Inhabited

structure Config where
  analysis : Option AnalysisSection := none
  rules : Option Rulebook := none
  output : Option OutputSection := none
deriving DecidableEq, Inhabited

namespace Config

open Toml Std

def strategyOfToml? (v : Value) : Option Strategy := do
  match ← v.asName? with
  | "static" => some .static
  | "whole-program" => some .wholeProgram
  | _ => none

def oracleOfToml? (v : Value) : Option OracleKind := do
  match ← v.asName? with
  | "recorded" => some .recorded
  | "address-taken" => some .addressTaken
  | _ => none

def analysisOfToml? (v : Value) : Option AnalysisSection := do
  match ← v.fields? ["strategy", "oracle", "count_triggering_entry", "main_module", "main_name",
      "extend_default_rules"] with
  | [strategy, oracle, countTrigger, mainPackage, mainName, extendRules] =>
    return {
      strategy := ← Value.optional strategyOfToml? strategy
      oracle := ← Value.optional oracleOfToml? oracle
      countTrigger := ← Value.optional Value.asBool? countTrigger
      mainPackage := ← Value.optional Value.asString? mainPackage
      mainName := ← Value.optional Value.asString? mainName
      extendRules := ← Value.optional Value.asBool? extendRules }
  | _ => none

def verdictsOfToml? (v : Value) : Option Verdicts := do
  let packages ← v.asMap? (Value.asMap? Value.asBool?)
  return ExtTreeMap.ofList (packages.map fun (package, names) => (package, ExtTreeMap.ofList names))

def ruleSetOfToml? (v : Value) : Option RuleSet := do
  match ← v.fields? ["exact", "suffixes", "substrings"] with
  | [exact, suffixes, substrings] =>
    return {
      exact := (← Value.optional verdictsOfToml? exact).getD ∅
      suffixes := (← Value.optional (Value.asList? Value.asString?) suffixes).getD []
      substrings := (← Value.optional (Value.asList? Value.asString?) substrings).getD [] }
  | _ => none

def rulebookOfToml? (v : Value) : Option Rulebook := do
  match ← v.fields? ["registration", "read", "write", "exit"] with
  | [registration, read, write, exit] =>
    return {
      registration := (← Value.optional ruleSetOfToml? registration).getD .empty
      read := (← Value.optional ruleSetOfToml? read).getD .empty
      write := (← Value.optional ruleSetOfToml? write).getD .empty
      exit := (← Value.optional ruleSetOfToml? exit).getD .empty }
  | _ => none

/-- Given as an array, the section must hold a format. -/
def outputOfToml? (v : Value) : Option OutputSection := do
  if let .array [] := v then none
  match ← v.fields? ["default_format", "use_color"] with
  | [format, useColor] =>
    return {
      format := ← Value.optional Value.asString? format
      useColor := ← Value.optional Value.asBool? useColor }
  | _ => none

def ofToml? (v : Value) : Option Config := do
  match ← v.fields? ["analysis", "rules", "output"] with
  | [analysis, rules, output] =>
    return {
      analysis := ← Value.optional analysisOfToml? analysis
      rules := ← Value.optional rulebookOfToml? rules
      output := ← Value.optional outputOfToml? output }
  | _ => none

/-- Reads a configuration text. The main routine must have a name. -/
def parse (text : String) : Except Error Config :=
  match (Toml.parse? text).bind ofToml? with
  | none => .error (.toml Toml.syntaxMessage)
  | some config =>
    if (config.analysis.bind (·.mainName)) = some "" then
      .error (.configuration "analysis.main_name must not be empty")
    else .ok config

def analysisSection (c : Config) : AnalysisSection := c.analysis.getD {}

def settings (c : Config) : Settings :=
  let base : Settings := {}
  { strategy := c.analysisSection.strategy.getD base.strategy
    oracle := c.analysisSection.oracle.getD base.oracle
    countTrigger := c.analysisSection.countTrigger.getD base.countTrigger }

def mainRoutine (c : Config) : RoutineId where
  package := c.analysisSection.mainPackage.getD "main"
  name := c.analysisSection.mainName.getD "main"

def rulebook (c : Config) : Rulebook :=
  match c.rules with
  | none => .builtIn
  | some rules =>
    if c.analysisSection.extendRules.getD true then Rulebook.builtIn.overlay rules else rules

def classifier (c : Config) : Classifier := .ofRulebook c.rulebook

def formatName? (c : Config) : Option String := c.output.bind (·.format)

/-- The configured format; an unknown one counts as JSON. -/
def format (c : Config) : Format :=
  match c.formatName?.map Format.parse with
  | some (.ok format) => format
  | _ => .json

def colorMode (c : Config) : ColorMode := .ofSetting (c.output.bind (·.useColor))

def template : String := Text.unlines
  ["# cosmicmap configuration",
   "",
   "[analysis]",
   "# \"static\" follows direct calls only; \"whole-program\" also resolves calls",
   "# through function values and interfaces",
   "strategy = \"static\"",
   "# \"address-taken\" or \"recorded\" (points-to sets written into the model)",
   "oracle = \"address-taken\"",
   "count_triggering_entry = true",
   "main_module = \"main\"",
   "main_name = \"main\"",
   "# project rules below are overlaid on the built-in tables",
   "extend_default_rules = true",
   "",
   "[output]",
   "default_format = \"terminal\"",
   "",
   "# [rules.read.exact.\"example.com/app/store\"]",
   "# Load = true",
   "#",
   "# [rules.write]",
   "# suffixes = [\"Save\"]"]

/-- Choices on the command line, which win over the configuration. -/
structure Overrides where
  strategy : Option Strategy := none
  oracle : Option OracleKind := none
  format : Option Format := none
  omitTrigger : Bool := false
deriving DecidableEq, Repr, Inhabited

def Overrides.settings (o : Overrides) (c : Config) : Settings where
  strategy := o.strategy.getD c.settings.strategy
  oracle := o.oracle.getD c.settings.oracle
  countTrigger := !o.omitTrigger && c.settings.countTrigger

def Overrides.resolveFormat (o : Overrides) (c : Config) : Format := o.format.getD c.format

variable {m : Type → Type} [Monad m]

def fileName : String := ".cosmicmap.toml"

def searchDepth : Nat := 10

def searchPaths (start : String) : List String :=
  (Path.ancestors searchDepth start).map fun directory => Path.join directory fileName

def firstValid (read : String → m (Except Fault String)) : List String → m (Option Config)
  | [] => return none
  | path :: rest => do
    match (← read path).toOption.bind fun text => (parse text).toOption with
    | some config => return some config
    | none => firstValid read rest

def discover (read : String → m (Except Fault String)) (start : String) : m Config :=
  return (← firstValid read (searchPaths start)).getD {}

variable [FileAccess m]

def discoverHere : m Config := do
  match ← FileAccess.currentDirectory? with
  | some directory => discover FileAccess.readText directory
  | none => return {}

def load (path : String) : m (Except Error Config) := do
  match ← FileAccess.readText path with
  | .error fault => return .error (.fileSystem "failed to read config file" path fault.message)
  | .ok text => return (parse text).mapError (·.addContext ("invalid config " ++ path))

end Config

end FunctionalSize
