import FunctionalSize.Analysis
import FunctionalSize.Category
import FunctionalSize.Decimal
import FunctionalSize.LineCount
import FunctionalSize.Model.Intake
import FunctionalSize.Text

set_option autoImplicit false

namespace FunctionalSize

namespace Survey

/-- One target. `ratio` is lines of code for each unit of functional size. -/
structure Row where
  target : String
  lines : Nat
  movements : Movements
  size : Nat
  ratio : Float
deriving Inhabited

namespace Row

/-- Lines for each unit of size, rounded to two decimals, and zero without a size. -/
def ratioOf (lines size : Nat) : Float :=
  if size = 0 then 0.0 else (lines.toFloat / size.toFloat * 100.0).round / 100.0

def measure (target : String) (lines : Nat) (movements : Movements) : Row where
  target := target
  lines := lines
  movements := movements
  size := movements.total
  ratio := ratioOf lines movements.total

end Row

def doubleQuotes : List Char → List Char
  | [] => []
  | c :: rest => if c = '"' then '"' :: '"' :: doubleQuotes rest else c :: doubleQuotes rest

def needsQuotes (field : String) : Bool :=
  field.toList.any fun c => c == ',' || c == '"' || c == '\n' || c == '\r'

def csvField (field : String) : String :=
  if needsQuotes field then "\"" ++ String.ofList (doubleQuotes field.toList) ++ "\"" else field

def csvHeader : String := "repo,total_loc,entries,exits,reads,writes,cosmic_fp,eloc_per_fp"

def Row.fields (r : Row) : List String :=
  [csvField r.target, r.lines.repr, r.movements.entries.repr, r.movements.exits.repr,
    r.movements.reads.repr, r.movements.writes.repr, r.size.repr, Decimal.shortest r.ratio]

def Row.csvLine (r : Row) : String := ",".intercalate r.fields

end Survey

structure Survey where
  rows : List Survey.Row := []
deriving Inhabited

namespace Survey

def measured (s : Survey) : List Row := s.rows.filter fun r => r.ratio > 0.0

def average? (s : Survey) : Option Float :=
  match s.measured with
  | [] => none
  | rows => some ((rows.map Row.ratio).foldl (· + ·) 0.0 / rows.length.toFloat)

def csv (s : Survey) : String :=
  Text.unlines (csvHeader :: s.rows.map Row.csvLine)

end Survey

variable {m : Type → Type} [Monad m] [FileAccess m]

/-- Lines of all Go files at or below a path, except hidden ones and those that are no text. -/
def LineCount.below (path : String) : m LineCount := do
  let files ← FileAccess.filesBelow (·.startsWith ".") path
  let counts ← (files.filter fun f => Path.extension? f == some "go").mapM fun f => do
    match ← FileAccess.readText f with
    | .ok text => return LineCount.ofSource text
    | .error _ => return (0 : LineCount)
  return counts.foldl (· + ·) 0

namespace Survey

structure Method where
  main : RoutineId := Model.defaultMain
  classifier : Classifier := .builtIn
  settings : Settings := {}

def targetName (path : String) : String := (Path.fileName? path).getD path

def sourcePath (path : String) : m String := do
  if ← FileAccess.isFile path then return (Path.parent? path).getD path else return path

/-- Movements of a target, none when it cannot be analysed. -/
def movementsOf (method : Method) (path : String) : m Movements := do
  match ← Model.loadPath method.main path with
  | .error _ => return 0
  | .ok loaded =>
    match Analysis.run loaded.program method.classifier method.settings with
    | .error _ => return 0
    | .ok report => return report.totals

def measureTarget (method : Method) (path : String) : m Row := do
  let lines ← LineCount.below (← sourcePath path)
  return .measure (targetName path) lines.code (← movementsOf method path)

def ofTargets (method : Method) (paths : List String) : m Survey :=
  return ⟨← paths.mapM (measureTarget method)⟩

end Survey

end FunctionalSize
