import FunctionalSize.Error
import FunctionalSize.Report
import FunctionalSize.Table
import FunctionalSize.Text
import FunctionalSize.Text.Lowercase

set_option autoImplicit false

namespace FunctionalSize

def paint (color : Bool) (style text : String) : String :=
  if color then "\x1b[" ++ style ++ "m" ++ text ++ "\x1b[0m" else text

def markdownRow (cells : List String) : String := "| " ++ " | ".intercalate cells ++ " |"

namespace FunctionalProcess

def markdownCells (p : FunctionalProcess) : List String :=
  ["`" ++ p.name ++ "`", p.source, p.movements.entries.repr, p.movements.exits.repr,
    p.movements.reads.repr, p.movements.writes.repr, p.size.repr, p.routines.repr]

end FunctionalProcess

namespace Report

def markdownSummary (r : Report) : List String :=
  ["## Summary", "", "| Metric | Value |", "|--------|-------|",
    markdownRow ["Functional processes", r.processes.length.repr],
    markdownRow ["Entries", r.totals.entries.repr],
    markdownRow ["Exits", r.totals.exits.repr],
    markdownRow ["Reads", r.totals.reads.repr],
    markdownRow ["Writes", r.totals.writes.repr],
    markdownRow ["Functional size (CFP)", r.size.repr], ""]

def markdownProcesses (r : Report) : List String :=
  if r.processes.isEmpty then ["_No functional processes found._"]
  else
    ["## Functional Processes", "",
      "| Process | Source | E | X | R | W | Size | Functions |",
      "|---------|--------|---|---|---|---|------|-----------|"]
    ++ r.processes.map fun p => markdownRow p.markdownCells

def markdownText (r : Report) : String :=
  Text.unlines (["# COSMIC Functional Size Report", ""] ++ r.markdownSummary ++ r.markdownProcesses)

def processTable (r : Report) : Table where
  columns := [⟨"Process", .left⟩, ⟨"Source", .left⟩, ⟨"E", .right⟩, ⟨"X", .right⟩, ⟨"R", .right⟩,
    ⟨"W", .right⟩, ⟨"Size", .right⟩, ⟨"Functions", .right⟩]
  rows := r.processes.map fun p =>
    [p.name, p.source, p.movements.entries.repr, p.movements.exits.repr, p.movements.reads.repr,
      p.movements.writes.repr, p.size.repr, p.routines.repr]

def terminalTitle (color : Bool) : String :=
  paint color "1;34" "COSMIC Functional Size Report" ++ "\n"
    ++ paint color "34" "=============================" ++ "\n\n"

def terminalText (color : Bool) (r : Report) : String :=
  if r.processes.isEmpty then
    terminalTitle color ++ paint color "33" "No functional processes found" ++ "\n"
  else
    terminalTitle color ++ r.processTable.render ++ "\n\n"
      ++ "Totals: " ++ r.totals.entries.repr ++ " entries, " ++ r.totals.exits.repr ++ " exits, "
      ++ r.totals.reads.repr ++ " reads, " ++ r.totals.writes.repr ++ " writes\n"
      ++ "Functional size: " ++ paint color "1;32" r.size.repr ++ " CFP across "
      ++ r.processes.length.repr ++ " processes\n"

end Report

inductive Format where
  | json
  | terminal
  | markdown
deriving DecidableEq, Repr, Inhabited

namespace Format

def name : Format → String
  | json => "json"
  | terminal => "terminal"
  | markdown => "markdown"

def parse (text : String) : Except UnknownName Format :=
  match Text.lowercase text with
  | "json" => .ok json
  | "terminal" => .ok terminal
  | "markdown" | "md" => .ok markdown
  | small => .error (.format small)

end Format

/-- When to use colors; `auto` leaves it to what the terminal shows. -/
inductive ColorMode where
  | auto
  | always
  | never
deriving DecidableEq, Repr, Inhabited

namespace ColorMode

def ofSetting : Option Bool → ColorMode
  | some true => always
  | some false => never
  | none => auto

def resolve (terminal : Bool) : ColorMode → Bool
  | auto => terminal
  | always => true
  | never => false

end ColorMode

def Report.render (r : Report) (color : Bool) : Format → String
  | .json => r.jsonText
  | .terminal => r.terminalText color
  | .markdown => r.markdownText

end FunctionalSize
