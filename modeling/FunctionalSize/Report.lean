import FunctionalSize.Category
import FunctionalSize.Json.Parser
import FunctionalSize.Json.Value

set_option autoImplicit false

namespace FunctionalSize

open Std

/-- One functional process. `routines` is the number of routines that it reaches. -/
structure FunctionalProcess where
  name : String
  source : String := ""
  movements : Movements
  routines : Nat
deriving DecidableEq, Repr, Inhabited

namespace FunctionalProcess

def size (p : FunctionalProcess) : Nat := p.movements.total

def order (a b : FunctionalProcess) : Ordering :=
  (compare a.name b.name).then (compare a.source b.source)

end FunctionalProcess

structure Report where
  totals : Movements := 0
  processes : List FunctionalProcess := []
deriving DecidableEq, Repr, Inhabited

namespace Report

/-- Sorts processes, equal keys in the given order, and adds up their movements. The totals are
exact, and counters of 64 bits show them modulo `2 ^ 64`. -/
def ofProcesses (processes : List FunctionalProcess) : Report :=
  let sorted := processes.mergeSort fun a b => (a.order b).isLE
  ⟨sorted.foldl (fun acc p => acc + p.movements) 0, sorted⟩

def size (r : Report) : Nat := r.totals.total

end Report

def Json.asCount? (j : Json) : Option Nat := do
  let n ← j.asNat?
  if n < UInt64.size then return n else none

namespace FunctionalProcess

def toJson (p : FunctionalProcess) : Json :=
  .object ([("name", .string p.name)]
    ++ (if p.source.isEmpty then [] else [("source", .string p.source)])
    ++ [("entries", .ofNat p.movements.entries), ("exits", .ofNat p.movements.exits),
      ("reads", .ofNat p.movements.reads), ("writes", .ofNat p.movements.writes),
      ("functions_included", .ofNat p.routines)])

def ofJson? (j : Json) : Option FunctionalProcess := do
  match ← j.fields? ["name", "source", "entries", "exits", "reads", "writes",
      "functions_included"] with
  | [name, source, entries, exits, reads, writes, routines] =>
    return {
      name := ← Json.required Json.asString? name
      source := ← Json.withDefault "" Json.asString? source
      movements := {
        entries := ← Json.required Json.asCount? entries
        exits := ← Json.required Json.asCount? exits
        reads := ← Json.required Json.asCount? reads
        writes := ← Json.required Json.asCount? writes }
      routines := ← Json.required Json.asCount? routines }
  | _ => none

end FunctionalProcess

namespace Report

def toJson (r : Report) : Json :=
  .object [("total_entries", .ofNat r.totals.entries), ("total_exits", .ofNat r.totals.exits),
    ("total_reads", .ofNat r.totals.reads), ("total_writes", .ofNat r.totals.writes),
    ("processes", .array (r.processes.map FunctionalProcess.toJson))]

def ofJson? (j : Json) : Option Report := do
  match ← j.fields? ["total_entries", "total_exits", "total_reads", "total_writes",
      "processes"] with
  | [entries, exits, reads, writes, processes] =>
    return {
      totals := {
        entries := ← Json.required Json.asCount? entries
        exits := ← Json.required Json.asCount? exits
        reads := ← Json.required Json.asCount? reads
        writes := ← Json.required Json.asCount? writes }
      processes := ← Json.required (Json.asList? FunctionalProcess.ofJson?) processes }
  | _ => none

def jsonText (r : Report) : String := r.toJson.pretty 0 ++ "\n"

def parse? (text : String) : Option Report := (Json.parse? text).bind ofJson?

end Report

end FunctionalSize
