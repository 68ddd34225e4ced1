import FunctionalSize.CallGraph
import FunctionalSize.LocalCounts
import FunctionalSize.Report

set_option autoImplicit false

namespace FunctionalSize

open Std

structure Reach where
  routines : ExtTreeSet RoutineId := ∅
  movements : Movements := 0

namespace Reach

def empty : Reach := {}

def add (counts : LocalCounts) (reach : Reach) (id : RoutineId) : Reach :=
  if id ∈ reach.routines then reach
  else ⟨reach.routines.insert id, reach.movements + counts.get id⟩

def ofWalk (counts : LocalCounts) (walk : List RoutineId) : Reach :=
  walk.foldl (add counts) empty

def size (reach : Reach) : Nat := reach.routines.size

end Reach

/-- Depth-first walk over direct calls. Undefined routines are met as leaves and left out. -/
def Program.staticWalk (p : Program) (root : RoutineId) : List RoutineId :=
  (p.staticGraph.visit .depthFirst root).filter p.contains

def Program.staticReach (p : Program) (counts : LocalCounts) (root : RoutineId) : Reach :=
  .ofWalk counts (p.staticWalk root)

def CallGraph.walk? (g : CallGraph) (root : RoutineId) : Option (List RoutineId) :=
  if g.contains root then some (g.toGraph.visit .breadthFirst root) else none

/-- The walk of the call graph, or the static walk from a root that is no node of it. -/
def CallGraph.walk (g : CallGraph) (p : Program) (root : RoutineId) : List RoutineId :=
  (g.walk? root).getD (p.staticWalk root)

def CallGraph.reach (g : CallGraph) (p : Program) (counts : LocalCounts) (root : RoutineId) :
    Reach :=
  .ofWalk counts (g.walk p root)

inductive Strategy where
  | static
  | wholeProgram
deriving DecidableEq, Repr, Inhabited

namespace Strategy

def name : Strategy → String
  | static => "static"
  | wholeProgram => "whole-program"

def parse (text : String) : Except UnknownName Strategy :=
  match text with
  | "static" => .ok static
  | "whole-program" | "whole_program" | "ptr" => .ok wholeProgram
  | _ => .error (.strategy text)

end Strategy

/-- Choices of a run. `countTrigger` adds the entry that triggers a process to its count. -/
structure Settings where
  strategy : Strategy := .static
  oracle : OracleKind := .addressTaken
  countTrigger : Bool := true
deriving DecidableEq, Repr, Inhabited

namespace Analysis

/-- Where a process starts: the source of its entry, or the name when that is not known. -/
def sourceOf (p : Program) (entry : RoutineId) : String :=
  match p.get? entry with
  | some r => if r.source.isEmpty then entry.qualified else r.source
  | none => entry.qualified

def process (p : Program) (countTrigger : Bool) (entry : RoutineId) (reach : Reach) :
    FunctionalProcess where
  name := entry.qualified
  source := sourceOf p entry
  movements :=
    if countTrigger then { reach.movements with entries := reach.movements.entries + 1 }
    else reach.movements
  routines := reach.size

def reachability (p : Program) (counts : LocalCounts) (oracle : Oracle) :
    Strategy → Except Error (RoutineId → Reach)
  | .static => .ok (p.staticReach counts)
  | .wholeProgram => (CallGraph.build p oracle).map fun g => g.reach p counts

def runWith (p : Program) (classifier : Classifier) (oracle : Oracle) (settings : Settings) :
    Except Error Report := do
  let reach ← reachability p (.compute p classifier) oracle settings.strategy
  return .ofProcesses ((EntrySet.detect p classifier).toList.map fun entry =>
    process p settings.countTrigger entry (reach entry))

def run (p : Program) (classifier : Classifier) (settings : Settings) : Except Error Report :=
  runWith p classifier (settings.oracle.toOracle p) settings

end Analysis

end FunctionalSize
