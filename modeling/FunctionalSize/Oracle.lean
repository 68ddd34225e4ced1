import FunctionalSize.Error
import FunctionalSize.Program

set_option autoImplicit false

/-!
# Oracles

An oracle answers which routines a dynamic call may reach, or fails. Recorded callees are trusted:
a callee in a package that the program does not define is library code and is dropped, and one
that is missing from a defined package makes the model inconsistent, which is a failure. Without
recorded callees the address-taken oracle gives every method of the invoked name, or every routine
that is passed as an argument somewhere.
-/

namespace FunctionalSize

open Std

structure Oracle where
  name : String
  feasible : Program → RoutineId → CallSite → Except Error (List RoutineId)

def recordedTargets (p : Program) (caller : RoutineId) :
    List RoutineId → Except Error (List RoutineId)
  | [] => .ok []
  | target :: rest =>
    if p.contains target then
      (recordedTargets p caller rest).map (target :: ·)
    else if p.definesPackage target.package then
      .error (.aliasAnalysis ("call in " ++ caller.qualified ++ " records target "
        ++ target.qualified ++ " which is not defined in the program model"))
    else recordedTargets p caller rest

/-- What a program passes around as values, and its methods by bare name. -/
structure AddressTaken where
  taken : ExtTreeSet RoutineId := ∅
  methods : ExtTreeMap String (ExtTreeSet RoutineId) := ∅

namespace AddressTaken

def empty : AddressTaken := {}

def addRoutine (p : Program) (tables : AddressTaken) (r : Routine) : AddressTaken where
  taken := ((r.calls.flatMap CallSite.callables).filter p.contains).foldl
    ExtTreeSet.insert tables.taken
  methods :=
    if r.id.isMethod then
      tables.methods.insert r.id.bareName
        ((tables.methods.getD r.id.bareName ∅).insert r.id)
    else tables.methods

def analyze (p : Program) : AddressTaken := p.routines.foldl (addRoutine p) empty

def candidates (tables : AddressTaken) (site : CallSite) : List RoutineId :=
  match site.method with
  | some method => (tables.methods.getD method ∅).toList
  | none => tables.taken.toList

end AddressTaken

namespace Oracle

def recorded : Oracle where
  name := "recorded"
  feasible p caller site :=
    match site.pointsTo with
    | some targets => recordedTargets p caller targets
    | none => .ok []

/-- Prefers recorded callees and answers other sites from the tables. -/
def addressTaken (tables : AddressTaken) : Oracle where
  name := "address-taken"
  feasible p caller site :=
    match site.pointsTo with
    | some targets => recordedTargets p caller targets
    | none => .ok (tables.candidates site)

end Oracle

inductive OracleKind where
  | recorded
  | addressTaken
deriving DecidableEq, Repr, Inhabited

namespace OracleKind

def name : OracleKind → String
  | recorded => "recorded"
  | addressTaken => "address-taken"

def parse (text : String) : Except UnknownName OracleKind :=
  match text with
  | "recorded" => .ok recorded
  | "address-taken" | "address_taken" => .ok addressTaken
  | _ => .error (.oracle text)

def toOracle (p : Program) : OracleKind → Oracle
  | recorded => .recorded
  | addressTaken => .addressTaken (.analyze p)

end OracleKind

end FunctionalSize
