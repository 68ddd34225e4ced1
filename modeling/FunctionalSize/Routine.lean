import FunctionalSize.Text
import Std.Data.ExtTreeMap
import Std.Data.ExtTreeSet

set_option autoImplicit false

namespace FunctionalSize

open Std

structure RoutineId where
  package : String
  name : String
deriving DecidableEq, Repr, Inhabited

namespace RoutineId

instance : Ord RoutineId := ⟨compareLex (compareOn package) (compareOn name)⟩

theorem compare_def (a b : RoutineId) :
    compare a b = (compare a.package b.package).then (compare a.name b.name) := rfl

instance : TransOrd RoutineId :=
  inferInstanceAs (TransCmp (compareLex (compareOn package) (compareOn name)))

instance : LawfulEqOrd RoutineId where
  eq_of_compare {a b} h := by
    rw [compare_def, Ordering.then_eq_eq] at h
    cases a
    cases b
    simp_all

def qualified (id : RoutineId) : String := id.package ++ "." ++ id.name

/-- Receiver and bare name of a method name, cut at the first `).`. -/
def splitName? : List Char → Option (List Char × List Char)
  | '(' :: rest => Text.splitFirst? [')', '.'] rest
  | _ => none

def receiver? (id : RoutineId) : Option String :=
  (splitName? id.name.toList).map fun cut => String.ofList cut.1

/-- What follows the first `).` of a name that starts with a parenthesis; else the name. -/
def bareName (id : RoutineId) : String :=
  match Text.splitFirst? [')', '.'] id.name.toList with
  | some cut => if ['('].isPrefixOf id.name.toList then String.ofList cut.2 else id.name
  | none => id.name

def isMethod (id : RoutineId) : Bool := id.receiver?.isSome

end RoutineId

/-- How a call is made: at once, when the caller returns, or concurrently. -/
inductive CallKind where
  | call
  | defer
  | go
deriving DecidableEq, Repr, Inhabited

inductive Argument where
  | routine (id : RoutineId)
  | closure (id : RoutineId) (captures : List String)
  | other
deriving DecidableEq, Repr, Inhabited

def Argument.callable? : Argument → Option RoutineId
  | routine id => some id
  | closure id _ => some id
  | other => none

structure CallSite where
  kind : CallKind := .call
  callee : Option RoutineId := none
  method : Option String := none
  args : List Argument := []
  pointsTo : Option (List RoutineId) := none
deriving DecidableEq, Repr, Inhabited

namespace CallSite

def isDynamic (site : CallSite) : Bool := site.callee.isNone

def callables (site : CallSite) : List RoutineId :=
  site.args.filterMap Argument.callable?

end CallSite

/-- A routine defined in the program. `source` says where, usually as `file:line`. -/
structure Routine where
  id : RoutineId
  source : String := ""
  isMain : Bool := false
  calls : List CallSite := []
deriving DecidableEq, Repr, Inhabited

namespace Routine

def staticCallees (r : Routine) : List RoutineId :=
  r.calls.filterMap CallSite.callee

def asMain (r : Routine) : Routine := { r with isMain := true }

@[simp] theorem id_ite_asMain (c : Prop) [Decidable c] (r : Routine) :
    (if c then r.asMain else r).id = r.id := by split <;> rfl

end Routine

end FunctionalSize
