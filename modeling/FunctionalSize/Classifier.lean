import FunctionalSize.Category
import FunctionalSize.Routine

set_option autoImplicit false

/-!
# Rules and classifiers

A rule says for a target whether it belongs to a category, or has no opinion. Exact rules may say
no; the fragment rules only say yes. In a table the exact rules stand first, then the suffixes,
then the substrings, each kind in the order in which it was given, and the first opinion decides.
So an exact `false` switches the fragments off for its target.

A rule set is the written form of one category's rules: verdicts by package and bare name, and
two lists of fragments. `overlay` puts one set on top of another: verdicts of the upper set win,
and its fragments are appended unless they are already there. A classifier has one rule table for
each category and asks each of them on its own. A dynamic call has no known target and gets no
label.
-/

namespace FunctionalSize

open Std

inductive Rule where
  | exact (package name : String) (verdict : Bool)
  /-- Accepts when the bare name, or package and bare name joined by a dot, ends so. -/
  | suffix (fragment : String)
  | substring (fragment : String)
deriving DecidableEq, Repr, Inhabited

namespace Rule

/-- Lower priorities are asked first. -/
def priority : Rule → Nat
  | exact .. => 0
  | suffix _ => 1
  | substring _ => 2

def byPriority (a b : Rule) : Bool := a.priority ≤ b.priority

def isExact : Rule → Bool
  | exact .. => true
  | _ => false

/-- A fragment with a dot is also compared with the qualified bare name. -/
def endsQualified (target : RoutineId) (fragment : String) : Bool :=
  Text.occursIn "." fragment
    && Text.endsWith fragment (target.package ++ "." ++ target.bareName)

def evaluate (target : RoutineId) : Rule → Option Bool
  | exact package name verdict =>
    if package = target.package ∧ name = target.bareName then some verdict else none
  | suffix fragment =>
    if Text.endsWith fragment target.bareName || endsQualified target fragment
    then some true else none
  | substring fragment =>
    if Text.occursIn fragment target.bareName then some true else none

end Rule

structure RuleTable where
  rules : List Rule
deriving DecidableEq, Repr, Inhabited

namespace RuleTable

/-- The sort is stable: rules of one priority keep their order. -/
def ofRules (rules : List Rule) : RuleTable where
  rules := rules.mergeSort Rule.byPriority

def accepts (table : RuleTable) (target : RoutineId) : Bool :=
  (table.rules.findSome? (Rule.evaluate target)).getD false

def decidesExactly (table : RuleTable) (target : RoutineId) : Bool :=
  table.rules.any fun rule => rule.isExact && (rule.evaluate target).isSome

end RuleTable

/-- Verdicts by package path, then by bare name. -/
abbrev Verdicts := ExtTreeMap String (ExtTreeMap String Bool)

/-- Verdicts of `upper` win over those of `lower`, name by name. -/
def Verdicts.overlay (lower upper : Verdicts) : Verdicts :=
  upper.toList.foldl (fun acc (package, names) =>
    acc.insert package (acc.getD package ∅ ∪ names)) lower

def appendNew (lower : List String) (upper : List String) : List String :=
  upper.foldl (fun acc fragment => if fragment ∈ acc then acc else acc ++ [fragment]) lower

structure RuleSet where
  exact : Verdicts := ∅
  suffixes : List String := []
  substrings : List String := []
deriving DecidableEq, Inhabited

namespace RuleSet

def empty : RuleSet := {}

def overlay (lower upper : RuleSet) : RuleSet where
  exact := lower.exact.overlay upper.exact
  suffixes := appendNew lower.suffixes upper.suffixes
  substrings := appendNew lower.substrings upper.substrings

def exactRules (set : RuleSet) : List Rule :=
  set.exact.toList.flatMap fun (package, names) =>
    names.toList.map fun (name, verdict) => Rule.exact package name verdict

def toRules (set : RuleSet) : List Rule :=
  set.exactRules ++ set.suffixes.map Rule.suffix ++ set.substrings.map Rule.substring

def toTable (set : RuleSet) : RuleTable := .ofRules set.toRules

def accepting (exact : List (String × List String)) (suffixes : List String) : RuleSet where
  exact := ExtTreeMap.ofList <| exact.map fun (package, names) =>
    (package, ExtTreeMap.ofList (names.map (·, true)))
  suffixes := suffixes

end RuleSet

structure Rulebook where
  registration : RuleSet := {}
  read : RuleSet := {}
  write : RuleSet := {}
  exit : RuleSet := {}
deriving DecidableEq, Inhabited

namespace Rulebook

def empty : Rulebook := {}

def set (book : Rulebook) : Category → RuleSet
  | .registration => book.registration
  | .read => book.read
  | .write => book.write
  | .exit => book.exit

def overlay (lower upper : Rulebook) : Rulebook where
  registration := lower.registration.overlay upper.registration
  read := lower.read.overlay upper.read
  write := lower.write.overlay upper.write
  exit := lower.exit.overlay upper.exit

theorem set_overlay (lower upper : Rulebook) (c : Category) :
    (lower.overlay upper).set c = (lower.set c).overlay (upper.set c) := by cases c <;> rfl

def builtIn : Rulebook where
  registration := .accepting
    [("net/http", ["HandleFunc", "Handle"]),
     ("github.com/gorilla/mux", ["HandleFunc", "Handle"])]
    ["HandleFunc", "Handle", "http.HandleFunc", "http.Handle", "mux.HandleFunc", "mux.Handle"]
  read := .accepting
    [("os", ["Open", "ReadFile"]),
     ("io/ioutil", ["ReadFile"]),
     ("database/sql", ["Query", "QueryRow", "Scan"])]
    ["Read", "Scan", "Query", "QueryRow"]
  write := .accepting
    [("os", ["Create", "WriteFile"]),
     ("io/ioutil", ["WriteFile"]),
     ("database/sql", ["Exec"]),
     ("fmt", ["Print", "Printf", "Println"]),
     -- a fatal log call writes its message and then exits
     ("log", ["Fatal", "Fatalf", "Fatalln"])]
    ["Write", "WriteString", "Encode", "Respond", "Print", "Printf"]
  exit := .accepting
    [("os", ["Exit"]),
     ("log", ["Fatal", "Fatalf", "Fatalln"])]
    []

end Rulebook

structure Classifier where
  registration : RuleTable
  read : RuleTable
  write : RuleTable
  exit : RuleTable
deriving DecidableEq, Repr, Inhabited

namespace Classifier

def table (classifier : Classifier) : Category → RuleTable
  | .registration => classifier.registration
  | .read => classifier.read
  | .write => classifier.write
  | .exit => classifier.exit

def ofRulebook (book : Rulebook) : Classifier where
  registration := book.registration.toTable
  read := book.read.toTable
  write := book.write.toTable
  exit := book.exit.toTable

theorem table_ofRulebook (book : Rulebook) (c : Category) :
    (ofRulebook book).table c = (book.set c).toTable := by cases c <;> rfl

def builtIn : Classifier := ofRulebook .builtIn

def labelTarget (classifier : Classifier) (target : RoutineId) : Labels :=
  .ofPred fun category => (classifier.table category).accepts target

def label (classifier : Classifier) (site : CallSite) : Labels :=
  match site.callee with
  | some target => classifier.labelTarget target
  | none => .none

def isRegistration (classifier : Classifier) (site : CallSite) : Bool :=
  (classifier.label site).contains .registration

end Classifier

end FunctionalSize
