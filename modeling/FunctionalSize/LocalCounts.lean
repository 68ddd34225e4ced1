import FunctionalSize.Classifier
import FunctionalSize.Program

set_option autoImplicit false

namespace FunctionalSize

open Std

namespace Routine

def movements (r : Routine) (classifier : Classifier) : Movements :=
  r.calls.foldl (fun m site => m.record (classifier.label site)) 0

def handlers (r : Routine) (classifier : Classifier) : List RoutineId :=
  (r.calls.filter classifier.isRegistration).flatMap CallSite.callables

def entries (r : Routine) (classifier : Classifier) : List RoutineId :=
  (if r.isMain then [r.id] else []) ++ r.handlers classifier

end Routine

structure LocalCounts where
  table : ExtTreeMap RoutineId Movements

namespace LocalCounts

def compute (p : Program) (classifier : Classifier) : LocalCounts where
  table := .ofList (p.routines.map fun r => (r.id, r.movements classifier)) compare

/-- Routines without a definition count zero. -/
def get (counts : LocalCounts) (id : RoutineId) : Movements := counts.table.getD id 0

def size (counts : LocalCounts) : Nat := counts.table.size

end LocalCounts

structure EntrySet where
  members : ExtTreeSet RoutineId := ∅
  discoveries : Nat := 0

namespace EntrySet

def empty : EntrySet := {}

def contains (s : EntrySet) (id : RoutineId) : Bool := s.members.contains id

/-- Records a discovery, whether or not the entry is new. -/
def insert (s : EntrySet) (id : RoutineId) : EntrySet :=
  ⟨s.members.insert id, s.discoveries + 1⟩

def toList (s : EntrySet) : List RoutineId := s.members.toList

def size (s : EntrySet) : Nat := s.members.size

def detect (p : Program) (classifier : Classifier) : EntrySet :=
  (p.routines.flatMap (·.entries classifier)).foldl insert empty

end EntrySet

end FunctionalSize
