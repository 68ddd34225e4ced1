import FunctionalSize.Oracle
import FunctionalSize.Traversal

set_option autoImplicit false

namespace FunctionalSize

open Std

def Program.staticSuccessors (p : Program) (id : RoutineId) : List RoutineId :=
  match p.get? id with
  | some r => r.staticCallees
  | none => []

theorem Program.get?_eq_none {p : Program} {id : RoutineId} (h : id ∉ p.ids) :
    p.get? id = none := by
  rw [Option.eq_none_iff_forall_ne_some]
  intro r hr
  obtain ⟨hmem, rfl⟩ := get?_eq_some_iff.1 hr
  exact h (List.mem_map_of_mem hmem)

def Program.staticGraph (p : Program) : Graph RoutineId where
  nodes := p.ids
  succ := p.staticSuccessors
  succ_eq_nil id h := by rw [staticSuccessors, get?_eq_none h]

/-- How an edge came about: the call names its callee, or an oracle supplied it. -/
inductive EdgeKind where
  | static
  | resolved
deriving DecidableEq, Repr, Inhabited

def CallSite.targets (oracle : Oracle) (p : Program) (caller : RoutineId) (site : CallSite) :
    Except Error (List RoutineId × EdgeKind) :=
  match site.callee with
  | some callee => .ok ([callee], .static)
  | none => (oracle.feasible p caller site).map (·, .resolved)

/-- Defined routines that a call may reach, with the kind of the edge; none when the oracle
fails. -/
def CallSite.links (oracle : Oracle) (p : Program) (caller : RoutineId) (site : CallSite) :
    List (RoutineId × EdgeKind) :=
  match site.targets oracle p caller with
  | .ok (targets, kind) => (targets.filter p.contains).map (·, kind)
  | .error _ => []

def Program.links (p : Program) (oracle : Oracle) (id : RoutineId) :
    List (RoutineId × EdgeKind) :=
  match p.get? id with
  | some r => r.calls.flatMap (CallSite.links oracle p id)
  | none => []

def Program.resolvedSuccessors (p : Program) (oracle : Oracle) (id : RoutineId) :
    List RoutineId :=
  (p.links oracle id).map Prod.fst

def Program.resolvedGraph (p : Program) (oracle : Oracle) : Graph RoutineId where
  nodes := p.ids
  succ := p.resolvedSuccessors oracle
  succ_eq_nil id h := by simp only [resolvedSuccessors, links, get?_eq_none h, List.map_nil]

/-- The edges of a routine. The first call site that reaches a callee gives the edge its kind. -/
abbrev Edges := ExtTreeMap RoutineId EdgeKind

structure CallGraph where
  rows : ExtTreeMap RoutineId Edges

structure Edge where
  caller : RoutineId
  callee : RoutineId
  kind : EdgeKind
deriving DecidableEq, Repr, Inhabited

namespace CallGraph

def empty : CallGraph := ⟨∅⟩

def addNode (g : CallGraph) (id : RoutineId) : CallGraph := ⟨g.rows.insertIfNew id ∅⟩

def addEdge (g : CallGraph) (caller target : RoutineId) (kind : EdgeKind) : CallGraph :=
  ⟨g.rows.modify caller (·.insertIfNew target kind)⟩

/-- A call graph under construction. The agenda holds the routines that are expanded and those
that wait for it. -/
structure Draft where
  graph : CallGraph
  agenda : Traversal RoutineId

namespace Draft

def start (p : Program) : Draft := ⟨.empty, .ofRoots .breadthFirst (p.mains.map Routine.id)⟩

def addLink (caller : RoutineId) (d : Draft) (link : RoutineId × EdgeKind) : Draft :=
  ⟨(d.graph.addNode link.1).addEdge caller link.1 link.2, d.agenda.push link.1⟩

/-- Undefined targets are library code and are dropped. -/
def addTarget (p : Program) (caller : RoutineId) (kind : EdgeKind) (d : Draft)
    (target : RoutineId) : Draft :=
  if p.contains target then d.addLink caller (target, kind) else d

def addSite (oracle : Oracle) (p : Program) (caller : RoutineId) (d : Draft) (site : CallSite) :
    Except Error Draft :=
  (site.targets oracle p caller).map fun (targets, kind) =>
    targets.foldl (addTarget p caller kind) d

def addNode (d : Draft) (id : RoutineId) : Draft := { d with graph := d.graph.addNode id }

def expand (oracle : Oracle) (p : Program) (d : Draft) (caller : RoutineId) :
    Except Error Draft :=
  match p.get? caller with
  | some r => r.calls.foldlM (addSite oracle p caller) (d.addNode caller)
  | none => .ok d

theorem agenda_addLinks (caller : RoutineId) (d : Draft) (links : List (RoutineId × EdgeKind)) :
    (links.foldl (addLink caller) d).agenda = d.agenda.pushAll (links.map Prod.fst) := by
  induction links generalizing d with
  | nil => rfl
  | cons link links ih => exact ih (d.addLink caller link)

theorem addTargets_eq (p : Program) (caller : RoutineId) (kind : EdgeKind) (d : Draft)
    (targets : List RoutineId) :
    targets.foldl (addTarget p caller kind) d
      = ((targets.filter p.contains).map (·, kind)).foldl (addLink caller) d := by
  induction targets generalizing d with
  | nil => rfl
  | cons target targets ih =>
    rw [List.foldl_cons, ih]
    by_cases h : p.contains target = true
    · rw [List.filter_cons_of_pos h, addTarget, if_pos h]
      rfl
    · rw [List.filter_cons_of_neg h, addTarget, if_neg h]

theorem addSite_eq {oracle : Oracle} {p : Program} {caller : RoutineId} {d d' : Draft}
    {site : CallSite} (h : d.addSite oracle p caller site = .ok d') :
    d' = (site.links oracle p caller).foldl (addLink caller) d := by
  rw [addSite] at h
  rw [CallSite.links]
  cases htargets : site.targets oracle p caller with
  | error e => simp [htargets, Except.map] at h
  | ok found =>
    obtain ⟨targets, kind⟩ := found
    simp only [htargets, Except.map, Except.ok.injEq] at h
    exact h.symm.trans (addTargets_eq p caller kind d targets)

theorem addSites_eq {oracle : Oracle} {p : Program} {caller : RoutineId} {d d' : Draft}
    {sites : List CallSite} (h : sites.foldlM (addSite oracle p caller) d = .ok d') :
    d' = (sites.flatMap (CallSite.links oracle p caller)).foldl (addLink caller) d := by
  induction sites generalizing d with
  | nil => exact (Except.ok.inj h).symm
  | cons site sites ih =>
    rw [List.foldlM_cons] at h
    cases hsite : d.addSite oracle p caller site with
    | error e => simp [hsite, bind, Except.bind] at h
    | ok next =>
      simp only [hsite, bind, Except.bind] at h
      rw [ih h, addSite_eq hsite, List.flatMap_cons, List.foldl_append]

theorem agenda_expand {oracle : Oracle} {p : Program} {d d' : Draft} {caller : RoutineId}
    (h : d.expand oracle p caller = .ok d') :
    d'.agenda = d.agenda.pushAll (p.resolvedSuccessors oracle caller) := by
  rw [Program.resolvedSuccessors, Program.links]
  rw [expand] at h
  cases hget : p.get? caller with
  | none =>
    simp only [hget, Except.ok.injEq] at h
    rw [← h]
    rfl
  | some r =>
    simp only [hget] at h
    rw [addSites_eq h]
    exact agenda_addLinks caller (d.addNode caller) _

/-- Expands what waits until nothing is left. There is no partial graph: the first failure of the
oracle is the result. -/
def complete (oracle : Oracle) (p : Program) (d : Draft) : Except Error CallGraph :=
  match _hnext : d.agenda.next? with
  | none => .ok d.graph
  | some (caller, agenda) =>
    match _hexpand : expand oracle p ⟨d.graph, agenda⟩ caller with
    | .ok d' => complete oracle p d'
    | .error e => .error e
termination_by d.agenda.potential (p.resolvedGraph oracle)
decreasing_by
  rw [agenda_expand _hexpand]
  exact Traversal.potential_lt _hnext

end Draft

def build (p : Program) (oracle : Oracle) : Except Error CallGraph :=
  Draft.complete oracle p (.start p)

def contains (g : CallGraph) (id : RoutineId) : Bool := g.rows.contains id

def nodeCount (g : CallGraph) : Nat := g.rows.size

def edges (g : CallGraph) : List Edge :=
  g.rows.toList.flatMap fun (caller, row) =>
    row.toList.map fun (callee, kind) => ⟨caller, callee, kind⟩

def edgeCount (g : CallGraph) : Nat := g.edges.length

def edgeCountOf (g : CallGraph) (kind : EdgeKind) : Nat := g.edges.countP (·.kind == kind)

def callees (g : CallGraph) (id : RoutineId) : List RoutineId := (g.rows.getD id ∅).keys

def toGraph (g : CallGraph) : Graph RoutineId where
  nodes := g.rows.keys
  succ := g.callees
  succ_eq_nil id h := by
    rw [ExtTreeMap.mem_keys] at h
    rw [callees, ExtTreeMap.getD_eq_fallback h]
    simp

end CallGraph

end FunctionalSize
