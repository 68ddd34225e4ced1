import FunctionalSize.CallGraph
import FunctionalSize.Proofs.Traversal

set_option autoImplicit false

/-!
# The resolved call graph of a program

The main region is the least set of defined routines that holds the main routines and whatever
they may call. The construction fails exactly when the oracle fails on a call of the region. When
it succeeds the nodes are the region, and the edges are the calls that its routines may make.

A draft is kept `Sound` by every expansion: expanded routines have all their edges, and the other
nodes have none and are waiting.
-/

namespace FunctionalSize

open Std

def CallSite.MayReach (oracle : Oracle) (p : Program) (caller : RoutineId) (site : CallSite)
    (target : RoutineId) : Prop :=
  site.callee = some target ∨
    site.callee = none ∧ ∃ targets, oracle.feasible p caller site = .ok targets ∧ target ∈ targets

namespace CallSite

variable {oracle : Oracle} {p : Program} {caller target : RoutineId} {site : CallSite}

theorem targets_eq_error {e : Error} :
    site.targets oracle p caller = .error e ↔
      site.callee = none ∧ oracle.feasible p caller site = .error e := by
  unfold targets
  cases hcallee : site.callee with
  | some callee => simp
  | none => cases hfeasible : oracle.feasible p caller site <;> simp [Except.map]

theorem mayReach_of_targets {targets : List RoutineId} {kind : EdgeKind}
    (h : site.targets oracle p caller = .ok (targets, kind)) :
    site.MayReach oracle p caller target ↔ target ∈ targets := by
  unfold CallSite.targets at h
  unfold MayReach
  cases hcallee : site.callee with
  | some callee =>
    simp only [hcallee, Except.ok.injEq, Prod.mk.injEq] at h
    simp [← h.1, eq_comm]
  | none =>
    cases hfeasible : oracle.feasible p caller site with
    | error e => simp [hcallee, hfeasible, Except.map] at h
    | ok answer =>
      simp only [hcallee, hfeasible, Except.map, Except.ok.injEq, Prod.mk.injEq] at h
      simp [← h.1]

theorem mem_links :
    target ∈ (site.links oracle p caller).map Prod.fst ↔
      p.contains target = true ∧ site.MayReach oracle p caller target := by
  unfold links
  cases htargets : site.targets oracle p caller with
  | error e =>
    obtain ⟨hcallee, hfeasible⟩ := targets_eq_error.1 htargets
    simp [MayReach, hcallee, hfeasible]
  | ok found =>
    obtain ⟨targets, kind⟩ := found
    rw [mayReach_of_targets htargets]
    simp [and_comm]

end CallSite

namespace Program

variable {p : Program} {oracle : Oracle} {u v : RoutineId}

def MayCall (p : Program) (oracle : Oracle) (u v : RoutineId) : Prop :=
  ∃ r, p.get? u = some r ∧ ∃ site ∈ r.calls, site.MayReach oracle p u v

def FailsWith (p : Program) (oracle : Oracle) (u : RoutineId) (e : Error) : Prop :=
  ∃ r, p.get? u = some r ∧ ∃ site ∈ r.calls,
    site.callee = none ∧ oracle.feasible p u site = .error e

/-- The least set of defined routines with the main routines and what they may call. -/
inductive Region (p : Program) (oracle : Oracle) : RoutineId → Prop
  | main {r : Routine} : r ∈ p.routines → r.isMain = true → Region p oracle r.id
  | call {u v : RoutineId} : Region p oracle u → p.MayCall oracle u v → p.contains v = true →
    Region p oracle v

theorem mem_resolvedSuccessors :
    v ∈ p.resolvedSuccessors oracle u ↔ p.contains v = true ∧ p.MayCall oracle u v := by
  unfold resolvedSuccessors links MayCall
  cases hget : p.get? u with
  | none => simp
  | some r =>
    rw [List.map_flatMap, List.mem_flatMap]
    simp only [CallSite.mem_links, Option.some.injEq, exists_eq_left']
    constructor
    · rintro ⟨site, hsite, hv, hreach⟩
      exact ⟨hv, site, hsite, hreach⟩
    · rintro ⟨hv, site, hsite, hreach⟩
      exact ⟨site, hsite, hv, hreach⟩

theorem region_iff_reachableFrom :
    p.Region oracle v ↔
      (p.resolvedGraph oracle).ReachableFrom (p.mains.map Routine.id) v := by
  constructor
  · intro h
    induction h with
    | @main r hr hmain =>
      exact ⟨r.id, List.mem_map_of_mem (List.mem_filter.2 ⟨hr, hmain⟩), .refl⟩
    | call _ hcall hv ih => exact ih.step (mem_resolvedSuccessors.2 ⟨hv, hcall⟩)
  · rintro ⟨root, hroot, hreach⟩
    induction hreach with
    | refl =>
      obtain ⟨r, hr, rfl⟩ := List.mem_map.1 hroot
      exact .main (List.mem_filter.1 hr).1 (List.mem_filter.1 hr).2
    | step _ hsucc ih =>
      obtain ⟨hv, hcall⟩ := mem_resolvedSuccessors.1 hsucc
      exact .call ih hcall hv

theorem Region.contains (h : p.Region oracle v) : p.contains v = true := by
  cases h with
  | main hr hmain => exact contains_iff.2 (List.mem_map_of_mem hr)
  | call _ _ hv => exact hv

end Program

def Edges.ofLinks (links : List (RoutineId × EdgeKind)) : Edges :=
  links.foldl (fun edges link => edges.insertIfNew link.1 link.2) ∅

theorem Edges.mem_foldl_insertIfNew {links : List (RoutineId × EdgeKind)} {edges : Edges}
    {v : RoutineId} :
    v ∈ links.foldl (fun edges link => edges.insertIfNew link.1 link.2) edges ↔
      v ∈ edges ∨ v ∈ links.map Prod.fst := by
  induction links generalizing edges with
  | nil => simp
  | cons link links ih =>
    rw [List.foldl_cons, ih, ExtTreeMap.mem_insertIfNew, LawfulEqOrd.compare_eq_iff_eq,
      List.map_cons, List.mem_cons]
    grind

theorem Edges.mem_ofLinks {links : List (RoutineId × EdgeKind)} {v : RoutineId} :
    v ∈ ofLinks links ↔ v ∈ links.map Prod.fst := by
  rw [ofLinks, mem_foldl_insertIfNew]
  exact or_iff_right ExtTreeMap.not_mem_empty

namespace CallGraph

namespace Draft

variable {p : Program} {oracle : Oracle} {caller x : RoutineId} {d d' : Draft}

theorem addSite_eq_error {site : CallSite} {e : Error} :
    d.addSite oracle p caller site = .error e ↔ site.targets oracle p caller = .error e := by
  rw [addSite]
  cases site.targets oracle p caller with
  | error e' => simp [Except.map]
  | ok found => simp [Except.map]

theorem addSites_error {sites : List CallSite} {e : Error}
    (h : sites.foldlM (addSite oracle p caller) d = .error e) :
    ∃ site ∈ sites, site.targets oracle p caller = .error e := by
  induction sites generalizing d with
  | nil => simp [pure, Except.pure] at h
  | cons site sites ih =>
    rw [List.foldlM_cons] at h
    cases hsite : d.addSite oracle p caller site with
    | error e' =>
      simp only [hsite, bind, Except.bind, Except.error.injEq] at h
      rw [h] at hsite
      exact ⟨site, List.mem_cons_self, addSite_eq_error.1 hsite⟩
    | ok next =>
      simp only [hsite, bind, Except.bind] at h
      obtain ⟨site', hmem, htargets⟩ := ih h
      exact ⟨site', List.mem_cons_of_mem _ hmem, htargets⟩

theorem addSites_ok {sites : List CallSite}
    (h : sites.foldlM (addSite oracle p caller) d = .ok d') :
    ∀ site ∈ sites, ∀ e, site.targets oracle p caller ≠ .error e := by
  induction sites generalizing d with
  | nil => simp
  | cons site sites ih =>
    rw [List.foldlM_cons] at h
    cases hsite : d.addSite oracle p caller site with
    | error e => simp [hsite, bind, Except.bind] at h
    | ok next =>
      simp only [hsite, bind, Except.bind] at h
      intro site' hmem e htargets
      rcases List.mem_cons.1 hmem with rfl | hmem
      · simp [addSite_eq_error.2 htargets] at hsite
      · exact ih h site' hmem e htargets

theorem expand_error {e : Error} (h : d.expand oracle p caller = .error e) :
    p.FailsWith oracle caller e := by
  rw [expand] at h
  cases hget : p.get? caller with
  | none => simp [hget] at h
  | some r =>
    simp only [hget] at h
    obtain ⟨site, hsite, htargets⟩ := addSites_error h
    obtain ⟨hcallee, hfeasible⟩ := CallSite.targets_eq_error.1 htargets
    exact ⟨r, hget, site, hsite, hcallee, hfeasible⟩

theorem expand_ok (hcaller : p.contains caller = true) (h : d.expand oracle p caller = .ok d') :
    (∀ e, ¬ p.FailsWith oracle caller e) ∧
      d' = (p.links oracle caller).foldl (addLink caller) (d.addNode caller) := by
  obtain ⟨r, hget⟩ := Program.contains_iff_get?.1 hcaller
  rw [expand, hget] at h
  constructor
  · rintro e ⟨r', hget', site, hsite, hfails⟩
    obtain rfl : r = r' := Option.some.inj (hget.symm.trans hget')
    exact addSites_ok h site hsite e (CallSite.targets_eq_error.2 hfails)
  · rw [Program.links, hget]
    exact addSites_eq h

theorem row_addNode (g : CallGraph) (id x : RoutineId) :
    (g.addNode id).rows[x]? = g.rows[x]?.or (if x = id then some ∅ else none) := by
  change (g.rows.insertIfNew id ∅)[x]? = _
  simp only [ExtTreeMap.getElem?_insertIfNew, LawfulEqOrd.compare_eq_iff_eq]
  by_cases hx : id = x
  · subst hx
    cases hrow : g.rows[id]? with
    | none => simp [ExtTreeMap.mem_iff_isSome_getElem?, hrow]
    | some edges => simp [ExtTreeMap.mem_iff_isSome_getElem?, hrow]
  · simp [hx, Ne.symm hx]

theorem row_addEdge_self (g : CallGraph) (caller target : RoutineId) (kind : EdgeKind) :
    (g.addEdge caller target kind).rows[caller]? =
      g.rows[caller]?.map (·.insertIfNew target kind) :=
  ExtTreeMap.getElem?_modify_self

theorem row_addEdge_other (g : CallGraph) {caller x : RoutineId} (hx : x ≠ caller)
    (target : RoutineId) (kind : EdgeKind) :
    (g.addEdge caller target kind).rows[x]? = g.rows[x]? := by
  have hcompare : compare caller x ≠ .eq := fun he => hx (LawfulEqOrd.eq_of_compare he).symm
  change (g.rows.modify caller _)[x]? = _
  rw [ExtTreeMap.getElem?_modify, if_neg hcompare]

theorem row_addLinks_self {links : List (RoutineId × EdgeKind)} {edges : Edges}
    (h : d.graph.rows[caller]? = some edges) :
    (links.foldl (addLink caller) d).graph.rows[caller]? =
      some (links.foldl (fun edges link => edges.insertIfNew link.1 link.2) edges) := by
  induction links generalizing d edges with
  | nil => exact h
  | cons link links ih =>
    apply ih
    rw [addLink, row_addEdge_self, row_addNode, h]
    rfl

theorem row_addLinks_other {links : List (RoutineId × EdgeKind)} (hx : x ≠ caller) :
    (links.foldl (addLink caller) d).graph.rows[x]? =
      d.graph.rows[x]?.or (if x ∈ links.map Prod.fst then some ∅ else none) := by
  induction links generalizing d with
  | nil => simp
  | cons link links ih =>
    rw [List.foldl_cons, ih, addLink, row_addEdge_other _ hx, row_addNode, Option.or_assoc]
    congr 1
    grind

/-- An expansion completes the row of its routine, which had no edges before, and gives each
successor that is new an empty row. -/
theorem row_expand (hcaller : p.contains caller = true)
    (hbare : ∀ edges, d.graph.rows[caller]? = some edges → edges = ∅)
    (h : d.expand oracle p caller = .ok d') :
    d'.graph.rows[x]? =
      if x = caller then some (.ofLinks (p.links oracle caller))
      else d.graph.rows[x]?.or
        (if x ∈ p.resolvedSuccessors oracle caller then some ∅ else none) := by
  rw [(expand_ok hcaller h).2]
  split
  · next hx =>
    subst hx
    apply row_addLinks_self
    change (d.graph.addNode x).rows[x]? = _
    rw [row_addNode]
    cases hrow : d.graph.rows[x]? with
    | none => simp
    | some edges => simp [hbare edges hrow]
  · next hx =>
    rw [row_addLinks_other hx]
    change ((d.graph.addNode caller).rows[x]?).or _ = _
    rw [row_addNode, if_neg hx, Option.or_none]
    rfl

structure Sound (p : Program) (oracle : Oracle) (d : Draft) : Prop where
  covers : d.agenda.Covers (p.resolvedGraph oracle) (p.mains.map Routine.id)
  expanded : ∀ x ∈ d.agenda.visited, d.graph.rows[x]? = some (.ofLinks (p.links oracle x))
  answered : ∀ x ∈ d.agenda.visited, ∀ e, ¬ p.FailsWith oracle x e
  bare : ∀ x, x ∉ d.agenda.visited → ∀ edges, d.graph.rows[x]? = some edges → edges = ∅
  met : ∀ x ∈ d.graph.rows, d.agenda.Met x

theorem sound_start (p : Program) (oracle : Oracle) : (start p).Sound p oracle where
  covers := Traversal.covers_ofRoots _ _ _
  expanded x hx := absurd hx ExtTreeSet.not_mem_empty
  answered x hx := absurd hx ExtTreeSet.not_mem_empty
  bare x _ edges hrow := by simp [start, empty] at hrow
  met x hx := absurd hx ExtTreeMap.not_mem_empty

theorem Sound.region_of_met (hd : d.Sound p oracle) (hx : d.agenda.Met x) :
    p.Region oracle x :=
  Program.region_iff_reachableFrom.2 (hd.covers.reachable x hx)

theorem Sound.region_of_next {agenda : Traversal RoutineId} (hd : d.Sound p oracle)
    (hnext : d.agenda.next? = some (caller, agenda)) : p.Region oracle caller :=
  hd.region_of_met (Traversal.met_of_next? hnext)

theorem Sound.step {agenda : Traversal RoutineId} (hd : d.Sound p oracle)
    (hnext : d.agenda.next? = some (caller, agenda))
    (hexpand : expand oracle p ⟨d.graph, agenda⟩ caller = .ok d') : d'.Sound p oracle := by
  obtain ⟨hnew, -⟩ := Traversal.next?_eq_some hnext
  have hcaller := (hd.region_of_next hnext).contains
  have hagenda := agenda_expand hexpand
  have hmet : ∀ y, d'.agenda.Met y ↔ d.agenda.Met y ∨ y ∈ p.resolvedSuccessors oracle caller := by
    intro y
    rw [hagenda, Traversal.met_step hnext]
  have hseen : ∀ y, y ∈ d'.agenda.visited ↔ caller = y ∨ y ∈ d.agenda.visited := by
    intro y
    rw [hagenda, Traversal.mem_visited_step hnext]
  -- `caller` was not expanded before, so its row is bare until now
  have hrow := fun y => row_expand (d := ⟨d.graph, agenda⟩) (x := y) hcaller
    (hd.bare caller hnew) hexpand
  refine ⟨?_, ?_, ?_, ?_, ?_⟩
  · rw [hagenda]
    exact hd.covers.step hnext
  · intro y hy
    rw [hrow y]
    split
    · next he => rw [he]
    · next hne =>
      have hold := ((hseen y).1 hy).resolve_left (Ne.symm hne)
      rw [hd.expanded y hold, Option.some_or]
  · intro y hy
    rcases (hseen y).1 hy with rfl | hold
    · exact (expand_ok hcaller hexpand).1
    · exact hd.answered y hold
  · intro y hy edges hedges
    have hne : y ≠ caller := fun he => hy ((hseen y).2 (Or.inl he.symm))
    rw [hrow y, if_neg hne, Option.or_eq_some_iff] at hedges
    rcases hedges with hold | ⟨-, hfresh⟩
    · exact hd.bare y (fun hold => hy ((hseen y).2 (Or.inr hold))) edges hold
    · split at hfresh
      · exact (Option.some.inj hfresh).symm
      · contradiction
  · intro y hy
    rw [ExtTreeMap.mem_iff_isSome_getElem?, hrow y] at hy
    rw [hmet]
    split at hy
    · next he =>
      rw [he]
      exact Or.inl (Traversal.met_of_next? hnext)
    · rw [Option.isSome_or, Bool.or_eq_true] at hy
      rcases hy with hold | hfresh
      · exact Or.inl (hd.met y (ExtTreeMap.mem_iff_isSome_getElem?.2 hold))
      · split at hfresh
        · next hsucc => exact Or.inr hsucc
        · contradiction

end Draft

/-- The graph that the construction is to deliver. -/
structure Resolves (p : Program) (oracle : Oracle) (g : CallGraph) : Prop where
  row : ∀ x, p.Region oracle x → g.rows[x]? = some (.ofLinks (p.links oracle x))
  region : ∀ x ∈ g.rows, p.Region oracle x
  answered : ∀ x, p.Region oracle x → ∀ e, ¬ p.FailsWith oracle x e

namespace Draft

variable {p : Program} {oracle : Oracle} {caller x : RoutineId} {d d' : Draft}

theorem Sound.resolves (hd : d.Sound p oracle) (hnext : d.agenda.next? = none) :
    d.graph.Resolves p oracle := by
  -- nothing waits, so every routine of the region has been expanded
  have hvisited : ∀ x, p.Region oracle x → x ∈ d.agenda.visited := fun x hx =>
    (hd.covers.mem_visited_iff hnext).2 (Program.region_iff_reachableFrom.1 hx)
  exact ⟨fun x hx => hd.expanded x (hvisited x hx), fun x hx => hd.region_of_met (hd.met x hx),
    fun x hx => hd.answered x (hvisited x hx)⟩

theorem Sound.complete (hd : d.Sound p oracle) :
    (∃ g, d.complete oracle p = .ok g ∧ g.Resolves p oracle) ∨
    (∃ e, d.complete oracle p = .error e ∧ ∃ x, p.Region oracle x ∧ p.FailsWith oracle x e) := by
  fun_induction Draft.complete oracle p d with
  | case1 d hnext => exact Or.inl ⟨d.graph, rfl, hd.resolves hnext⟩
  | case2 d caller agenda hnext d' hexpand ih => exact ih (hd.step hnext hexpand)
  | case3 d caller agenda hnext e hexpand =>
    exact Or.inr ⟨e, rfl, caller, hd.region_of_next hnext, expand_error hexpand⟩

theorem complete_of_next?_eq_none (hnext : d.agenda.next? = none) :
    d.complete oracle p = .ok d.graph := by
  rw [Draft.complete]
  split
  · rfl
  · next hsome => simp [hnext] at hsome

theorem complete_of_next?_eq_some {agenda : Traversal RoutineId}
    (hnext : d.agenda.next? = some (caller, agenda)) :
    d.complete oracle p =
      (expand oracle p ⟨d.graph, agenda⟩ caller).bind (Draft.complete oracle p) := by
  rw [Draft.complete]
  split
  · next hnone => simp [hnext] at hnone
  · next hsome =>
    obtain ⟨rfl, rfl⟩ := Prod.mk.inj (Option.some.inj (hnext.symm.trans hsome))
    split
    · next hexpand => rw [hexpand, Except.bind]
    · next hexpand => rw [hexpand, Except.bind]

theorem addSites_congr {oracle' : Oracle} {sites : List CallSite}
    (h : ∀ site ∈ sites, site.targets oracle' p caller = site.targets oracle p caller) :
    sites.foldlM (addSite oracle' p caller) d = sites.foldlM (addSite oracle p caller) d := by
  induction sites generalizing d with
  | nil => rfl
  | cons site sites ih =>
    have hsite : d.addSite oracle' p caller site = d.addSite oracle p caller site := by
      rw [addSite, addSite, h site List.mem_cons_self]
    rw [List.foldlM_cons, List.foldlM_cons, hsite]
    congr 1
    funext d'
    exact ih fun site' hsite' => h site' (List.mem_cons_of_mem _ hsite')

theorem expand_congr {oracle' : Oracle}
    (h : ∀ r, p.get? caller = some r → ∀ site ∈ r.calls, site.callee = none →
      oracle'.feasible p caller site = oracle.feasible p caller site) :
    d.expand oracle' p caller = d.expand oracle p caller := by
  unfold expand
  cases hget : p.get? caller with
  | none => rfl
  | some r =>
    apply addSites_congr
    intro site hsite
    unfold CallSite.targets
    cases hcallee : site.callee with
    | some callee => rfl
    | none => rw [h r hget site hsite hcallee]

theorem Sound.complete_congr {oracle' : Oracle} (hd : d.Sound p oracle)
    (hagree : ∀ u r, p.Region oracle u → p.get? u = some r → ∀ site ∈ r.calls,
      site.callee = none → oracle'.feasible p u site = oracle.feasible p u site) :
    d.complete oracle' p = d.complete oracle p := by
  -- the region is that of `oracle`, so the induction follows the run with `oracle`
  fun_induction Draft.complete oracle p d with
  | case1 d hnext => exact complete_of_next?_eq_none hnext
  | case2 d caller agenda hnext d' hexpand ih =>
    have hsame := fun r => hagree caller r (hd.region_of_next hnext)
    rw [complete_of_next?_eq_some hnext, expand_congr hsame, hexpand]
    exact ih (hd.step hnext hexpand)
  | case3 d caller agenda hnext e hexpand =>
    have hsame := fun r => hagree caller r (hd.region_of_next hnext)
    rw [complete_of_next?_eq_some hnext, expand_congr hsame, hexpand]
    rfl

end Draft

variable {p : Program} {oracle : Oracle} {g : CallGraph}

theorem build_ok_or_error (p : Program) (oracle : Oracle) :
    (∃ g, build p oracle = .ok g ∧ g.Resolves p oracle) ∨
    (∃ e, build p oracle = .error e ∧ ∃ u, p.Region oracle u ∧ p.FailsWith oracle u e) :=
  (Draft.sound_start p oracle).complete

theorem resolves_of_build (h : build p oracle = .ok g) : g.Resolves p oracle := by
  rcases build_ok_or_error p oracle with ⟨g', hg', hresolves⟩ | ⟨e, he, -⟩
  · obtain rfl : g = g' := Except.ok.inj (h.symm.trans hg')
    exact hresolves
  · simp [h] at he

namespace Resolves

variable {u v : RoutineId}

theorem contains_iff (hg : g.Resolves p oracle) : g.contains u = true ↔ p.Region oracle u := by
  rw [contains, ExtTreeMap.contains_iff_mem]
  constructor
  · exact hg.region u
  · intro hu
    rw [ExtTreeMap.mem_iff_isSome_getElem?, hg.row u hu]
    rfl

theorem mem_callees (hg : g.Resolves p oracle) :
    v ∈ g.callees u ↔ p.Region oracle u ∧ p.contains v = true ∧ p.MayCall oracle u v := by
  rw [callees, ExtTreeMap.getD_eq_getD_getElem?, ExtTreeMap.mem_keys]
  by_cases hu : p.Region oracle u
  · rw [hg.row u hu, Option.getD_some, Edges.mem_ofLinks]
    exact Program.mem_resolvedSuccessors.trans (and_iff_right hu).symm
  · have hrow : g.rows[u]? = none := ExtTreeMap.getElem?_eq_none fun hmem => hu (hg.region u hmem)
    simp [hrow, hu]

end Resolves

/-- The construction fails exactly on a failure of the oracle inside the main region. Otherwise the
nodes are the region, the successors of a node are the defined routines that it may call, in strict
order, and no answer of the oracle outside the region matters. -/
theorem build_exact (p : Program) (oracle : Oracle) :
    ((∃ e, build p oracle = .error e) ↔
      ∃ u, p.Region oracle u ∧ ∃ e, p.FailsWith oracle u e) ∧
    (∀ g, build p oracle = .ok g →
      (∀ u, g.contains u = true ↔ p.Region oracle u) ∧
      (∀ u v, v ∈ g.callees u ↔
        p.Region oracle u ∧ p.contains v = true ∧ p.MayCall oracle u v) ∧
      (∀ u, (g.callees u).Pairwise fun a b => compare a b = .lt)) ∧
    (∀ oracle' : Oracle,
      (∀ u r, p.Region oracle u → p.get? u = some r → ∀ site ∈ r.calls,
        site.callee = none → oracle'.feasible p u site = oracle.feasible p u site) →
      build p oracle' = build p oracle) := by
  refine ⟨⟨?_, ?_⟩, ?_, fun oracle' => (Draft.sound_start p oracle).complete_congr⟩
  · rintro ⟨e, he⟩
    rcases build_ok_or_error p oracle with ⟨g, hg, -⟩ | ⟨e', -, u, hu, hfails⟩
    · simp [he] at hg
    · exact ⟨u, hu, e', hfails⟩
  · rintro ⟨u, hu, e, hfails⟩
    rcases build_ok_or_error p oracle with ⟨g, -, hg⟩ | ⟨e', he', -⟩
    · exact absurd hfails (hg.answered u hu e)
    · exact ⟨e', he'⟩
  · intro g h
    have hg := resolves_of_build h
    exact ⟨fun u => hg.contains_iff, fun u v => hg.mem_callees, fun u => ExtTreeMap.ordered_keys⟩

end CallGraph

end FunctionalSize
