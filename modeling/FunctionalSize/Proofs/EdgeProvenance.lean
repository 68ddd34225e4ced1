import FunctionalSize.Proofs.CallGraph
import Mathlib.Algebra.BigOperators.Group.Finset.Basic
import Mathlib.Data.Set.Card

set_option autoImplicit false

namespace FunctionalSize

open Std

namespace Edges

variable {links : List (RoutineId × EdgeKind)} {v : RoutineId}

theorem getElem?_foldl_insertIfNew {edges : Edges} :
    (links.foldl (fun edges link => edges.insertIfNew link.1 link.2) edges)[v]? =
      edges[v]?.or ((links.find? (·.1 == v)).map Prod.snd) := by
  induction links generalizing edges with
  | nil => simp
  | cons link links ih =>
    rw [List.foldl_cons, ih, ExtTreeMap.getElem?_insertIfNew]
    simp only [LawfulEqOrd.compare_eq_iff_eq]
    by_cases hlink : link.1 = v
    · subst hlink
      rw [List.find?_cons_of_pos (by simp)]
      by_cases hmem : link.1 ∈ edges <;> simp [hmem]
    · rw [List.find?_cons_of_neg (by simp [hlink]), if_neg fun h => hlink h.1]

theorem getElem?_ofLinks : (ofLinks links)[v]? = (links.find? (·.1 == v)).map Prod.snd := by
  rw [ofLinks, getElem?_foldl_insertIfNew, ExtTreeMap.getElem?_empty, Option.none_or]

end Edges

def CallSite.kindTo (site : CallSite) (target : RoutineId) : EdgeKind :=
  if site.callee = some target then .static else .resolved

namespace CallSite

variable {oracle : Oracle} {p : Program} {caller target : RoutineId} {site : CallSite}
  {kind : EdgeKind}

theorem kind_of_targets {targets : List RoutineId}
    (h : site.targets oracle p caller = .ok (targets, kind)) (htarget : target ∈ targets) :
    kind = site.kindTo target := by
  unfold CallSite.targets at h
  unfold kindTo
  cases hcallee : site.callee with
  | some callee =>
    simp only [hcallee, Except.ok.injEq, Prod.mk.injEq] at h
    obtain ⟨rfl, rfl⟩ := h
    rw [List.mem_singleton.1 htarget, if_pos rfl]
  | none =>
    cases hfeasible : oracle.feasible p caller site with
    | error e => simp [hcallee, hfeasible, Except.map] at h
    | ok answer =>
      simp only [hcallee, hfeasible, Except.map, Except.ok.injEq, Prod.mk.injEq] at h
      simp [← h.2]

theorem mk_mem_links :
    (target, kind) ∈ site.links oracle p caller ↔
      p.contains target = true ∧ site.MayReach oracle p caller target ∧
        kind = site.kindTo target := by
  unfold links
  cases htargets : site.targets oracle p caller with
  | error e =>
    obtain ⟨hcallee, hfeasible⟩ := targets_eq_error.1 htargets
    simp [MayReach, hcallee, hfeasible]
  | ok found =>
    obtain ⟨targets, made⟩ := found
    have hkind : target ∈ targets → made = site.kindTo target := kind_of_targets htargets
    rw [mayReach_of_targets htargets]
    simp only [List.mem_map, List.mem_filter, Prod.mk.injEq]
    grind

theorem find?_links_eq_some :
    ((site.links oracle p caller).find? (·.1 == target)).map Prod.snd = some kind ↔
      p.contains target = true ∧ site.MayReach oracle p caller target ∧
        kind = site.kindTo target := by
  rw [Option.map_eq_some_iff]
  constructor
  · rintro ⟨⟨found, kind'⟩, hfind, rfl⟩
    obtain rfl : found = target := by simpa using List.find?_some hfind
    exact mk_mem_links.1 (List.mem_of_find?_eq_some hfind)
  · intro h
    have hmem := mk_mem_links.2 h
    cases hfind : (site.links oracle p caller).find? (·.1 == target) with
    | none =>
      have := List.find?_eq_none.1 hfind _ hmem
      simp at this
    | some link =>
      obtain ⟨found, kind'⟩ := link
      obtain rfl : found = target := by simpa using List.find?_some hfind
      have hkind := (mk_mem_links.1 (List.mem_of_find?_eq_some hfind)).2.2
      exact ⟨_, rfl, hkind.trans h.2.2.symm⟩

theorem find?_links_eq_none :
    ((site.links oracle p caller).find? (·.1 == target)).map Prod.snd = none ↔
      ¬ (p.contains target = true ∧ site.MayReach oracle p caller target) := by
  rw [Option.map_eq_none_iff, List.find?_eq_none, ← mem_links, List.mem_map]
  simp only [beq_iff_eq, not_exists, not_and]

end CallSite

namespace Program

variable {p : Program} {oracle : Oracle} {u v : RoutineId} {kind : EdgeKind}

def FirstSite (p : Program) (oracle : Oracle) (u v : RoutineId) (site : CallSite) : Prop :=
  ∃ r before after, p.get? u = some r ∧ r.calls = before ++ site :: after ∧
    site.MayReach oracle p u v ∧ ∀ earlier ∈ before, ¬ earlier.MayReach oracle p u v

theorem find?_links_eq_some :
    ((p.links oracle u).find? (·.1 == v)).map Prod.snd = some kind ↔
      p.contains v = true ∧ ∃ site, p.FirstSite oracle u v site ∧ kind = site.kindTo v := by
  unfold links FirstSite
  cases hget : p.get? u with
  | none => simp
  | some r =>
    simp only [List.find?_flatMap, List.map_findSome?, List.findSome?_eq_some_iff,
      Function.comp_apply, CallSite.find?_links_eq_some, CallSite.find?_links_eq_none]
    constructor
    · rintro ⟨before, site, after, hcalls, ⟨hv, hreach, hkind⟩, hbefore⟩
      refine ⟨hv, site, ⟨r, before, after, rfl, hcalls, hreach, ?_⟩, hkind⟩
      exact fun earlier hearlier hmay => hbefore earlier hearlier ⟨hv, hmay⟩
    · rintro ⟨hv, site, ⟨r', before, after, hr, hcalls, hreach, hbefore⟩, hkind⟩
      obtain rfl := Option.some.inj hr
      refine ⟨before, site, after, hcalls, ⟨hv, hreach, hkind⟩, ?_⟩
      exact fun earlier hearlier hmay => hbefore earlier hearlier hmay.2

end Program

namespace CallGraph

variable {p : Program} {oracle : Oracle} {g : CallGraph} {u v : RoutineId} {kind : EdgeKind}

theorem mem_edges :
    ⟨u, v, kind⟩ ∈ g.edges ↔ ∃ row, g.rows[u]? = some row ∧ row[v]? = some kind := by
  unfold edges
  simp only [List.mem_flatMap, List.mem_map, Prod.exists, Edge.mk.injEq,
    ExtTreeMap.mem_toList_iff_getElem?_eq_some]
  grind

theorem nodup_ends (g : CallGraph) : (g.edges.map fun e => (e.caller, e.callee)).Nodup := by
  have hends : (g.edges.map fun e => (e.caller, e.callee)) =
      g.rows.toList.flatMap fun row => row.2.keys.map (row.1, ·) := by
    simp only [edges, List.map_flatMap, List.map_map, ← ExtTreeMap.map_fst_toList_eq_keys]
    rfl
  rw [hends, List.nodup_flatMap]
  constructor
  · intro row _
    exact ExtTreeMap.nodup_keys.map fun v v' h => congrArg Prod.snd h
  · refine ExtTreeMap.distinct_keys_toList.imp ?_
    intro row row' hdistinct pair hpair hpair'
    obtain ⟨v, -, rfl⟩ := List.mem_map.1 hpair
    obtain ⟨v', -, hsame⟩ := List.mem_map.1 hpair'
    have hcaller : row'.1 = row.1 := (Prod.mk.inj hsame).1
    rw [hcaller] at hdistinct
    exact hdistinct ReflCmp.compare_self

theorem edgeCountOf_add (g : CallGraph) :
    g.edgeCountOf .static + g.edgeCountOf .resolved = g.edgeCount := by
  unfold edgeCountOf edgeCount
  rw [List.length_eq_countP_add_countP (fun e : Edge => e.kind == .static)]
  congr 1
  apply List.countP_congr
  intro e _
  cases e.kind <;> simp

theorem edgeCount_eq_sum (g : CallGraph) :
    g.edgeCount = ∑ u ∈ g.toGraph.nodes.toFinset, (g.callees u).length := by
  have hrow : ∀ row ∈ g.rows.toList, row.2.size = (g.callees row.1).length := by
    intro row hrow
    have hget := ExtTreeMap.mem_toList_iff_getElem?_eq_some.1 hrow
    rw [callees, ExtTreeMap.getD_eq_getD_getElem?, hget, Option.getD_some, ExtTreeMap.length_keys]
  calc g.edgeCount
      = (g.rows.toList.map fun row => row.2.size).sum := by
        simp only [edgeCount, edges, List.length_flatMap, List.length_map, ExtTreeMap.length_toList]
    _ = (g.rows.toList.map fun row => (g.callees row.1).length).sum := by
        rw [List.map_congr_left hrow]
    _ = (g.rows.keys.map fun u => (g.callees u).length).sum := by
        rw [← ExtTreeMap.map_fst_toList_eq_keys, List.map_map]
        rfl
    _ = ∑ u ∈ g.toGraph.nodes.toFinset, (g.callees u).length :=
        (List.sum_toFinset _ ExtTreeMap.nodup_keys).symm

namespace Resolves

theorem mem_edges (hg : g.Resolves p oracle) :
    ⟨u, v, kind⟩ ∈ g.edges ↔ p.Region oracle u ∧ p.contains v = true ∧
      ∃ site, p.FirstSite oracle u v site ∧ kind = site.kindTo v := by
  rw [CallGraph.mem_edges]
  constructor
  · rintro ⟨row, hrow, hkind⟩
    have hu := hg.region u (ExtTreeMap.mem_iff_isSome_getElem?.2 (by rw [hrow]; rfl))
    obtain rfl := Option.some.inj ((hg.row u hu).symm.trans hrow)
    rw [Edges.getElem?_ofLinks, Program.find?_links_eq_some] at hkind
    exact ⟨hu, hkind⟩
  · rintro ⟨hu, hkind⟩
    refine ⟨_, hg.row u hu, ?_⟩
    rw [Edges.getElem?_ofLinks, Program.find?_links_eq_some]
    exact hkind

theorem length_callees (hg : g.Resolves p oracle) (hu : p.Region oracle u) :
    (g.callees u).length = {v | p.contains v = true ∧ p.MayCall oracle u v}.ncard := by
  have hset : {v | p.contains v = true ∧ p.MayCall oracle u v} = ↑(g.callees u).toFinset := by
    ext v
    simp [hg.mem_callees, hu]
  have hnodup : (g.callees u).Nodup := ExtTreeMap.nodup_keys
  rw [hset, Set.ncard_coe_finset, List.toFinset_card_of_nodup hnodup]

end Resolves

/-- There is at most one edge between two nodes in each direction. It is static when the first call
site that may reach the callee names it, and resolved otherwise. So the edges are counted by the
defined routines that each node may call, and every edge is of one of the two kinds. -/
theorem edges_by_first_site (h : build p oracle = .ok g) :
    (g.edges.map fun e => (e.caller, e.callee)).Nodup ∧
    (∀ u v kind, ⟨u, v, kind⟩ ∈ g.edges ↔
      g.contains u = true ∧ p.contains v = true ∧ ∃ site, p.FirstSite oracle u v site ∧
        kind = if site.callee = some v then .static else .resolved) ∧
    (∀ u, u ∈ g.toGraph.nodes ↔ g.contains u = true) ∧
    g.edgeCount = ∑ u ∈ g.toGraph.nodes.toFinset,
      {v | p.contains v = true ∧ p.MayCall oracle u v}.ncard ∧
    g.edgeCountOf .static + g.edgeCountOf .resolved = g.edgeCount := by
  have hg := resolves_of_build h
  have hnode : ∀ u, u ∈ g.toGraph.nodes ↔ g.contains u = true := fun u =>
    ExtTreeMap.mem_keys.trans ExtTreeMap.contains_iff_mem.symm
  refine ⟨g.nodup_ends, ?_, hnode, ?_, g.edgeCountOf_add⟩
  · intro u v kind
    rw [hg.mem_edges, hg.contains_iff]
    rfl
  · rw [edgeCount_eq_sum]
    apply Finset.sum_congr rfl
    intro u hu
    exact hg.length_callees (hg.contains_iff.1 ((hnode u).1 (List.mem_toFinset.1 hu)))

/-- The worker is called through a value before it is called by name, the set-up the other way
round; there are calls of oneself, of library code and of the same routine twice. -/
def crossing : Program :=
  [{ id := ⟨"main", "main"⟩, isMain := true, calls := [
       { pointsTo := some [⟨"main", "worker"⟩, ⟨"main", "worker"⟩, ⟨"strings", "ToUpper"⟩] },
       { callee := some ⟨"main", "worker"⟩ },
       { callee := some ⟨"main", "setup"⟩ },
       { pointsTo := some [⟨"main", "setup"⟩, ⟨"main", "main"⟩] },
       { callee := some ⟨"os", "ReadFile"⟩ }] },
   { id := ⟨"main", "setup"⟩, calls := [
       { callee := some ⟨"main", "worker"⟩ }, { callee := some ⟨"main", "setup"⟩ }] },
   { id := ⟨"main", "worker"⟩ }].foldl Program.insertNew .empty

def crossingEdges : List Edge :=
  [⟨⟨"main", "main"⟩, ⟨"main", "main"⟩, .resolved⟩,
    ⟨⟨"main", "main"⟩, ⟨"main", "setup"⟩, .static⟩,
    ⟨⟨"main", "main"⟩, ⟨"main", "worker"⟩, .resolved⟩,
    ⟨⟨"main", "setup"⟩, ⟨"main", "setup"⟩, .static⟩,
    ⟨⟨"main", "setup"⟩, ⟨"main", "worker"⟩, .static⟩]

theorem edges_by_first_site_crossing : ∃ g, build crossing .recorded = .ok g ∧
    g.edges = crossingEdges ∧
    (∃ site, crossing.FirstSite .recorded ⟨"main", "main"⟩ ⟨"main", "worker"⟩ site ∧
      site.callee ≠ some ⟨"main", "worker"⟩) ∧
    5 = ∑ u ∈ g.toGraph.nodes.toFinset,
      {v | crossing.contains v = true ∧ crossing.MayCall .recorded u v}.ncard ∧
    g.edgeCountOf .static + g.edgeCountOf .resolved = 5 := by
  have heval : (build crossing .recorded).toOption.map edges = some crossingEdges := by
    decide +kernel
  cases hbuild : build crossing .recorded with
  | error e => simp [hbuild, Except.toOption] at heval
  | ok g =>
    simp only [hbuild, Except.toOption, Option.map_some, Option.some.injEq] at heval
    have hcount : g.edgeCount = 5 := by rw [edgeCount, heval]; rfl
    obtain ⟨-, hedge, -, hsum, hkinds⟩ := edges_by_first_site hbuild
    rw [hcount] at hsum hkinds
    refine ⟨g, rfl, heval, ?_, hsum, hkinds⟩
    have hmem : ⟨⟨"main", "main"⟩, ⟨"main", "worker"⟩, .resolved⟩ ∈ g.edges := by
      rw [heval]
      decide
    obtain ⟨-, -, site, hfirst, hkind⟩ := (hedge _ _ _).1 hmem
    refine ⟨site, hfirst, ?_⟩
    intro hcallee
    rw [if_pos hcallee] at hkind
    contradiction

end CallGraph

end FunctionalSize
