import FunctionalSize.Proofs.Analysis
import FunctionalSize.Proofs.CallGraph

set_option autoImplicit false

namespace FunctionalSize

open Std

namespace Program

variable {p : Program} {oracle : Oracle} {root f : RoutineId}

theorem Calls.mayCall (h : p.Calls root f) : p.MayCall oracle root f := by
  obtain ⟨r, hr, site, hsite, hcallee⟩ := h
  exact ⟨r, hr, site, hsite, Or.inl hcallee⟩

theorem resolvedGraph_reachable (h : p.staticGraph.Reachable root f)
    (hf : p.contains f = true) : (p.resolvedGraph oracle).Reachable root f := by
  -- the static walk also meets undefined routines, but only as its last step
  induction h with
  | refl => exact .refl
  | step _ hsucc ih =>
    have hcall := mem_staticSuccessors.1 hsucc
    exact (ih hcall.contains).step (mem_resolvedSuccessors.2 ⟨hf, hcall.mayCall⟩)

theorem Region.of_reachable (hroot : p.Region oracle root)
    (h : (p.resolvedGraph oracle).Reachable root f) : p.Region oracle f := by
  induction h with
  | refl => exact hroot
  | step _ hsucc ih =>
    obtain ⟨hf, hcall⟩ := mem_resolvedSuccessors.1 hsucc
    exact .call ih hcall hf

end Program

namespace CallGraph

variable {p : Program} {oracle : Oracle} {g : CallGraph} {counts : LocalCounts}
  {root f : RoutineId}

/-- From a node, the graph reaches what resolved calls reach: they never leave the region. -/
theorem Resolves.reachable_iff (hg : g.Resolves p oracle) (hroot : p.Region oracle root) :
    g.toGraph.Reachable root f ↔ (p.resolvedGraph oracle).Reachable root f := by
  constructor
  · intro h
    induction h with
    | refl => exact .refl
    | step _ hsucc ih =>
      obtain ⟨-, hf, hcall⟩ := hg.mem_callees.1 hsucc
      exact ih.step (Program.mem_resolvedSuccessors.2 ⟨hf, hcall⟩)
  · intro h
    induction h with
    | refl => exact .refl
    | step hreach hsucc ih =>
      obtain ⟨hf, hcall⟩ := Program.mem_resolvedSuccessors.1 hsucc
      exact ih.step (hg.mem_callees.2 ⟨hroot.of_reachable hreach, hf, hcall⟩)

theorem Resolves.mem_reach_of_region (hg : g.Resolves p oracle) (hroot : p.Region oracle root) :
    f ∈ (g.reach p counts root).routines ↔ (p.resolvedGraph oracle).Reachable root f := by
  rw [reach, Reach.mem_ofWalk, walk, walk?, if_pos (hg.contains_iff.2 hroot), Option.getD_some,
    Graph.mem_visit, hg.reachable_iff hroot]

theorem Resolves.reach_of_not_region (hg : g.Resolves p oracle) (hroot : ¬ p.Region oracle root) :
    g.reach p counts root = p.staticReach counts root := by
  rw [reach, walk, walk?, if_neg fun hmem => hroot (hg.contains_iff.1 hmem), Option.getD_none,
    Program.staticReach]

theorem Resolves.mem_reach_of_mem_staticReach (hg : g.Resolves p oracle)
    (hf : f ∈ (p.staticReach counts root).routines) : f ∈ (g.reach p counts root).routines := by
  by_cases hroot : p.Region oracle root
  · obtain ⟨hreach, hdefined⟩ := Program.mem_staticReach.1 hf
    rw [hg.mem_reach_of_region hroot]
    exact Program.resolvedGraph_reachable hreach hdefined
  · rw [hg.reach_of_not_region hroot]
    exact hf

end CallGraph

namespace Analysis

theorem process_mono (p : Program) (countTrigger : Bool) (entry : RoutineId)
    {counts : LocalCounts} {small large : Reach} (hsmall : small.Summed counts)
    (hlarge : large.Summed counts) (hsub : ∀ f ∈ small.routines, f ∈ large.routines) :
    (process p countTrigger entry small).routines
        ≤ (process p countTrigger entry large).routines ∧
      (process p countTrigger entry small).movements
        ≤ (process p countTrigger entry large).movements :=
  process_atMost (hsmall.within hlarge (fun _ => le_rfl) hsub) p p countTrigger entry entry

/-- Both strategies report the same entries in the same order. The whole-program strategy reaches
at least the routines that the static one reaches from an entry, and so no number of a process is
lower in its report. -/
theorem wholeProgram_dominates_static (p : Program) (classifier : Classifier) (oracle : Oracle)
    (settings : Settings) {static whole : Report}
    (hstatic : runWith p classifier oracle { settings with strategy := .static } = .ok static)
    (hwhole : runWith p classifier oracle { settings with strategy := .wholeProgram }
      = .ok whole) :
    static.processes.map (fun q => (q.name, q.source)) =
      whole.processes.map (fun q => (q.name, q.source)) ∧
    (∃ g, CallGraph.build p oracle = .ok g ∧ ∀ entry f,
      f ∈ (p.staticReach (.compute p classifier) entry).routines →
        f ∈ (g.reach p (.compute p classifier) entry).routines) ∧
    List.Forall₂ (fun s w => s.routines ≤ w.routines ∧ s.movements ≤ w.movements)
      static.processes whole.processes := by
  obtain ⟨staticReach, hstaticReach, hstaticProcesses, -⟩ := runWith_eq_ok hstatic
  obtain ⟨wholeReach, hwholeReach, hwholeProcesses, -⟩ := runWith_eq_ok hwhole
  obtain rfl : p.staticReach (.compute p classifier) = staticReach := Except.ok.inj hstaticReach
  obtain ⟨g, hbuild, rfl⟩ := reachability_wholeProgram hwholeReach
  have hg := CallGraph.resolves_of_build hbuild
  have hsub : ∀ entry f, f ∈ (p.staticReach (.compute p classifier) entry).routines →
      f ∈ (g.reach p (.compute p classifier) entry).routines :=
    fun entry f hf => hg.mem_reach_of_mem_staticReach hf
  refine ⟨?_, ⟨g, hbuild, hsub⟩, ?_⟩
  · rw [hstaticProcesses, hwholeProcesses, List.map_map, List.map_map]
    rfl
  · rw [hstaticProcesses, hwholeProcesses, List.forall₂_map_left_iff,
      List.forall₂_map_right_iff, List.forall₂_same]
    intro entry _
    exact process_mono p settings.countTrigger entry (summed_of_reachability hstaticReach entry)
      (summed_of_reachability hwholeReach entry) (hsub entry)

theorem wholeProgram_dominates_static_server :
    runWith server .builtIn .recorded { strategy := .static } = .ok (serverReport .static) ∧
    runWith server .builtIn .recorded { strategy := .wholeProgram }
      = .ok (serverReport .wholeProgram) ∧
    (serverReport .static).processes.map (fun q => (q.name, q.source)) =
      (serverReport .wholeProgram).processes.map (fun q => (q.name, q.source)) ∧
    (∃ g, CallGraph.build server .recorded = .ok g ∧ ∀ entry f,
      f ∈ (server.staticReach (.compute server .builtIn) entry).routines →
        f ∈ (g.reach server (.compute server .builtIn) entry).routines) ∧
    List.Forall₂ (fun s w => s.routines ≤ w.routines ∧ s.movements ≤ w.movements)
      (serverReport .static).processes (serverReport .wholeProgram).processes :=
  ⟨runWith_server .static, runWith_server .wholeProgram,
    wholeProgram_dominates_static server .builtIn .recorded {} (runWith_server .static)
      (runWith_server .wholeProgram)⟩

end Analysis

end FunctionalSize
