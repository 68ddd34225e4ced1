import FunctionalSize.Proofs.Strategies

set_option autoImplicit false

/-!
# Processes inside processes

A routine that a root reaches reaches nothing new over the same kind of calls. For the static
strategy that is a law. The whole-program strategy follows resolved calls from a node of the call
graph and named calls from any other root, so the law has one exception: a root outside the graph
meets a node over a named call, and the process of the node goes on over resolved calls where that
of the root does not.
-/

namespace FunctionalSize

open Std

namespace Program

variable {p : Program} {counts : LocalCounts} {root f h : RoutineId}

theorem mem_staticReach_trans (hf : f ∈ (p.staticReach counts root).routines)
    (hh : h ∈ (p.staticReach counts f).routines) : h ∈ (p.staticReach counts root).routines := by
  rw [mem_staticReach] at hf hh ⊢
  exact ⟨hf.1.trans hh.1, hh.2⟩

end Program

namespace CallGraph

variable {p : Program} {oracle : Oracle} {g : CallGraph} {counts : LocalCounts}
  {root f h : RoutineId}

theorem Resolves.mem_reach_trans_of_region (hg : g.Resolves p oracle)
    (hroot : p.Region oracle root) (hf : f ∈ (g.reach p counts root).routines)
    (hh : h ∈ (g.reach p counts f).routines) : h ∈ (g.reach p counts root).routines := by
  rw [hg.mem_reach_of_region hroot] at hf ⊢
  rw [hg.mem_reach_of_region (hroot.of_reachable hf)] at hh
  exact hf.trans hh

theorem Resolves.mem_reach_trans_of_not_region (hg : g.Resolves p oracle)
    (hroot : ¬ p.Region oracle root) (hf : f ∈ (g.reach p counts root).routines)
    (hh : h ∈ (p.staticReach counts f).routines) : h ∈ (g.reach p counts root).routines := by
  rw [hg.reach_of_not_region hroot] at hf ⊢
  exact Program.mem_staticReach_trans hf hh

theorem Resolves.mem_reach_trans (hg : g.Resolves p oracle)
    (hnode : g.contains root = true ∨ g.contains f = false)
    (hf : f ∈ (g.reach p counts root).routines) (hh : h ∈ (g.reach p counts f).routines) :
    h ∈ (g.reach p counts root).routines := by
  by_cases hroot : p.Region oracle root
  · exact hg.mem_reach_trans_of_region hroot hf hh
  · -- neither is a node, so both are walked over named calls
    have hoff := hnode.resolve_left fun hmem => hroot (hg.contains_iff.1 hmem)
    have hregion : ¬ p.Region oracle f := by
      rw [← hg.contains_iff, hoff]
      simp
    rw [hg.reach_of_not_region hregion] at hh
    exact hg.mem_reach_trans_of_not_region hroot hf hh

theorem Resolves.mem_reach_trans_static (hg : g.Resolves p oracle)
    (hf : f ∈ (g.reach p counts root).routines) (hh : h ∈ (p.staticReach counts f).routines) :
    h ∈ (g.reach p counts root).routines := by
  by_cases hroot : p.Region oracle root
  · exact hg.mem_reach_trans_of_region hroot hf (hg.mem_reach_of_mem_staticReach hh)
  · exact hg.mem_reach_trans_of_not_region hroot hf hh

end CallGraph

namespace Analysis

structure Nested (p : Program) (inner outer : RoutineId × Reach) : Prop where
  within : inner.2.Within outer.2
  atMost : ∀ countTrigger, (process p countTrigger inner.1 inner.2).AtMost
    (process p countTrigger outer.1 outer.2)

theorem Nested.of_mem (p : Program) {counts : LocalCounts} {inner outer : RoutineId × Reach}
    (hinner : inner.2.Summed counts) (houter : outer.2.Summed counts)
    (hsub : ∀ f ∈ inner.2.routines, f ∈ outer.2.routines) : Nested p inner outer := by
  have hwithin := hinner.within houter (fun _ => le_rfl) hsub
  exact ⟨hwithin, fun countTrigger => process_atMost hwithin p p countTrigger inner.1 outer.1⟩

/-- With the static strategy the process of a routine that a root reaches is nested in the process
of the root. With the whole-program strategy that holds as well, except from a root outside the
graph to a node of it, where only the static process of the node is sure to be nested. -/
theorem reach_nested (p : Program) (counts : LocalCounts) :
    (∀ root f, f ∈ (p.staticReach counts root).routines →
      Nested p (f, p.staticReach counts f) (root, p.staticReach counts root)) ∧
    (∀ oracle g, CallGraph.build p oracle = .ok g →
      ∀ root f, f ∈ (g.reach p counts root).routines →
        ((g.contains root = true ∨ g.contains f = false) →
          Nested p (f, g.reach p counts f) (root, g.reach p counts root)) ∧
        Nested p (f, p.staticReach counts f) (root, g.reach p counts root)) := by
  have hsummed := fun walk => Reach.summed_ofWalk counts walk
  refine ⟨?_, ?_⟩
  · intro root f hf
    exact .of_mem p (hsummed _) (hsummed _) fun h hh => Program.mem_staticReach_trans hf hh
  · intro oracle g hbuild root f hf
    have hg := CallGraph.resolves_of_build hbuild
    refine ⟨?_, ?_⟩
    · intro hnode
      exact .of_mem p (hsummed _) (hsummed _) fun h hh => hg.mem_reach_trans hnode hf hh
    · exact .of_mem p (hsummed _) (hsummed _) fun h hh => hg.mem_reach_trans_static hf hh

/-- The job is outside the main region and calls a node that makes a dynamic call. -/
def relay : Program :=
  [{ id := ⟨"main", "main"⟩, isMain := true, calls := [
       { callee := some ⟨"main", "shared"⟩ }] },
   { id := ⟨"main", "shared"⟩, calls := [{ pointsTo := some [⟨"main", "worker"⟩] }] },
   { id := ⟨"main", "worker"⟩, calls := [{ callee := some ⟨"os", "ReadFile"⟩ }] },
   { id := ⟨"main", "job"⟩, calls := [{ callee := some ⟨"main", "shared"⟩ }] }].foldl
    Program.insertNew .empty

theorem build_relay : ∃ g, CallGraph.build relay .recorded = .ok g ∧
    g.contains ⟨"main", "main"⟩ = true ∧
    (g.reach relay (.compute relay .builtIn) ⟨"main", "main"⟩).routines.toList =
      [⟨"main", "main"⟩, ⟨"main", "shared"⟩, ⟨"main", "worker"⟩] ∧
    (g.reach relay (.compute relay .builtIn) ⟨"main", "shared"⟩).routines.toList =
      [⟨"main", "shared"⟩, ⟨"main", "worker"⟩] ∧
    (g.reach relay (.compute relay .builtIn) ⟨"main", "job"⟩).routines.toList =
      [⟨"main", "job"⟩, ⟨"main", "shared"⟩] := by
  have heval : ((CallGraph.build relay .recorded).toOption.map fun g =>
      (g.contains ⟨"main", "main"⟩, ["main", "shared", "job"].map fun name =>
        (g.reach relay (.compute relay .builtIn) ⟨"main", name⟩).routines.toList)) =
      some (true, [[⟨"main", "main"⟩, ⟨"main", "shared"⟩, ⟨"main", "worker"⟩],
        [⟨"main", "shared"⟩, ⟨"main", "worker"⟩], [⟨"main", "job"⟩, ⟨"main", "shared"⟩]]) := by
    decide +kernel
  cases hbuild : CallGraph.build relay .recorded with
  | error e => simp [hbuild, Except.toOption] at heval
  | ok g =>
    simp only [hbuild, Except.toOption, Option.map_some, Option.some.injEq, Prod.mk.injEq,
      List.map_cons, List.map_nil, List.cons.injEq, and_true] at heval
    exact ⟨g, rfl, heval⟩

theorem reach_nested_relay : ∃ g, CallGraph.build relay .recorded = .ok g ∧
    g.contains ⟨"main", "main"⟩ = true ∧
    ⟨"main", "shared"⟩ ∈ (g.reach relay (.compute relay .builtIn) ⟨"main", "main"⟩).routines ∧
    Nested relay (⟨"main", "shared"⟩, g.reach relay (.compute relay .builtIn) ⟨"main", "shared"⟩)
      (⟨"main", "main"⟩, g.reach relay (.compute relay .builtIn) ⟨"main", "main"⟩) := by
  obtain ⟨g, hbuild, hnode, hmain, -⟩ := build_relay
  have hshared : ⟨"main", "shared"⟩ ∈
      (g.reach relay (.compute relay .builtIn) ⟨"main", "main"⟩).routines := by
    rw [← ExtTreeSet.mem_toList, hmain]
    simp
  have hnested := (reach_nested relay (.compute relay .builtIn)).2 .recorded g hbuild _ _ hshared
  exact ⟨g, hbuild, hnode, hshared, hnested.1 (Or.inl hnode)⟩

/-- The exception is real: the job meets the shared routine, which reads through the worker, and
the job does not reach the worker and reports no read. -/
theorem reach_not_nested_relay : ∃ g, CallGraph.build relay .recorded = .ok g ∧
    ⟨"main", "shared"⟩ ∈ (g.reach relay (.compute relay .builtIn) ⟨"main", "job"⟩).routines ∧
    ⟨"main", "worker"⟩ ∈ (g.reach relay (.compute relay .builtIn) ⟨"main", "shared"⟩).routines ∧
    ⟨"main", "worker"⟩ ∉ (g.reach relay (.compute relay .builtIn) ⟨"main", "job"⟩).routines ∧
    (process relay true ⟨"main", "job"⟩
        (g.reach relay (.compute relay .builtIn) ⟨"main", "job"⟩)).movements.reads <
      (process relay true ⟨"main", "shared"⟩
        (g.reach relay (.compute relay .builtIn) ⟨"main", "shared"⟩)).movements.reads := by
  obtain ⟨g, hbuild, -, -, hshared, hjob⟩ := build_relay
  have hreads : ∀ id, (process relay true id (g.reach relay (.compute relay .builtIn) id)).movements
      = (((g.reach relay (.compute relay .builtIn) id).routines.toList.map
        (LocalCounts.compute relay .builtIn).get).sum + { entries := 1 } : Movements) := by
    intro id
    have hsummed : (g.reach relay (.compute relay .builtIn) id).Summed (.compute relay .builtIn) :=
      Reach.summed_ofWalk _ _
    rw [movements_process, hsummed]
    rfl
  refine ⟨g, hbuild, ?_, ?_, ?_, ?_⟩
  · rw [← ExtTreeSet.mem_toList, hjob]
    simp
  · rw [← ExtTreeSet.mem_toList, hshared]
    simp
  · rw [← ExtTreeSet.mem_toList, hjob]
    simp
  · rw [hreads, hreads, hjob, hshared, Classifier.builtIn_eq]
    decide +kernel

end Analysis

end FunctionalSize
