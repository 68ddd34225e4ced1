import FunctionalSize.Proofs.Strategies

set_option autoImplicit false

/-!
# A program inside another

A program with its oracle is embedded in another when each of its calls has a counterpart in the
routine of the same identity, and the counterpart leads at least as far wherever its oracle
answers. Then a run that succeeds on the larger side succeeds on the smaller one and reaches no
more from any root.

A root may be outside the main region of the smaller side and inside that of the larger one. It is
then walked over named calls on one side and over resolved calls on the other, and the comparison
goes through the static walk of the larger side.
-/

namespace FunctionalSize

open Std

/-- The counterpart has the same callee, or is dynamic and answered with at least the defined
callees, if it is answered. -/
structure CallSite.Narrows (p q : Program) (small large : Oracle) (caller : RoutineId)
    (site counterpart : CallSite) : Prop where
  callee : site.callee = counterpart.callee
  answers : site.callee = none → ∀ wide, large.feasible q caller counterpart = .ok wide →
    ∃ narrow, small.feasible p caller site = .ok narrow ∧
      ∀ id ∈ narrow, p.contains id = true → id ∈ wide

structure Routine.Embeds (p q : Program) (small large : Oracle) (r r' : Routine) : Prop where
  id : r'.id = r.id
  isMain : r.isMain = true → r'.isMain = true
  calls : ∀ site ∈ r.calls, ∃ counterpart ∈ r'.calls,
    site.Narrows p q small large r.id counterpart

def Program.Embeds (p q : Program) (small large : Oracle) : Prop :=
  ∀ r ∈ p.routines, ∃ r' ∈ q.routines, r.Embeds p q small large r'

theorem Program.exists_answer {p : Program} {oracle : Oracle} {u : RoutineId} {r : Routine}
    {site : CallSite} (hu : ∀ e, ¬ p.FailsWith oracle u e) (hget : p.get? u = some r)
    (hsite : site ∈ r.calls) (hcallee : site.callee = none) :
    ∃ answer, oracle.feasible p u site = .ok answer := by
  cases hfeasible : oracle.feasible p u site with
  | error e => exact absurd ⟨r, hget, site, hsite, hcallee, hfeasible⟩ (hu e)
  | ok answer => exact ⟨answer, rfl⟩

namespace Program.Embeds

variable {p q : Program} {small large : Oracle} {u v root f : RoutineId}

theorem exists_counterpart (h : p.Embeds q small large) {r : Routine} (hget : p.get? u = some r) :
    ∃ r', q.get? u = some r' ∧ r.Embeds p q small large r' := by
  obtain ⟨hr, rfl⟩ := get?_eq_some_iff.1 hget
  obtain ⟨r', hr', hembeds⟩ := h r hr
  exact ⟨r', get?_eq_some_iff.2 ⟨hr', hembeds.id⟩, hembeds⟩

theorem contains (h : p.Embeds q small large) (hv : p.contains v = true) :
    q.contains v = true := by
  obtain ⟨r, hget⟩ := contains_iff_get?.1 hv
  obtain ⟨r', hget', -⟩ := h.exists_counterpart hget
  exact contains_iff_get?.2 ⟨r', hget'⟩

theorem calls (h : p.Embeds q small large) (hcall : p.Calls u v) : q.Calls u v := by
  obtain ⟨r, hget, site, hsite, hcallee⟩ := hcall
  obtain ⟨r', hget', hembeds⟩ := h.exists_counterpart hget
  obtain ⟨counterpart, hmem, hnarrows⟩ := hembeds.calls site hsite
  exact ⟨r', hget', counterpart, hmem, hnarrows.callee.symm.trans hcallee⟩

theorem exists_answers (h : p.Embeds q small large) (hu : ∀ e, ¬ q.FailsWith large u e)
    {r : Routine} {site : CallSite} (hget : p.get? u = some r) (hsite : site ∈ r.calls)
    (hcallee : site.callee = none) :
    ∃ narrow, small.feasible p u site = .ok narrow ∧
      ∀ id ∈ narrow, p.contains id = true → q.MayCall large u id := by
  obtain ⟨r', hget', hembeds⟩ := h.exists_counterpart hget
  obtain ⟨counterpart, hmem, hnarrows⟩ := hembeds.calls site hsite
  obtain ⟨-, rfl⟩ := get?_eq_some_iff.1 hget
  have hdynamic : counterpart.callee = none := hnarrows.callee.symm.trans hcallee
  obtain ⟨wide, hwide⟩ := exists_answer hu hget' hmem hdynamic
  obtain ⟨narrow, hnarrow, hsub⟩ := hnarrows.answers hcallee wide hwide
  refine ⟨narrow, hnarrow, ?_⟩
  intro id hid hdefined
  exact ⟨r', hget', counterpart, hmem, Or.inr ⟨hdynamic, wide, hwide, hsub id hid hdefined⟩⟩

theorem answered (h : p.Embeds q small large) (hu : ∀ e, ¬ q.FailsWith large u e) (e : Error) :
    ¬ p.FailsWith small u e := by
  rintro ⟨r, hget, site, hsite, hcallee, hfails⟩
  obtain ⟨narrow, hnarrow, -⟩ := h.exists_answers hu hget hsite hcallee
  simp [hnarrow] at hfails

theorem mayCall (h : p.Embeds q small large) (hu : ∀ e, ¬ q.FailsWith large u e)
    (hv : p.contains v = true) (hcall : p.MayCall small u v) : q.MayCall large u v := by
  obtain ⟨r, hget, site, hsite, hnamed | ⟨hcallee, targets, htargets, hmem⟩⟩ := hcall
  · exact (h.calls ⟨r, hget, site, hsite, hnamed⟩).mayCall
  · obtain ⟨narrow, hnarrow, hsub⟩ := h.exists_answers hu hget hsite hcallee
    obtain rfl : targets = narrow := Except.ok.inj (htargets.symm.trans hnarrow)
    exact hsub v hmem hv

theorem resolvedSuccessors (h : p.Embeds q small large) (hu : ∀ e, ¬ q.FailsWith large u e)
    (hv : v ∈ p.resolvedSuccessors small u) : v ∈ q.resolvedSuccessors large u := by
  obtain ⟨hdefined, hcall⟩ := mem_resolvedSuccessors.1 hv
  exact mem_resolvedSuccessors.2 ⟨h.contains hdefined, h.mayCall hu hdefined hcall⟩

theorem region (h : p.Embeds q small large)
    (hanswered : ∀ u, q.Region large u → ∀ e, ¬ q.FailsWith large u e)
    (hu : p.Region small u) : q.Region large u := by
  induction hu with
  | @main r hr hmain =>
    obtain ⟨r', hr', hembeds⟩ := h r hr
    rw [← hembeds.id]
    exact .main hr' (hembeds.isMain hmain)
  | @call u v _ hcall hv ih => exact .call ih (h.mayCall (hanswered u ih) hv hcall) (h.contains hv)

theorem staticGraph_reachable (h : p.Embeds q small large)
    (hreach : p.staticGraph.Reachable root f) : q.staticGraph.Reachable root f := by
  induction hreach with
  | refl => exact .refl
  | step _ hsucc ih =>
    exact ih.step (mem_staticSuccessors.2 (h.calls (mem_staticSuccessors.1 hsucc)))

theorem resolvedGraph_reachable (h : p.Embeds q small large)
    (hanswered : ∀ u, q.Region large u → ∀ e, ¬ q.FailsWith large u e)
    (hroot : p.Region small root) (hreach : (p.resolvedGraph small).Reachable root f) :
    (q.resolvedGraph large).Reachable root f := by
  induction hreach with
  | refl => exact .refl
  | step hpath hsucc ih =>
    -- the path stays inside the smaller region, so inside the larger one, where calls are answered
    have hregion := h.region hanswered (hroot.of_reachable hpath)
    exact ih.step (h.resolvedSuccessors (hanswered _ hregion) hsucc)

theorem mem_staticReach (h : p.Embeds q small large) {counts counts' : LocalCounts}
    (hf : f ∈ (p.staticReach counts root).routines) :
    f ∈ (q.staticReach counts' root).routines := by
  obtain ⟨hreach, hdefined⟩ := Program.mem_staticReach.1 hf
  exact Program.mem_staticReach.2 ⟨h.staticGraph_reachable hreach, h.contains hdefined⟩

theorem exists_build (h : p.Embeds q small large) {wide : CallGraph}
    (hwide : CallGraph.build q large = .ok wide) :
    ∃ narrow, CallGraph.build p small = .ok narrow := by
  rcases CallGraph.build_ok_or_error p small with ⟨narrow, hnarrow, -⟩ | ⟨e, -, u, hu, hfails⟩
  · exact ⟨narrow, hnarrow⟩
  · have hanswered := (CallGraph.resolves_of_build hwide).answered
    exact absurd hfails (h.answered (hanswered u (h.region hanswered hu)) e)

theorem mem_reach (h : p.Embeds q small large) {narrow wide : CallGraph}
    {counts counts' : LocalCounts} (hnarrow : narrow.Resolves p small)
    (hwide : wide.Resolves q large) (hf : f ∈ (narrow.reach p counts root).routines) :
    f ∈ (wide.reach q counts' root).routines := by
  by_cases hroot : p.Region small root
  · rw [hnarrow.mem_reach_of_region hroot] at hf
    rw [hwide.mem_reach_of_region (h.region hwide.answered hroot)]
    exact h.resolvedGraph_reachable hwide.answered hroot hf
  · rw [hnarrow.reach_of_not_region hroot] at hf
    exact hwide.mem_reach_of_mem_staticReach (h.mem_staticReach hf)

theorem reach_within (h : p.Embeds q small large) {counts counts' : LocalCounts}
    (hcounts : ∀ id, counts.get id ≤ counts'.get id) {narrow wide : CallGraph}
    (hnarrow : CallGraph.build p small = .ok narrow) (hwide : CallGraph.build q large = .ok wide)
    (root : RoutineId) : (narrow.reach p counts root).Within (wide.reach q counts' root) := by
  have hsmall := Reach.summed_ofWalk counts (narrow.walk p root)
  have hlarge := Reach.summed_ofWalk counts' (wide.walk q root)
  apply hsmall.within hlarge hcounts
  intro f hf
  exact h.mem_reach (CallGraph.resolves_of_build hnarrow) (CallGraph.resolves_of_build hwide) hf

/-- Whatever the strategy, success carries over to the smaller side, which covers no more from any
root and counts no more. -/
theorem reachability (h : p.Embeds q small large) {counts counts' : LocalCounts}
    (hcounts : ∀ id, counts.get id ≤ counts'.get id) {strategy : Strategy}
    {wide : RoutineId → Reach}
    (hwide : Analysis.reachability q counts' large strategy = .ok wide) :
    ∃ narrow, Analysis.reachability p counts small strategy = .ok narrow ∧
      ∀ root, (narrow root).Within (wide root) := by
  cases strategy with
  | static =>
    obtain rfl := Except.ok.inj hwide
    refine ⟨p.staticReach counts, rfl, fun root => ?_⟩
    have hsmall := Reach.summed_ofWalk counts (p.staticWalk root)
    have hlarge := Reach.summed_ofWalk counts' (q.staticWalk root)
    exact hsmall.within hlarge hcounts fun f => h.mem_staticReach
  | wholeProgram =>
    obtain ⟨wideGraph, hwideBuild, rfl⟩ := Analysis.reachability_wholeProgram hwide
    obtain ⟨narrowGraph, hnarrowBuild⟩ := h.exists_build hwideBuild
    refine ⟨narrowGraph.reach p counts, ?_, h.reach_within hcounts hnarrowBuild hwideBuild⟩
    rw [Analysis.reachability, hnarrowBuild]
    rfl

end Program.Embeds

end FunctionalSize
