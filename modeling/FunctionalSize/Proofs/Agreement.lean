import FunctionalSize.Proofs.Strategies

set_option autoImplicit false

namespace FunctionalSize

open Std

theorem Reach.Summed.eq_of_mem_iff {counts : LocalCounts} {a b : Reach} (ha : a.Summed counts)
    (hb : b.Summed counts) (h : ∀ f, f ∈ a.routines ↔ f ∈ b.routines) : a = b := by
  have hab := ha.within hb (fun _ => le_rfl) fun f => (h f).1
  have hba := hb.within ha (fun _ => le_rfl) fun f => (h f).2
  exact hab.antisymm hba

namespace Program

variable {p : Program} {oracle : Oracle} {root u v f : RoutineId}

def NamedRegion (p : Program) (u : RoutineId) : Prop :=
  ∃ r ∈ p.routines, r.isMain = true ∧ ∃ path, p.IsCallPath r.id u path

theorem NamedRegion.call (hu : p.NamedRegion u) (hcall : p.Calls u v)
    (hv : p.contains v = true) : p.NamedRegion v := by
  obtain ⟨r, hr, hmain, path, hpath⟩ := hu
  exact ⟨r, hr, hmain, path ++ [v], hpath.concat hcall hv⟩

/-- The oracle answers every dynamic call of the named region, and with no defined routine. -/
def NothingToResolve (p : Program) (oracle : Oracle) : Prop :=
  ∀ u, p.NamedRegion u → ∀ r, p.get? u = some r → ∀ site ∈ r.calls, site.callee = none →
    ∃ targets, oracle.feasible p u site = .ok targets ∧ ∀ id ∈ targets, p.contains id = false

namespace NothingToResolve

theorem calls (h : p.NothingToResolve oracle) (hu : p.NamedRegion u)
    (hv : p.contains v = true) (hcall : p.MayCall oracle u v) : p.Calls u v := by
  obtain ⟨r, hget, site, hsite, hnamed | ⟨hcallee, targets, htargets, hmem⟩⟩ := hcall
  · exact ⟨r, hget, site, hsite, hnamed⟩
  · -- a dynamic call is answered with library code, and `v` is defined
    obtain ⟨answer, hanswer, hlibrary⟩ := h u hu r hget site hsite hcallee
    obtain rfl : targets = answer := Except.ok.inj (htargets.symm.trans hanswer)
    have hundefined := hlibrary v hmem
    rw [hv] at hundefined
    contradiction

theorem namedRegion (h : p.NothingToResolve oracle) (hu : p.Region oracle u) :
    p.NamedRegion u := by
  induction hu with
  | @main r hr hmain =>
    have hdefined : p.contains r.id = true := contains_iff.2 (List.mem_map_of_mem hr)
    exact ⟨r, hr, hmain, [r.id], isCallPath_singleton hdefined⟩
  | call _ hcall hv ih => exact ih.call (h.calls ih hv hcall) hv

theorem exists_build (h : p.NothingToResolve oracle) :
    ∃ g, CallGraph.build p oracle = .ok g := by
  rcases CallGraph.build_ok_or_error p oracle with ⟨g, hg, -⟩ | ⟨e, -, u, hu, hfails⟩
  · exact ⟨g, hg⟩
  · obtain ⟨r, hget, site, hsite, hcallee, herror⟩ := hfails
    obtain ⟨targets, hanswer, -⟩ := h u (h.namedRegion hu) r hget site hsite hcallee
    rw [hanswer] at herror
    contradiction

theorem reachable_iff (h : p.NothingToResolve oracle) (hroot : p.Region oracle root) :
    (p.resolvedGraph oracle).Reachable root f ↔
      p.staticGraph.Reachable root f ∧ p.contains f = true := by
  constructor
  · intro hreach
    induction hreach with
    | refl => exact ⟨.refl, hroot.contains⟩
    | step hpath hsucc ih =>
      obtain ⟨hf, hmay⟩ := mem_resolvedSuccessors.1 hsucc
      have hcall := h.calls (h.namedRegion (hroot.of_reachable hpath)) hf hmay
      exact ⟨ih.1.step (mem_staticSuccessors.2 hcall), hf⟩
  · rintro ⟨hreach, hf⟩
    exact resolvedGraph_reachable hreach hf

theorem reach_eq (h : p.NothingToResolve oracle) {g : CallGraph} (hg : g.Resolves p oracle)
    (counts : LocalCounts) (root : RoutineId) :
    g.reach p counts root = p.staticReach counts root := by
  by_cases hroot : p.Region oracle root
  · have hgraph := Reach.summed_ofWalk counts (g.walk p root)
    have hstatic := Reach.summed_ofWalk counts (p.staticWalk root)
    apply hgraph.eq_of_mem_iff hstatic
    intro f
    exact (hg.mem_reach_of_region hroot).trans
      ((h.reachable_iff hroot).trans mem_staticReach.symm)
  · exact hg.reach_of_not_region hroot

end NothingToResolve

end Program

namespace Analysis

/-- With nothing to resolve the whole-program strategy succeeds and gives the static report. -/
theorem strategies_agree {p : Program} {oracle : Oracle} (h : p.NothingToResolve oracle)
    (classifier : Classifier) (settings : Settings) :
    ∃ report,
      runWith p classifier oracle { settings with strategy := .wholeProgram } = .ok report ∧
      runWith p classifier oracle { settings with strategy := .static } = .ok report := by
  obtain ⟨g, hbuild⟩ := h.exists_build
  have hreach : g.reach p (.compute p classifier) = p.staticReach (.compute p classifier) := by
    funext root
    exact h.reach_eq (CallGraph.resolves_of_build hbuild) _ root
  have hwhole : reachability p (.compute p classifier) oracle .wholeProgram
      = .ok (p.staticReach (.compute p classifier)) := by
    rw [reachability, hbuild, ← hreach]
    rfl
  have hstatic : reachability p (.compute p classifier) oracle .static
      = .ok (p.staticReach (.compute p classifier)) := rfl
  exact ⟨_, runWith_of_reachability hwhole, runWith_of_reachability hstatic⟩

/-- A service whose dynamic calls end in library code, with a cycle and a repeated call. The job is
a handler that nothing calls by name, and its own dynamic call cannot be resolved. -/
def gateway : Program :=
  [{ id := ⟨"main", "main"⟩, source := "main.go:5", isMain := true, calls := [
       { callee := some ⟨"net/http", "HandleFunc"⟩, args := [.other, .routine ⟨"ext", "gone"⟩] },
       { callee := some ⟨"net/http", "HandleFunc"⟩,
         args := [.other, .closure ⟨"main", "job"⟩ ["cfg"]] },
       { callee := some ⟨"main", "list"⟩ },
       { callee := some ⟨"main", "list"⟩ },
       { pointsTo := some [⟨"log/slog", "Info"⟩] }] },
   { id := ⟨"main", "list"⟩, calls := [
       { callee := some ⟨"os", "ReadFile"⟩ },
       { method := some "Close" },
       { callee := some ⟨"main", "main"⟩ }] },
   { id := ⟨"main", "job"⟩, calls := [
       { callee := some ⟨"main", "list"⟩ },
       { pointsTo := some [⟨"main", "missing"⟩] }] }].foldl Program.insertNew .empty

def gatewayReport : Report :=
  ⟨⟨7, 0, 2, 0⟩,
    [⟨"ext.gone", "ext.gone", ⟨1, 0, 0, 0⟩, 0⟩,
     ⟨"main.job", "main.job", ⟨3, 0, 1, 0⟩, 3⟩,
     ⟨"main.main", "main.go:5", ⟨3, 0, 1, 0⟩, 2⟩]⟩

theorem gateway_nothingToResolve : gateway.NothingToResolve .recorded := by
  have hanswers : ∀ r ∈ gateway.routines, r.id ≠ ⟨"main", "job"⟩ → ∀ site ∈ r.calls,
      site.callee = none → (Oracle.recorded.feasible gateway r.id site).toOption = some [] := by
    decide +kernel
  have hnamed : ∀ main ∈ gateway.routines, main.isMain = true →
      ⟨"main", "job"⟩ ∉ (gateway.staticReach (.compute gateway .builtIn) main.id).routines := by
    decide +kernel
  rintro u ⟨main, hmem, hmain, path, hpath⟩ r hget site hsite hcallee
  obtain ⟨hr, rfl⟩ := Program.get?_eq_some_iff.1 hget
  have hjob : r.id ≠ ⟨"main", "job"⟩ := by
    intro hid
    apply hnamed main hmem hmain
    rw [← hid, Program.mem_staticReach]
    exact ⟨hpath.reachable, hpath.defined r.id (List.mem_of_getLast? hpath.last)⟩
  have hanswer := hanswers r hr hjob site hsite hcallee
  cases hfeasible : Oracle.recorded.feasible gateway r.id site with
  | error e => simp [hfeasible, Except.toOption] at hanswer
  | ok targets =>
    obtain rfl : targets = [] := by simpa [hfeasible, Except.toOption] using hanswer
    exact ⟨[], rfl, by simp⟩

theorem runWith_gateway :
    runWith gateway .builtIn .recorded { strategy := .static } = .ok gatewayReport := by
  rw [Classifier.builtIn_eq]
  apply runWith_of_sorted
  · decide +kernel
  · decide +kernel
  · rfl

theorem strategies_agree_gateway :
    gateway.NothingToResolve .recorded ∧
    runWith gateway .builtIn .recorded { strategy := .static } = .ok gatewayReport ∧
    runWith gateway .builtIn .recorded { strategy := .wholeProgram } = .ok gatewayReport := by
  obtain ⟨report, hwhole, hstatic⟩ := strategies_agree gateway_nothingToResolve .builtIn {}
  obtain rfl : gatewayReport = report := Except.ok.inj (runWith_gateway.symm.trans hstatic)
  exact ⟨gateway_nothingToResolve, hstatic, hwhole⟩

end Analysis

end FunctionalSize
