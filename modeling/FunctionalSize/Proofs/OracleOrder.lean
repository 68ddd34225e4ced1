import FunctionalSize.Proofs.Oracle
import FunctionalSize.Proofs.Simulation

set_option autoImplicit false

namespace FunctionalSize

open Std

/-- `small` answers every dynamic call that `large` answers, with no other defined routine. -/
def Oracle.Narrows (p : Program) (small large : Oracle) : Prop :=
  ∀ r ∈ p.routines, ∀ site ∈ r.calls, site.callee = none →
    ∀ wide, large.feasible p r.id site = .ok wide →
      ∃ narrow, small.feasible p r.id site = .ok narrow ∧
        ∀ id ∈ narrow, p.contains id = true → id ∈ wide

theorem Oracle.Narrows.embeds {p : Program} {small large : Oracle} (h : small.Narrows p large) :
    p.Embeds p small large := by
  intro r hr
  refine ⟨r, hr, rfl, id, ?_⟩
  intro site hsite
  exact ⟨site, hsite, rfl, h r hr site hsite⟩

theorem Oracle.recorded_narrows_addressTaken (p : Program) :
    Oracle.recorded.Narrows p (.addressTaken (.analyze p)) := by
  intro r _ site _ _ wide hwide
  cases hrecorded : site.pointsTo with
  | some targets =>
    have hsame := (OracleKind.recorded.feasible_recorded p r.id hrecorded).trans
      (OracleKind.addressTaken.feasible_recorded p r.id hrecorded).symm
    exact ⟨wide, hsame.trans hwide, fun id hid _ => hid⟩
  | none =>
    obtain ⟨found, hfound, hmem⟩ := OracleKind.recorded.feasible_unrecorded p r.id hrecorded
    refine ⟨found, hfound, ?_⟩
    intro id hid
    simp [hmem] at hid

structure Report.AtMost (a b : Report) : Prop where
  keys : a.processes.map (fun q => (q.name, q.source))
    = b.processes.map (fun q => (q.name, q.source))
  processes : List.Forall₂ FunctionalProcess.AtMost a.processes b.processes
  totals : a.totals ≤ b.totals

namespace Analysis

variable {p : Program} {classifier : Classifier} {small large : Oracle} {settings : Settings}

theorem runWith_mono {wide : Report} (h : p.Embeds p small large)
    (hwide : runWith p classifier large settings = .ok wide) :
    ∃ narrow, runWith p classifier small settings = .ok narrow ∧ narrow.AtMost wide := by
  obtain ⟨wideReach, hwideReach, hwideProcesses, hwideTotals⟩ := runWith_eq_ok hwide
  obtain ⟨narrowReach, hnarrowReach, hwithin⟩ := h.reachability (fun _ => le_rfl) hwideReach
  have hnarrow := runWith_of_reachability hnarrowReach
  obtain ⟨reach, hreach, hprocesses, htotals⟩ := runWith_eq_ok hnarrow
  obtain rfl : narrowReach = reach := Except.ok.inj (hnarrowReach.symm.trans hreach)
  refine ⟨_, hnarrow, ?_⟩
  generalize Report.ofProcesses _ = narrow at hprocesses htotals ⊢
  have hatMost : List.Forall₂ FunctionalProcess.AtMost narrow.processes wide.processes := by
    rw [hprocesses, hwideProcesses, List.forall₂_map_left_iff, List.forall₂_map_right_iff,
      List.forall₂_same]
    intro entry _
    exact process_atMost (hwithin entry) p p settings.countTrigger entry entry
  refine ⟨?_, hatMost, ?_⟩
  · rw [hprocesses, hwideProcesses, List.map_map, List.map_map]
    rfl
  · rw [htotals, hwideTotals]
    apply List.Forall₂.sum_le_sum
    rw [List.forall₂_map_left_iff, List.forall₂_map_right_iff]
    exact hatMost.imp fun a b hab => hab.2

/-- With a narrower oracle the call graph can be built if it can be built with the wider one, and
from every root it covers no more and counts no more, also from a root that only the larger graph
holds. The recorded oracle is narrower than the address-taken one, so that a run with the latter
dominates the run with the former. -/
theorem narrower_oracle_reaches_less (p : Program) :
    (∀ small large : Oracle, small.Narrows p large →
      ∀ wide, CallGraph.build p large = .ok wide →
        ∃ narrow, CallGraph.build p small = .ok narrow ∧
          ∀ counts root, (narrow.reach p counts root).Within (wide.reach p counts root)) ∧
    Oracle.recorded.Narrows p (.addressTaken (.analyze p)) ∧
    (∀ (classifier : Classifier) (settings : Settings) (wide : Report),
      run p classifier { settings with oracle := .addressTaken } = .ok wide →
        ∃ narrow, run p classifier { settings with oracle := .recorded } = .ok narrow ∧
          narrow.AtMost wide) := by
  refine ⟨?_, Oracle.recorded_narrows_addressTaken p, ?_⟩
  · intro small large hnarrows wide hwide
    obtain ⟨narrow, hnarrow⟩ := hnarrows.embeds.exists_build hwide
    refine ⟨narrow, hnarrow, ?_⟩
    intro counts root
    exact hnarrows.embeds.reach_within (fun _ => le_rfl) hnarrow hwide root
  · intro classifier settings wide hwide
    exact runWith_mono (Oracle.recorded_narrows_addressTaken p).embeds hwide

/-- The closure is called through a value and calls through an interface, so the recorded oracle
leaves it outside the graph, from where it is walked over named calls. -/
def dispatcher : Program :=
  [{ id := ⟨"main", "main"⟩, source := "main.go:3", isMain := true, calls := [
       { callee := some ⟨"net/http", "HandleFunc"⟩,
         args := [.other, .closure ⟨"main", "main$1"⟩ ["cfg"]] },
       { callee := some ⟨"main", "serve"⟩ }] },
   { id := ⟨"main", "serve"⟩, calls := [{}] },
   { id := ⟨"main", "main$1"⟩, calls := [
       { method := some "Load" },
       { callee := some ⟨"os", "ReadFile"⟩ }] },
   { id := ⟨"main", "(*Store).Load"⟩, calls := [
       { callee := some ⟨"database/sql", "(*DB).Query"⟩ }] }].foldl Program.insertNew .empty

def dispatcherReport : Report :=
  ⟨⟨3, 0, 4, 0⟩,
    [⟨"main.main", "main.go:3", ⟨2, 0, 2, 0⟩, 4⟩,
     ⟨"main.main$1", "main.main$1", ⟨1, 0, 2, 0⟩, 2⟩]⟩

theorem run_dispatcher :
    run dispatcher .builtIn { strategy := .wholeProgram, oracle := .addressTaken }
      = .ok dispatcherReport := by
  rw [Classifier.builtIn_eq]
  apply runWith_of_sorted
  · decide +kernel
  · decide +kernel
  · rfl

theorem narrower_oracle_reaches_less_dispatcher :
    (∃ wide, CallGraph.build dispatcher (.addressTaken (.analyze dispatcher)) = .ok wide ∧
      ∃ narrow, CallGraph.build dispatcher .recorded = .ok narrow ∧
        ∀ counts root,
          (narrow.reach dispatcher counts root).Within (wide.reach dispatcher counts root)) ∧
    run dispatcher .builtIn { strategy := .wholeProgram, oracle := .addressTaken }
      = .ok dispatcherReport ∧
    ∃ narrow, run dispatcher .builtIn { strategy := .wholeProgram, oracle := .recorded }
        = .ok narrow ∧
      narrow.AtMost dispatcherReport := by
  obtain ⟨hless, hnarrows, hruns⟩ := narrower_oracle_reaches_less dispatcher
  obtain ⟨reach, hreach, -⟩ := runWith_eq_ok run_dispatcher
  obtain ⟨wide, hwide, -⟩ := reachability_wholeProgram hreach
  exact ⟨⟨wide, hwide, hless _ _ hnarrows wide hwide⟩, run_dispatcher,
    hruns .builtIn { strategy := .wholeProgram } _ run_dispatcher⟩

end Analysis

end FunctionalSize
