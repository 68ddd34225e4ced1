import FunctionalSize.Analysis
import FunctionalSize.Proofs.LocalCounts
import FunctionalSize.Proofs.Reach
import FunctionalSize.Proofs.Report
import FunctionalSize.Proofs.RuleTable
import Mathlib.Data.List.Forall2

set_option autoImplicit false

namespace FunctionalSize

open Std

def Program.callPairs (p : Program) (routines : ExtTreeSet RoutineId) :
    List (RoutineId × CallSite) :=
  routines.toList.flatMap fun f => (p.callsOf f).map (f, ·)

theorem Reach.Summed.count_movements {p : Program} {classifier : Classifier} {reach : Reach}
    (h : reach.Summed (.compute p classifier)) (c : Category) :
    reach.movements.count c =
      (p.callPairs reach.routines).countP fun pair => classifier.carries c pair.2 := by
  rw [h, Movements.count_sum, List.map_map, Program.callPairs, List.countP_flatMap]
  congr 1
  apply List.map_congr_left
  intro f _
  change ((LocalCounts.compute p classifier).get f).count c = List.countP _ _
  rw [LocalCounts.count_get, List.countP_map]
  rfl

def FunctionalProcess.AtMost (a b : FunctionalProcess) : Prop :=
  a.routines ≤ b.routines ∧ a.movements ≤ b.movements

namespace Analysis

variable {p : Program} {classifier : Classifier} {oracle : Oracle} {settings : Settings}
  {report : Report}

theorem reachability_wholeProgram {counts : LocalCounts} {reach : RoutineId → Reach}
    (h : reachability p counts oracle .wholeProgram = .ok reach) :
    ∃ g, CallGraph.build p oracle = .ok g ∧ reach = g.reach p counts := by
  rw [reachability] at h
  cases hbuild : CallGraph.build p oracle with
  | error e => simp [hbuild, Except.map] at h
  | ok g =>
    rw [hbuild] at h
    exact ⟨g, rfl, (Except.ok.inj h).symm⟩

theorem summed_of_reachability {counts : LocalCounts} {strategy : Strategy}
    {reach : RoutineId → Reach} (h : reachability p counts oracle strategy = .ok reach)
    (id : RoutineId) : (reach id).Summed counts := by
  cases strategy with
  | static =>
    obtain rfl := Except.ok.inj h
    exact Reach.summed_ofWalk counts _
  | wholeProgram =>
    obtain ⟨g, -, rfl⟩ := reachability_wholeProgram h
    exact Reach.summed_ofWalk counts _

def rank (p : Program) (a b : RoutineId) : Ordering :=
  (compare a.qualified b.qualified).then (compare (sourceOf p a) (sourceOf p b))

instance (p : Program) : TransCmp (rank p) :=
  inferInstanceAs (TransCmp (compareLex (compareOn RoutineId.qualified) (compareOn (sourceOf p))))

def rankedEntries (p : Program) (classifier : Classifier) : List RoutineId :=
  (EntrySet.detect p classifier).toList.mergeSort fun a b => (rank p a b).isLE

theorem mem_rankedEntries {id : RoutineId} :
    id ∈ rankedEntries p classifier ↔ p.IsEntry classifier id := by
  rw [rankedEntries, List.mem_mergeSort, EntrySet.mem_detect]

theorem rankedEntries_sorted (p : Program) (classifier : Classifier) :
    (rankedEntries p classifier).Pairwise fun a b => (rank p a b).then (compare a b) = .lt := by
  have htrans : ∀ a b c : RoutineId, (rank p a b).isLE = true → (rank p b c).isLE = true →
      (rank p a c).isLE = true := fun a b c => TransCmp.isLE_trans
  -- the entry set is listed by identity, and the stable sort leaves ties in that order
  have hids : (EntrySet.detect p classifier).toList.Pairwise fun a b => compare a b = .lt :=
    ExtTreeSet.ordered_toList
  refine (pairwise_mergeSort_stable htrans (isLE_total (rank p)) hids).imp ?_
  rintro a b ⟨hle, htie⟩
  rcases Ordering.isLE_iff_eq_lt_or_eq_eq.1 hle with hlt | heq
  · rw [hlt]
    rfl
  · rw [heq]
    exact htie (Ordering.isLE_of_eq_eq (OrientedCmp.eq_symm heq))

theorem runWith_eq_ok (h : runWith p classifier oracle settings = .ok report) :
    ∃ reach, reachability p (.compute p classifier) oracle settings.strategy = .ok reach ∧
      report.processes = (rankedEntries p classifier).map
        (fun entry => process p settings.countTrigger entry (reach entry)) ∧
      report.totals = (report.processes.map FunctionalProcess.movements).sum := by
  rw [runWith] at h
  cases hreach : reachability p (.compute p classifier) oracle settings.strategy with
  | error e => simp [hreach, bind, Except.bind] at h
  | ok reach =>
    simp only [hreach, bind, Except.bind, pure, Except.pure, Except.ok.injEq] at h
    subst h
    refine ⟨reach, rfl, ?_, Report.totals_ofProcesses _⟩
    exact Report.processes_ofProcesses_map (fun a b => rfl) _

theorem runWith_of_reachability {reach : RoutineId → Reach}
    (h : reachability p (.compute p classifier) oracle settings.strategy = .ok reach) :
    runWith p classifier oracle settings =
      .ok (.ofProcesses ((EntrySet.detect p classifier).toList.map fun entry =>
        process p settings.countTrigger entry (reach entry))) := by
  rw [runWith, h]
  rfl

/-- A merge sort does not evaluate, so a run on a given program is evaluated up to the sort, and
its processes are seen to be in order. -/
theorem runWith_of_sorted
    (hprocesses : ((reachability p (.compute p classifier) oracle settings.strategy).map
      fun reach => (EntrySet.detect p classifier).toList.map fun entry =>
        process p settings.countTrigger entry (reach entry)).toOption = some report.processes)
    (hsorted : report.processes.Pairwise fun a b => (a.order b).isLE = true)
    (htotals : report.totals = (report.processes.map FunctionalProcess.movements).sum) :
    runWith p classifier oracle settings = .ok report := by
  cases hreach : reachability p (.compute p classifier) oracle settings.strategy with
  | error e => simp [hreach, Except.map, Except.toOption] at hprocesses
  | ok reach =>
    simp only [hreach, Except.map, Except.toOption, Option.some.injEq] at hprocesses
    rw [runWith_of_reachability hreach, hprocesses, Report.ofProcesses_of_sorted hsorted, ← htotals]

structure Describes (p : Program) (classifier : Classifier) (countTrigger : Bool)
    (entry : RoutineId) (routines : ExtTreeSet RoutineId) (q : FunctionalProcess) : Prop where
  name : q.name = entry.package ++ "." ++ entry.name
  source : ∀ r, p.get? entry = some r → r.source ≠ "" → q.source = r.source
  unknown_source : (∀ r, p.get? entry = some r → r.source = "") →
    q.source = entry.package ++ "." ++ entry.name
  size : q.routines = routines.toList.length
  entries : q.movements.entries =
    ((p.callPairs routines).countP fun pair => classifier.carries .registration pair.2)
      + if countTrigger then 1 else 0
  exits : q.movements.exits =
    (p.callPairs routines).countP fun pair => classifier.carries .exit pair.2
  reads : q.movements.reads =
    (p.callPairs routines).countP fun pair => classifier.carries .read pair.2
  writes : q.movements.writes =
    (p.callPairs routines).countP fun pair => classifier.carries .write pair.2

theorem source_process (p : Program) (countTrigger : Bool) (entry : RoutineId) (reach : Reach) :
    (∀ r, p.get? entry = some r → r.source ≠ "" →
      (process p countTrigger entry reach).source = r.source) ∧
    ((∀ r, p.get? entry = some r → r.source = "") →
      (process p countTrigger entry reach).source = entry.qualified) := by
  change (∀ r, p.get? entry = some r → r.source ≠ "" → sourceOf p entry = r.source) ∧
    ((∀ r, p.get? entry = some r → r.source = "") → sourceOf p entry = entry.qualified)
  unfold sourceOf
  cases hget : p.get? entry with
  | none => simp
  | some r => simp +contextual [String.isEmpty_iff]

theorem movements_process (p : Program) (countTrigger : Bool) (entry : RoutineId)
    (reach : Reach) :
    (process p countTrigger entry reach).movements =
      reach.movements + if countTrigger then { entries := 1 } else 0 := by
  cases countTrigger with
  | false => exact (add_zero _).symm
  | true => rfl

theorem process_atMost {small large : Reach} (h : small.Within large) (p q : Program)
    (countTrigger : Bool) (entry entry' : RoutineId) :
    (process p countTrigger entry small).AtMost (process q countTrigger entry' large) := by
  refine ⟨h.size, ?_⟩
  rw [movements_process, movements_process]
  exact add_le_add_left h.movements _

theorem describes_process {reach : Reach} (h : reach.Summed (.compute p classifier))
    (countTrigger : Bool) (entry : RoutineId) :
    Describes p classifier countTrigger entry reach.routines
      (process p countTrigger entry reach) := by
  have hcount : ∀ c, (process p countTrigger entry reach).movements.count c =
      ((p.callPairs reach.routines).countP fun pair => classifier.carries c pair.2)
        + (if countTrigger then { entries := 1 } else 0 : Movements).count c := by
    intro c
    rw [movements_process, Movements.count_add, h.count_movements]
  obtain ⟨hsource, hunknown⟩ := source_process p countTrigger entry reach
  refine ⟨rfl, hsource, hunknown, ExtTreeSet.length_toList.symm, ?_, ?_, ?_, ?_⟩
  · refine (hcount .registration).trans ?_
    cases countTrigger <;> rfl
  · refine (hcount .exit).trans ?_
    cases countTrigger <;> rfl
  · refine (hcount .read).trans ?_
    cases countTrigger <;> rfl
  · refine (hcount .write).trans ?_
    cases countTrigger <;> rfl

/-- What a report says about a program, for a resolver that gives `reach` and with the entries in
the order of the processes. -/
structure Meaning (p : Program) (classifier : Classifier) (countTrigger : Bool)
    (reach : RoutineId → Reach) (entries : List RoutineId) (report : Report) : Prop where
  entries_iff : ∀ id, id ∈ entries ↔ p.IsEntry classifier id
  entries_once : entries.Nodup
  processes : List.Forall₂ (fun entry q =>
    Describes p classifier countTrigger entry (reach entry).routines q) entries report.processes
  routines_once : ∀ entry, (reach entry).routines.toList.Nodup
  sorted : (entries.zip report.processes).Pairwise fun a b =>
    (compare a.2.name b.2.name).then
      ((compare a.2.source b.2.source).then (compare a.1 b.1)) = .lt
  totals : ∀ c, report.totals.count c = (report.processes.map (·.movements.count c)).sum

/-- A run that succeeds reports exactly the entries, one process for each, sorted by name, then by
source, then by identity. The process of an entry describes the set that the chosen resolver
reaches from it, in which no routine occurs twice, and the totals are the sums over the
processes. -/
theorem runWith_meaning (h : runWith p classifier oracle settings = .ok report) :
    ∃ reach entries,
      reachability p (.compute p classifier) oracle settings.strategy = .ok reach ∧
      Meaning p classifier settings.countTrigger reach entries report := by
  obtain ⟨reach, hreach, hprocesses, htotals⟩ := runWith_eq_ok h
  have hsorted := rankedEntries_sorted p classifier
  refine ⟨reach, rankedEntries p classifier, hreach, fun id => mem_rankedEntries, ?_, ?_,
    fun entry => nodup_toList _, ?_, ?_⟩
  · refine hsorted.imp ?_
    rintro a b hlt rfl
    simp [ReflCmp.compare_self] at hlt
  · rw [hprocesses, List.forall₂_map_right_iff, List.forall₂_same]
    intro entry _
    exact describes_process (summed_of_reachability hreach entry) settings.countTrigger entry
  · have hzip : (rankedEntries p classifier).zip report.processes =
        (rankedEntries p classifier).map fun entry =>
          (entry, process p settings.countTrigger entry (reach entry)) := by
      rw [hprocesses, ← List.zip_map', List.map_id']
    rw [hzip, List.pairwise_map]
    refine hsorted.imp ?_
    intro a b hlt
    rw [rank, Ordering.then_assoc] at hlt
    exact hlt
  · intro c
    rw [htotals, Movements.count_sum, List.map_map]
    rfl

/-- A server with two handlers that call each other's helpers in a cycle, a dynamic call, and an
unreachable routine that registers a handler without a definition and makes a call that cannot be
resolved. -/
def server : Program :=
  [{ id := ⟨"main", "main"⟩, source := "main.go:1", isMain := true, calls := [
       { callee := some ⟨"net/http", "HandleFunc"⟩, args := [.other, .routine ⟨"main", "list"⟩] },
       { callee := some ⟨"net/http", "HandleFunc"⟩,
         args := [.other, .closure ⟨"main", "save"⟩ ["db"]] },
       { pointsTo := some [⟨"main", "audit"⟩, ⟨"log/slog", "Info"⟩] },
       { callee := some ⟨"log", "Fatal"⟩ }] },
   { id := ⟨"main", "list"⟩, source := "main.go:9", calls := [
       { callee := some ⟨"database/sql", "(*DB).Query"⟩ },
       { callee := some ⟨"main", "list"⟩ }] },
   { id := ⟨"main", "save"⟩, calls := [
       { callee := some ⟨"main", "list"⟩ },
       { callee := some ⟨"main", "audit"⟩ },
       { callee := some ⟨"database/sql", "(*DB).Exec"⟩ }] },
   { id := ⟨"main", "audit"⟩, calls := [
       { callee := some ⟨"os", "WriteFile"⟩ },
       { callee := some ⟨"main", "save"⟩ }] },
   { id := ⟨"main", "unused"⟩, calls := [
       { callee := some ⟨"net/http", "Handle"⟩, args := [.routine ⟨"ext", "gone"⟩] },
       { pointsTo := some [⟨"main", "missing"⟩] }] }].foldl Program.insertNew .empty

def serverReport : Strategy → Report
  | .static =>
    ⟨⟨6, 1, 2, 3⟩,
      [⟨"ext.gone", "ext.gone", ⟨1, 0, 0, 0⟩, 0⟩,
       ⟨"main.list", "main.go:9", ⟨1, 0, 1, 0⟩, 1⟩,
       ⟨"main.main", "main.go:1", ⟨3, 1, 0, 1⟩, 1⟩,
       ⟨"main.save", "main.save", ⟨1, 0, 1, 2⟩, 3⟩]⟩
  | .wholeProgram =>
    ⟨⟨6, 1, 3, 5⟩,
      [⟨"ext.gone", "ext.gone", ⟨1, 0, 0, 0⟩, 0⟩,
       ⟨"main.list", "main.go:9", ⟨1, 0, 1, 0⟩, 1⟩,
       ⟨"main.main", "main.go:1", ⟨3, 1, 1, 3⟩, 4⟩,
       ⟨"main.save", "main.save", ⟨1, 0, 1, 2⟩, 3⟩]⟩

theorem runWith_server (strategy : Strategy) :
    runWith server .builtIn .recorded { strategy := strategy } = .ok (serverReport strategy) := by
  rw [Classifier.builtIn_eq]
  apply runWith_of_sorted
  · cases strategy <;> decide +kernel
  · cases strategy <;> decide +kernel
  · cases strategy <;> rfl

theorem runWith_meaning_server :
    runWith server .builtIn .recorded { strategy := .wholeProgram }
      = .ok (serverReport .wholeProgram) ∧
    ∃ reach entries,
      reachability server (.compute server .builtIn) .recorded .wholeProgram = .ok reach ∧
      Meaning server .builtIn true reach entries (serverReport .wholeProgram) :=
  ⟨runWith_server .wholeProgram, runWith_meaning (runWith_server .wholeProgram)⟩

end Analysis

end FunctionalSize
