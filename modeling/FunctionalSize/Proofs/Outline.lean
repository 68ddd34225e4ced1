import FunctionalSize.Proofs.Analysis
import FunctionalSize.Proofs.Program

set_option autoImplicit false

/-!
# What a static run looks at

The outline of a program has no dynamic calls, and of a named call it keeps the callee and the
arguments without their captures. Every stage of a static run, from the labels to the walk, gives
the same result on a program and on its outline. So programs with one outline have one static
report, whichever oracle is named.
-/

namespace FunctionalSize

open Std

def Argument.outline : Argument → Argument
  | closure id _ => closure id []
  | arg => arg

def CallSite.outline (site : CallSite) : CallSite where
  callee := site.callee
  args := site.args.map Argument.outline

def Routine.outline (r : Routine) : Routine :=
  { r with calls := (r.calls.filter (!·.isDynamic)).map CallSite.outline }

theorem Argument.callable?_outline (arg : Argument) : arg.outline.callable? = arg.callable? := by
  cases arg <;> rfl

namespace CallSite

theorem callables_outline (site : CallSite) : site.outline.callables = site.callables := by
  rw [callables, callables, outline, List.filterMap_map]
  congr 1
  funext arg
  exact arg.callable?_outline

theorem not_isDynamic_of_carries {classifier : Classifier} {c : Category} {site : CallSite}
    (h : classifier.carries c site = true) : (!site.isDynamic) = true := by
  unfold Classifier.carries at h
  unfold isDynamic
  cases hcallee : site.callee with
  | none => simp [hcallee] at h
  | some target => rfl

end CallSite

namespace Routine

variable (r : Routine) (classifier : Classifier)

theorem staticCallees_outline : r.outline.staticCallees = r.staticCallees := by
  rw [staticCallees, staticCallees, outline, List.filterMap_map, List.filterMap_filter]
  congr 1
  funext site
  change (if !site.callee.isNone then site.callee else none) = site.callee
  cases site.callee <;> rfl

theorem movements_outline : r.outline.movements classifier = r.movements classifier := by
  ext c
  rw [count_movements, count_movements, outline, List.countP_map, List.countP_filter]
  -- a dynamic call carries no label, so no count misses it
  apply List.countP_congr
  intro site _
  change (classifier.carries c site && !site.isDynamic) = true ↔ _
  rw [Bool.and_eq_true]
  exact ⟨And.left, fun h => ⟨h, CallSite.not_isDynamic_of_carries h⟩⟩

theorem handlers_outline : r.outline.handlers classifier = r.handlers classifier := by
  have hcalls : r.outline.calls.filter classifier.isRegistration
      = (r.calls.filter classifier.isRegistration).map CallSite.outline := by
    rw [outline, List.filter_map, List.filter_filter]
    congr 1
    apply List.filter_congr
    intro site _
    change (classifier.isRegistration site && !site.isDynamic) = classifier.isRegistration site
    cases hregistration : classifier.isRegistration site with
    | false => rfl
    | true =>
      rw [Classifier.isRegistration, Classifier.contains_label] at hregistration
      exact CallSite.not_isDynamic_of_carries hregistration
  rw [handlers, handlers, hcalls, List.flatMap_map]
  congr 1
  funext site
  exact site.callables_outline

theorem entries_outline : r.outline.entries classifier = r.entries classifier := by
  rw [entries, entries, handlers_outline]
  rfl

end Routine

namespace Program

def outline (p : Program) : Program where
  arena := p.arena.map Routine.outline
  index := p.index
  packages := p.packages
  index_iff id i := by
    rw [p.index_iff, Array.getElem?_map, Option.map_map]
    rfl
  packages_iff m := by
    rw [p.packages_iff]
    simp only [Array.mem_map]
    constructor
    · rintro ⟨r, hr, hm⟩
      exact ⟨r.outline, ⟨r, hr, rfl⟩, hm⟩
    · rintro ⟨_, ⟨r, hr, rfl⟩, hm⟩
      exact ⟨r, hr, hm⟩

variable (p : Program) (classifier : Classifier)

theorem routines_outline : p.outline.routines = p.routines.map Routine.outline :=
  Array.toList_map

theorem ids_outline : p.outline.ids = p.ids := by
  rw [ids, ids, routines_outline, List.map_map]
  rfl

theorem get?_outline (id : RoutineId) : p.outline.get? id = (p.get? id).map Routine.outline := by
  change p.index[id]?.bind (fun i => (p.arena.map Routine.outline)[i]?) = _
  rw [get?, Option.map_bind]
  congr 1
  funext i
  exact Array.getElem?_map

theorem sourceOf_outline (id : RoutineId) :
    Analysis.sourceOf p.outline id = Analysis.sourceOf p id := by
  rw [Analysis.sourceOf, Analysis.sourceOf, get?_outline]
  cases p.get? id <;> rfl

theorem localCounts_outline :
    LocalCounts.compute p.outline classifier = LocalCounts.compute p classifier := by
  rw [LocalCounts.compute, LocalCounts.compute, routines_outline, List.map_map]
  congr 3
  funext r
  exact congrArg (r.id, ·) (r.movements_outline classifier)

theorem detect_outline : EntrySet.detect p.outline classifier = EntrySet.detect p classifier := by
  rw [EntrySet.detect, EntrySet.detect, routines_outline, List.flatMap_map]
  congr 2
  funext r
  exact r.entries_outline classifier

theorem staticGraph_outline : p.outline.staticGraph = p.staticGraph := by
  have hsucc : p.outline.staticSuccessors = p.staticSuccessors := by
    funext id
    rw [staticSuccessors, staticSuccessors, get?_outline]
    cases p.get? id with
    | none => rfl
    | some r => exact r.staticCallees_outline
  unfold staticGraph
  congr 1
  exact p.ids_outline

theorem staticReach_outline (counts : LocalCounts) :
    p.outline.staticReach counts = p.staticReach counts := by
  funext root
  rw [staticReach, staticReach, staticWalk, staticWalk, staticGraph_outline]
  rfl

end Program

namespace Analysis

variable (p : Program) (classifier : Classifier)

theorem process_outline (countTrigger : Bool) (entry : RoutineId) (reach : Reach) :
    process p.outline countTrigger entry reach = process p countTrigger entry reach := by
  rw [process, process, p.sourceOf_outline]

theorem exists_static_report (countTrigger : Bool) :
    ∃ report, ∀ oracle kind,
      runWith p classifier oracle ⟨.static, kind, countTrigger⟩ = .ok report := by
  refine ⟨.ofProcesses ((EntrySet.detect p classifier).toList.map fun entry =>
    process p countTrigger entry (p.staticReach (.compute p classifier) entry)), ?_⟩
  intro oracle kind
  have hreach : reachability p (.compute p classifier) oracle .static
      = .ok (p.staticReach (.compute p classifier)) := rfl
  exact runWith_of_reachability hreach

theorem runWith_outline (oracle : Oracle) (kind : OracleKind) (countTrigger : Bool) :
    runWith p.outline classifier oracle ⟨.static, kind, countTrigger⟩
      = runWith p classifier oracle ⟨.static, kind, countTrigger⟩ := by
  have houtline : reachability p.outline (.compute p.outline classifier) oracle .static
      = .ok (p.staticReach (.compute p classifier)) := by
    rw [reachability, p.staticReach_outline, p.localCounts_outline]
  have hprogram : reachability p (.compute p classifier) oracle .static
      = .ok (p.staticReach (.compute p classifier)) := rfl
  rw [runWith_of_reachability houtline, runWith_of_reachability hprogram, p.detect_outline]
  simp only [process_outline]

/-- Dynamic calls, call kinds, method names, recorded callees and captures do not flow into a static
report: on programs that differ in nothing else, runs with any two oracles succeed alike. -/
theorem static_noninterference {p q : Program} (h : p.outline = q.outline)
    (classifier : Classifier) (oracle oracle' : Oracle) (kind kind' : OracleKind)
    (countTrigger : Bool) :
    ∃ report,
      runWith p classifier oracle ⟨.static, kind, countTrigger⟩ = .ok report ∧
      runWith q classifier oracle' ⟨.static, kind', countTrigger⟩ = .ok report ∧
      run p classifier ⟨.static, kind, countTrigger⟩ = .ok report ∧
      run q classifier ⟨.static, kind', countTrigger⟩ = .ok report := by
  obtain ⟨report, hreport⟩ := exists_static_report p.outline classifier countTrigger
  have hp : ∀ o k, runWith p classifier o ⟨.static, k, countTrigger⟩ = .ok report := by
    intro o k
    rw [← runWith_outline]
    exact hreport o k
  have hq : ∀ o k, runWith q classifier o ⟨.static, k, countTrigger⟩ = .ok report := by
    intro o k
    rw [← runWith_outline, ← h]
    exact hreport o k
  exact ⟨report, hp oracle kind, hq oracle' kind', hp _ kind, hq _ kind'⟩

def rewiredServer : Program :=
  [{ id := ⟨"main", "main"⟩, source := "main.go:1", isMain := true, calls := [
       { kind := .go, callee := some ⟨"net/http", "HandleFunc"⟩,
         args := [.other, .routine ⟨"main", "list"⟩] },
       { method := some "Log", args := [.routine ⟨"main", "unused"⟩] },
       { callee := some ⟨"net/http", "HandleFunc"⟩,
         args := [.other, .closure ⟨"main", "save"⟩ []] },
       { kind := .defer, callee := some ⟨"log", "Fatal"⟩,
         pointsTo := some [⟨"main", "missing"⟩] }] },
   { id := ⟨"main", "list"⟩, source := "main.go:9", calls := [
       { callee := some ⟨"database/sql", "(*DB).Query"⟩, method := some "Query" },
       { callee := some ⟨"main", "list"⟩ },
       { pointsTo := some [⟨"main", "missing"⟩] }] },
   { id := ⟨"main", "save"⟩, calls := [
       { callee := some ⟨"main", "list"⟩ },
       { callee := some ⟨"main", "audit"⟩ },
       { callee := some ⟨"database/sql", "(*DB).Exec"⟩ }] },
   { id := ⟨"main", "audit"⟩, calls := [
       { callee := some ⟨"os", "WriteFile"⟩ },
       { kind := .go, callee := some ⟨"main", "save"⟩ }] },
   { id := ⟨"main", "unused"⟩, calls := [
       { callee := some ⟨"net/http", "Handle"⟩, args := [.routine ⟨"ext", "gone"⟩] }] }].foldl
    Program.insertNew .empty

theorem outline_rewiredServer : server.outline = rewiredServer.outline := by
  apply Program.ext_routines
  decide +kernel

theorem static_noninterference_server :
    server.outline = rewiredServer.outline ∧ server ≠ rewiredServer ∧
    runWith server .builtIn .recorded { strategy := .static } = .ok (serverReport .static) ∧
    run rewiredServer .builtIn { strategy := .static, oracle := .addressTaken }
      = .ok (serverReport .static) := by
  obtain ⟨report, hserver, -, -, hrewired⟩ :=
    static_noninterference outline_rewiredServer .builtIn .recorded .recorded
      .addressTaken .addressTaken true
  obtain rfl : serverReport .static = report :=
    Except.ok.inj ((runWith_server .static).symm.trans hserver)
  refine ⟨outline_rewiredServer, ?_, hserver, hrewired⟩
  intro heq
  have hroutines : server.routines ≠ rewiredServer.routines := by decide +kernel
  exact hroutines (congrArg Program.routines heq)

end Analysis

end FunctionalSize
