import FunctionalSize.Proofs.Oracle
import FunctionalSize.Proofs.OracleOrder
import FunctionalSize.Proofs.Simulation

set_option autoImplicit false

namespace FunctionalSize

open Std

structure CallSite.Rearranged (a b : CallSite) : Prop where
  kind : a.kind = b.kind
  callee : a.callee = b.callee
  method : a.method = b.method
  args : a.args.Perm b.args
  pointsTo : Option.Rel List.Perm a.pointsTo b.pointsTo

namespace CallSite.Rearranged

theorem refl (a : CallSite) : a.Rearranged a where
  kind := rfl
  callee := rfl
  method := rfl
  args := .refl _
  pointsTo := by
    cases a.pointsTo with
    | none => exact .none
    | some targets => exact .some (.refl _)

theorem pointsTo_cases {a b : CallSite} (h : a.Rearranged b) :
    (a.pointsTo = none ∧ b.pointsTo = none) ∨
      ∃ targets targets', a.pointsTo = some targets ∧ b.pointsTo = some targets' ∧
        targets.Perm targets' := by
  have hrel := h.pointsTo
  generalize a.pointsTo = left, b.pointsTo = right at hrel ⊢
  cases hrel with
  | none => exact Or.inl ⟨rfl, rfl⟩
  | some hperm => exact Or.inr ⟨_, _, rfl, rfl, hperm⟩

theorem symm {a b : CallSite} (h : a.Rearranged b) : b.Rearranged a where
  kind := h.kind.symm
  callee := h.callee.symm
  method := h.method.symm
  args := h.args.symm
  pointsTo := by
    rcases h.pointsTo_cases with ⟨hleft, hright⟩ | ⟨_, _, hleft, hright, hperm⟩
    · rw [hleft, hright]
      exact .none
    · rw [hleft, hright]
      exact .some hperm.symm

theorem mem_callables {a b : CallSite} (h : a.Rearranged b) {id : RoutineId} :
    id ∈ a.callables ↔ id ∈ b.callables :=
  (h.args.filterMap Argument.callable?).mem_iff

theorem carries {a b : CallSite} (h : a.Rearranged b) (classifier : Classifier) (c : Category) :
    classifier.carries c a = classifier.carries c b := by
  rw [Classifier.carries, Classifier.carries, h.callee]

end CallSite.Rearranged

structure Routine.PartOf (r r' : Routine) : Prop where
  id : r'.id = r.id
  isMain : r.isMain = true → r'.isMain = true
  calls : ∀ site ∈ r.calls, ∃ site' ∈ r'.calls, site.Rearranged site'
  callees : (r.calls.map CallSite.callee).Subperm (r'.calls.map CallSite.callee)

structure Program.PartOf (p q : Program) : Prop where
  ids : ∀ id, id ∈ p.ids ↔ id ∈ q.ids
  routines : ∀ r ∈ p.routines, ∃ r' ∈ q.routines, r.PartOf r'

theorem Routine.PartOf.movements_le {r r' : Routine} (h : r.PartOf r') (classifier : Classifier) :
    r.movements classifier ≤ r'.movements classifier := by
  intro c
  -- labels depend on the callee alone, and the callees are there with repetitions
  have hcount : ∀ sites : List CallSite, sites.countP (classifier.carries c) =
      (sites.map CallSite.callee).countP fun callee =>
        callee.any fun target => (classifier.table c).accepts target := by
    intro sites
    rw [List.countP_map]
    rfl
  rw [count_movements, count_movements, hcount, hcount]
  exact h.callees.countP_le _

namespace Program.PartOf

variable {p q : Program} {classifier : Classifier} {id : RoutineId}

theorem contains_eq (h : p.PartOf q) (id : RoutineId) : p.contains id = q.contains id := by
  rw [Bool.eq_iff_iff, contains_iff, contains_iff]
  exact h.ids id

theorem definesPackage_eq (h : p.PartOf q) (m : String) :
    p.definesPackage m = q.definesPackage m := by
  have hids : ∀ p : Program, p.definesPackage m = true ↔ ∃ id ∈ p.ids, id.package = m := by
    intro p
    rw [definesPackage_iff, Program.ids]
    simp
  rw [Bool.eq_iff_iff, hids, hids]
  simp only [h.ids]

theorem admits_iff (h : p.PartOf q) : p.Admits id ↔ q.Admits id := by
  rw [Admits, Admits, h.contains_eq, h.definesPackage_eq]

theorem isCandidate (h : p.PartOf q) {method : Option String} (hid : p.IsCandidate method id) :
    q.IsCandidate method id := by
  obtain ⟨hdefined, hcase⟩ := hid
  refine ⟨(h.contains_eq id).symm.trans hdefined, ?_⟩
  cases method with
  | some name => exact hcase
  | none =>
    obtain ⟨r, hr, site, hsite, hcallable⟩ := hcase
    obtain ⟨r', hr', hpart⟩ := h.routines r hr
    obtain ⟨site', hsite', hsame⟩ := hpart.calls site hsite
    exact ⟨r', hr', site', hsite', hsame.mem_callables.1 hcallable⟩

theorem feasible (h : p.PartOf q) (kind : OracleKind) {caller : RoutineId} {site site' : CallSite}
    (hsame : site.Rearranged site') {wide : List RoutineId}
    (hwide : (kind.toOracle q).feasible q caller site' = .ok wide) :
    ∃ narrow, (kind.toOracle p).feasible p caller site = .ok narrow ∧
      ∀ id ∈ narrow, id ∈ wide := by
  rcases hsame.pointsTo_cases with ⟨hnone, hnone'⟩ | ⟨targets, targets', hsome, hsome', hperm⟩
  · obtain ⟨narrow, hnarrow, hmem⟩ := kind.feasible_unrecorded p caller hnone
    obtain ⟨wide', hwide', hmem'⟩ := kind.feasible_unrecorded q caller hnone'
    obtain rfl : wide = wide' := Except.ok.inj (hwide.symm.trans hwide')
    refine ⟨narrow, hnarrow, ?_⟩
    intro id hid
    obtain ⟨hkind, hcandidate⟩ := (hmem id).1 hid
    rw [hsame.method] at hcandidate
    exact (hmem' id).2 ⟨hkind, h.isCandidate hcandidate⟩
  · rw [kind.feasible_recorded q caller hsome'] at hwide
    obtain ⟨hadmits, rfl⟩ := recordedTargets_eq_ok_iff.1 hwide
    have hnarrow := recordedTargets_eq_ok caller fun target htarget =>
      h.admits_iff.2 (hadmits target (hperm.mem_iff.1 htarget))
    refine ⟨_, (kind.feasible_recorded p caller hsome).trans hnarrow, ?_⟩
    intro id hid
    rw [List.mem_filter] at hid ⊢
    exact ⟨hperm.mem_iff.1 hid.1, (h.contains_eq id).symm.trans hid.2⟩

theorem embeds (h : p.PartOf q) (kind : OracleKind) :
    p.Embeds q (kind.toOracle p) (kind.toOracle q) := by
  intro r hr
  obtain ⟨r', hr', hpart⟩ := h.routines r hr
  refine ⟨r', hr', hpart.id, hpart.isMain, ?_⟩
  intro site hsite
  obtain ⟨site', hsite', hsame⟩ := hpart.calls site hsite
  refine ⟨site', hsite', hsame.callee, ?_⟩
  intro _ wide hwide
  obtain ⟨narrow, hnarrow, hsub⟩ := h.feasible kind hsame hwide
  exact ⟨narrow, hnarrow, fun id hid _ => hsub id hid⟩

theorem localCounts_le (h : p.PartOf q) (classifier : Classifier) (id : RoutineId) :
    (LocalCounts.compute p classifier).get id ≤ (LocalCounts.compute q classifier).get id := by
  cases hget : p.get? id with
  | none =>
    rw [LocalCounts.get_of_undefined hget]
    exact Movements.zero_le _
  | some r =>
    obtain ⟨hr, rfl⟩ := get?_eq_some_iff.1 hget
    obtain ⟨r', hr', hpart⟩ := h.routines r hr
    have hget' := get?_eq_some_iff.2 ⟨hr', hpart.id⟩
    rw [LocalCounts.get_of_defined hget, LocalCounts.get_of_defined hget']
    exact hpart.movements_le classifier

theorem isEntry (h : p.PartOf q) (hid : p.IsEntry classifier id) : q.IsEntry classifier id := by
  rcases hid with ⟨r, hr, hmain, rfl⟩ | ⟨r, hr, site, hsite, hcarries, hargs⟩
  · obtain ⟨r', hr', hpart⟩ := h.routines r hr
    exact Or.inl ⟨r', hr', hpart.isMain hmain, hpart.id⟩
  · obtain ⟨r', hr', hpart⟩ := h.routines r hr
    obtain ⟨site', hsite', hsame⟩ := hpart.calls site hsite
    refine Or.inr ⟨r', hr', site', hsite', (hsame.carries classifier _).symm.trans hcarries, ?_⟩
    rw [← CallSite.mem_callables] at hargs ⊢
    exact hsame.mem_callables.1 hargs

theorem reachability (h : p.PartOf q) (classifier : Classifier) {settings : Settings}
    {wide : RoutineId → Reach}
    (hwide : Analysis.reachability q (.compute q classifier) (settings.oracle.toOracle q)
      settings.strategy = .ok wide) :
    ∃ narrow, Analysis.reachability p (.compute p classifier) (settings.oracle.toOracle p)
        settings.strategy = .ok narrow ∧
      ∀ root, (narrow root).Within (wide root) :=
  (h.embeds settings.oracle).reachability (h.localCounts_le classifier) hwide

end Program.PartOf

/-- `q` has the same routines as `p`, at least its main routines, and in each routine further calls
between the calls of `p`. -/
structure Program.Grows (p q : Program) : Prop where
  ids : ∀ id, id ∈ p.ids ↔ id ∈ q.ids
  mains : ∀ r ∈ p.routines, r.isMain = true → ∃ r' ∈ q.routines, r'.id = r.id ∧ r'.isMain = true
  calls : ∀ r ∈ p.routines, ∀ r' ∈ q.routines, r'.id = r.id → r.calls.Sublist r'.calls

theorem Program.Grows.partOf {p q : Program} (h : p.Grows q) : p.PartOf q where
  ids := h.ids
  routines := by
    intro r hr
    have hdefined : r.id ∈ q.ids := (h.ids r.id).1 (List.mem_map_of_mem hr)
    obtain ⟨r', hr', hid⟩ := List.mem_map.1 hdefined
    have hcalls := h.calls r hr r' hr' hid
    refine ⟨r', hr', hid, ?_, ?_, (hcalls.map CallSite.callee).subperm⟩
    · intro hmain
      obtain ⟨r'', hr'', hid', hmain'⟩ := h.mains r hr hmain
      -- an identity has one routine, so the main routine is the one at hand
      have hget := get?_eq_some_iff.2 ⟨hr', hid⟩
      have hget' := get?_eq_some_iff.2 ⟨hr'', hid'⟩
      obtain rfl : r' = r'' := Option.some.inj (hget.symm.trans hget')
      exact hmain'
    · intro site hsite
      exact ⟨site, hcalls.subset hsite, .refl site⟩

namespace Analysis

theorem process_mem_of_isEntry {p : Program} {classifier : Classifier} {oracle : Oracle}
    {settings : Settings} {report : Report} {reach : RoutineId → Reach} {entry : RoutineId}
    (hrun : runWith p classifier oracle settings = .ok report)
    (hreach : reachability p (.compute p classifier) oracle settings.strategy = .ok reach)
    (hentry : p.IsEntry classifier entry) :
    process p settings.countTrigger entry (reach entry) ∈ report.processes := by
  obtain ⟨reach', hreach', hprocesses, -⟩ := runWith_eq_ok hrun
  obtain rfl : reach = reach' := Except.ok.inj (hreach.symm.trans hreach')
  rw [hprocesses]
  exact List.mem_map_of_mem (mem_rankedEntries.2 hentry)

/-- More calls and more main routines never lose anything: when the run on the larger program
succeeds, so does the run on the smaller one, every entry of the smaller program is an entry of the
larger one and reaches at least as much there, and no number of its process is lower. -/
theorem run_of_grows {p q : Program} (h : p.Grows q) (classifier : Classifier)
    (settings : Settings) {large : Report} (hlarge : run q classifier settings = .ok large) :
    ∃ small, run p classifier settings = .ok small ∧
      ∃ narrow wide,
        reachability p (.compute p classifier) (settings.oracle.toOracle p) settings.strategy
          = .ok narrow ∧
        reachability q (.compute q classifier) (settings.oracle.toOracle q) settings.strategy
          = .ok wide ∧
        ∀ entry, p.IsEntry classifier entry →
          q.IsEntry classifier entry ∧
          (narrow entry).Within (wide entry) ∧
          ∃ a ∈ small.processes, ∃ b ∈ large.processes,
            a = process p settings.countTrigger entry (narrow entry) ∧
            b = process q settings.countTrigger entry (wide entry) ∧ a.AtMost b := by
  obtain ⟨wide, hwide, -⟩ := runWith_eq_ok hlarge
  obtain ⟨narrow, hnarrow, hwithin⟩ := h.partOf.reachability classifier hwide
  have hsmall := runWith_of_reachability hnarrow
  refine ⟨_, hsmall, narrow, wide, hnarrow, hwide, ?_⟩
  intro entry hentry
  have hentry' := h.partOf.isEntry hentry
  exact ⟨hentry', hwithin entry, _, process_mem_of_isEntry hsmall hnarrow hentry, _,
    process_mem_of_isEntry hlarge hwide hentry', rfl, rfl,
    process_atMost (hwithin entry) p q settings.countTrigger entry entry⟩

def idleDispatcher : Program :=
  [{ id := ⟨"main", "main"⟩, source := "main.go:3", isMain := true, calls := [
       { callee := some ⟨"net/http", "HandleFunc"⟩,
         args := [.other, .closure ⟨"main", "main$1"⟩ ["cfg"]] }] },
   { id := ⟨"main", "serve"⟩, calls := [{}] },
   { id := ⟨"main", "main$1"⟩, calls := [{ method := some "Load" }] },
   { id := ⟨"main", "(*Store).Load"⟩, calls := [
       { callee := some ⟨"database/sql", "(*DB).Query"⟩ }] }].foldl Program.insertNew .empty

theorem idleDispatcher_grows : idleDispatcher.Grows dispatcher where
  ids := by
    have hids : idleDispatcher.ids = dispatcher.ids := by decide +kernel
    intro id
    rw [hids]
  mains := by decide +kernel
  calls := by decide +kernel

theorem run_of_grows_dispatcher :
    idleDispatcher.Grows dispatcher ∧
    run dispatcher .builtIn { strategy := .wholeProgram, oracle := .addressTaken }
      = .ok dispatcherReport ∧
    ∃ small, run idleDispatcher .builtIn { strategy := .wholeProgram, oracle := .addressTaken }
        = .ok small ∧
      ∃ narrow wide,
        reachability idleDispatcher (.compute idleDispatcher .builtIn)
          (.addressTaken (.analyze idleDispatcher)) .wholeProgram = .ok narrow ∧
        reachability dispatcher (.compute dispatcher .builtIn)
          (.addressTaken (.analyze dispatcher)) .wholeProgram = .ok wide ∧
        ∀ entry, idleDispatcher.IsEntry .builtIn entry →
          dispatcher.IsEntry .builtIn entry ∧
          (narrow entry).Within (wide entry) ∧
          ∃ a ∈ small.processes, ∃ b ∈ dispatcherReport.processes,
            a = process idleDispatcher true entry (narrow entry) ∧
            b = process dispatcher true entry (wide entry) ∧ a.AtMost b :=
  ⟨idleDispatcher_grows, run_dispatcher,
    run_of_grows idleDispatcher_grows .builtIn
      { strategy := .wholeProgram, oracle := .addressTaken } run_dispatcher⟩

end Analysis

end FunctionalSize
