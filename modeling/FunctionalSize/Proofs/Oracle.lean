import FunctionalSize.Oracle
import FunctionalSize.Proofs.LocalCounts

set_option autoImplicit false

namespace FunctionalSize

open Std

def Program.Admits (p : Program) (target : RoutineId) : Prop :=
  p.contains target = true ∨ p.definesPackage target.package = false

theorem recordedTargets_eq_ok {p : Program} (caller : RoutineId) {targets : List RoutineId}
    (h : ∀ target ∈ targets, p.Admits target) :
    recordedTargets p caller targets = .ok (targets.filter p.contains) := by
  induction targets with
  | nil => rfl
  | cons target rest ih =>
    have hrest := ih fun other hother => h other (List.mem_cons_of_mem _ hother)
    rw [recordedTargets, hrest]
    by_cases hdefined : p.contains target = true
    · rw [if_pos hdefined, List.filter_cons_of_pos hdefined]
      rfl
    · have hlibrary := (h target List.mem_cons_self).resolve_left hdefined
      rw [if_neg hdefined, hlibrary, List.filter_cons_of_neg hdefined]
      rfl

theorem recordedTargets_eq_error {p : Program} (caller : RoutineId) {target : RoutineId}
    {targets : List RoutineId} (hmem : target ∈ targets) (h : ¬ p.Admits target) :
    ∃ e, recordedTargets p caller targets = .error e := by
  induction targets with
  | nil => simp at hmem
  | cons first rest ih =>
    rw [recordedTargets]
    rcases List.mem_cons.1 hmem with rfl | hrest
    · rw [Program.Admits, not_or, Bool.not_eq_false] at h
      exact ⟨_, by rw [if_neg h.1, if_pos h.2]⟩
    · obtain ⟨e, he⟩ := ih hrest
      rw [he]
      split
      · exact ⟨e, rfl⟩
      · split
        · exact ⟨_, rfl⟩
        · exact ⟨e, rfl⟩

theorem recordedTargets_eq_ok_iff {p : Program} {caller : RoutineId}
    {targets found : List RoutineId} :
    recordedTargets p caller targets = .ok found ↔
      (∀ target ∈ targets, p.Admits target) ∧ found = targets.filter p.contains := by
  constructor
  · intro h
    have hadmits : ∀ target ∈ targets, p.Admits target := by
      intro target hmem
      by_cases hadmits : p.Admits target
      · exact hadmits
      · obtain ⟨e, he⟩ := recordedTargets_eq_error caller hmem hadmits
        simp [h] at he
    exact ⟨hadmits, Except.ok.inj (h.symm.trans (recordedTargets_eq_ok caller hadmits))⟩
  · rintro ⟨hadmits, rfl⟩
    exact recordedTargets_eq_ok caller hadmits

theorem Program.not_admits_iff {p : Program} {target : RoutineId} :
    ¬ p.Admits target ↔ p.contains target = false ∧ p.definesPackage target.package = true := by
  rw [Admits, not_or, Bool.not_eq_true, Bool.not_eq_false]

theorem exists_recordedTargets_eq_error {p : Program} {caller : RoutineId}
    {targets : List RoutineId} :
    (∃ e, recordedTargets p caller targets = .error e) ↔ ∃ target ∈ targets, ¬ p.Admits target := by
  constructor
  · rintro ⟨e, he⟩
    by_cases hall : ∀ target ∈ targets, p.Admits target
    · simp [recordedTargets_eq_ok caller hall] at he
    · simpa using hall
  · rintro ⟨target, hmem, hadmits⟩
    exact recordedTargets_eq_error caller hmem hadmits

/-- What a call may reach when no callee is recorded: methods of the invoked name, or routines
that some call passes as an argument. -/
def Program.IsCandidate (p : Program) (method : Option String) (id : RoutineId) : Prop :=
  p.contains id = true ∧
    match method with
    | some name => id.isMethod = true ∧ id.bareName = name
    | none => ∃ r ∈ p.routines, ∃ site ∈ r.calls, id ∈ site.callables

namespace AddressTaken

variable {p : Program} {tables : AddressTaken} {id : RoutineId}

theorem mem_foldl_insert {ids : List RoutineId} {s : ExtTreeSet RoutineId} :
    id ∈ ids.foldl ExtTreeSet.insert s ↔ id ∈ s ∨ id ∈ ids := by
  induction ids generalizing s with
  | nil => simp
  | cons id' ids ih =>
    rw [List.foldl_cons, ih, ExtTreeSet.mem_insert, LawfulEqOrd.compare_eq_iff_eq, List.mem_cons]
    grind

theorem mem_taken_addRoutine {r : Routine} :
    id ∈ (tables.addRoutine p r).taken ↔ id ∈ tables.taken ∨
      p.contains id = true ∧ ∃ site ∈ r.calls, id ∈ site.callables := by
  rw [addRoutine, mem_foldl_insert, List.mem_filter, List.mem_flatMap, and_comm]

theorem mem_methods_addRoutine {r : Routine} {name : String} :
    id ∈ (tables.addRoutine p r).methods.getD name ∅ ↔ id ∈ tables.methods.getD name ∅ ∨
      r.id = id ∧ id.isMethod = true ∧ id.bareName = name := by
  rw [addRoutine]
  cases hmethod : r.id.isMethod with
  | false =>
    have hother : ¬ (r.id = id ∧ id.isMethod = true ∧ id.bareName = name) := by
      rintro ⟨rfl, hmethod', -⟩
      simp [hmethod] at hmethod'
    simp [hother]
  | true =>
    simp only [if_true, ExtTreeMap.getD_insert, LawfulEqOrd.compare_eq_iff_eq]
    by_cases hname : r.id.bareName = name
    · subst hname
      rw [if_pos rfl, ExtTreeSet.mem_insert, LawfulEqOrd.compare_eq_iff_eq]
      constructor
      · rintro (rfl | hold)
        · exact Or.inr ⟨rfl, hmethod, rfl⟩
        · exact Or.inl hold
      · rintro (hold | ⟨rfl, -⟩)
        · exact Or.inr hold
        · exact Or.inl rfl
    · have hother : ¬ (r.id = id ∧ id.isMethod = true ∧ id.bareName = name) := by
        rintro ⟨rfl, -, hname'⟩
        exact hname hname'
      simp [hname, hother]

theorem mem_taken_foldl {routines : List Routine} :
    id ∈ (routines.foldl (addRoutine p) tables).taken ↔ id ∈ tables.taken ∨
      p.contains id = true ∧ ∃ r ∈ routines, ∃ site ∈ r.calls, id ∈ site.callables := by
  induction routines generalizing tables with
  | nil => simp
  | cons r routines ih =>
    rw [List.foldl_cons, ih, mem_taken_addRoutine]
    simp only [List.mem_cons, exists_eq_or_imp]
    grind

theorem mem_methods_foldl {routines : List Routine} {name : String} :
    id ∈ (routines.foldl (addRoutine p) tables).methods.getD name ∅ ↔
      id ∈ tables.methods.getD name ∅ ∨
        id ∈ routines.map Routine.id ∧ id.isMethod = true ∧ id.bareName = name := by
  induction routines generalizing tables with
  | nil => simp
  | cons r routines ih =>
    rw [List.foldl_cons, ih, mem_methods_addRoutine, List.map_cons, List.mem_cons]
    grind

theorem mem_candidates {site : CallSite} :
    id ∈ (analyze p).candidates site ↔ p.IsCandidate site.method id := by
  unfold candidates Program.IsCandidate analyze
  cases site.method with
  | some name =>
    have hempty : id ∉ empty.methods.getD name ∅ := by simp [empty]
    rw [ExtTreeSet.mem_toList, mem_methods_foldl, or_iff_right hempty, Program.contains_iff]
    rfl
  | none =>
    have hempty : id ∉ empty.taken := ExtTreeSet.not_mem_empty
    rw [ExtTreeSet.mem_toList, mem_taken_foldl, or_iff_right hempty]

theorem ordered_candidates (tables : AddressTaken) (site : CallSite) :
    (tables.candidates site).Pairwise fun a b => compare a b = .lt := by
  unfold candidates
  cases site.method with
  | some name => exact ExtTreeSet.ordered_toList
  | none => exact ExtTreeSet.ordered_toList

end AddressTaken

namespace OracleKind

variable (kind : OracleKind) (p : Program) (caller : RoutineId) {site : CallSite}

theorem feasible_recorded {targets : List RoutineId} (h : site.pointsTo = some targets) :
    (kind.toOracle p).feasible p caller site = recordedTargets p caller targets := by
  cases kind with
  | recorded => simp [toOracle, Oracle.recorded, h]
  | addressTaken => simp [toOracle, Oracle.addressTaken, h]

theorem feasible_unrecorded (h : site.pointsTo = none) :
    ∃ found, (kind.toOracle p).feasible p caller site = .ok found ∧
      ∀ id, id ∈ found ↔ kind = .addressTaken ∧ p.IsCandidate site.method id := by
  cases kind with
  | recorded => exact ⟨[], by simp [toOracle, Oracle.recorded, h], by simp⟩
  | addressTaken =>
    refine ⟨(AddressTaken.analyze p).candidates site, ?_, ?_⟩
    · simp [toOracle, Oracle.addressTaken, h]
    · intro id
      rw [AddressTaken.mem_candidates, and_iff_right rfl]

theorem contains_of_feasible {found : List RoutineId}
    (h : (kind.toOracle p).feasible p caller site = .ok found) {id : RoutineId} (hid : id ∈ found) :
    p.contains id = true := by
  cases hrecorded : site.pointsTo with
  | some targets =>
    rw [feasible_recorded kind p caller hrecorded, recordedTargets_eq_ok_iff] at h
    rw [h.2, List.mem_filter] at hid
    exact hid.2
  | none =>
    obtain ⟨found', hfound', hmem⟩ := feasible_unrecorded kind p caller hrecorded
    obtain rfl : found = found' := Except.ok.inj (h.symm.trans hfound')
    exact ((hmem id).1 hid).2.1

end OracleKind

namespace Oracle

/-- Recorded callees are refused exactly when one is missing from a package of the program, and
otherwise the defined ones are the answer in the order in which they were recorded. Without recorded
callees the recorded oracle knows none. The address-taken oracle then gives, in strict order, the
methods of the invoked name, or the routines that some call of the program passes on. -/
theorem feasible_exact (p : Program) (caller : RoutineId) (site : CallSite) :
    (∀ tables, ∀ oracle ∈ [recorded, addressTaken tables], ∀ targets,
      site.pointsTo = some targets →
        ((∃ e, oracle.feasible p caller site = .error e) ↔ ∃ target ∈ targets,
          p.contains target = false ∧ p.definesPackage target.package = true) ∧
        ((∀ target ∈ targets, p.contains target = true ∨
            p.definesPackage target.package = false) →
          oracle.feasible p caller site = .ok (targets.filter p.contains))) ∧
    (site.pointsTo = none →
      recorded.feasible p caller site = .ok [] ∧
      ∃ found, (addressTaken (.analyze p)).feasible p caller site = .ok found ∧
        (found.Pairwise fun a b => compare a b = .lt) ∧
        (∀ method, site.method = some method → ∀ id, id ∈ found ↔
          p.contains id = true ∧ (∃ receiver, id.receiver? = some receiver) ∧
            id.bareName = method) ∧
        (site.method = none → ∀ id, id ∈ found ↔
          p.contains id = true ∧ ∃ r ∈ p.routines, ∃ call ∈ r.calls,
            .routine id ∈ call.args ∨ ∃ captures, .closure id captures ∈ call.args)) ∧
    (∀ (kind : OracleKind) found, (kind.toOracle p).feasible p caller site = .ok found →
      ∀ id ∈ found, p.contains id = true) := by
  refine ⟨?_, ?_, fun kind found h id => kind.contains_of_feasible p caller h⟩
  · intro tables oracle horacle targets htargets
    have hfeasible : oracle.feasible p caller site = recordedTargets p caller targets := by
      rw [List.mem_cons, List.mem_singleton] at horacle
      rcases horacle with rfl | rfl
      · simp [recorded, htargets]
      · simp [addressTaken, htargets]
    rw [hfeasible]
    constructor
    · simp only [exists_recordedTargets_eq_error, Program.not_admits_iff]
    · exact recordedTargets_eq_ok caller
  · intro hnone
    refine ⟨by simp [recorded, hnone], (AddressTaken.analyze p).candidates site, ?_,
      AddressTaken.ordered_candidates _ site, ?_, ?_⟩
    · simp [addressTaken, hnone]
    · intro method hmethod id
      rw [AddressTaken.mem_candidates, hmethod, ← Option.isSome_iff_exists]
      exact Iff.rfl
    · intro hmethod id
      rw [AddressTaken.mem_candidates, hmethod]
      simp only [← CallSite.mem_callables]
      exact Iff.rfl

def operator : Routine where
  id := ⟨"app", "main"⟩
  calls := [
    { callee := some ⟨"app", "register"⟩,
      args := [.routine ⟨"app", "h1"⟩, .routine ⟨"strings", "ToUpper"⟩] },
    { args := [.other, .closure ⟨"app", "main$1"⟩ ["cfg"]] }]

def switchboard : Program :=
  [operator, { id := ⟨"app", "main$1"⟩ }, { id := ⟨"app", "h1"⟩ }, { id := ⟨"app", "register"⟩ },
   { id := ⟨"app", "(*File).Write"⟩ }, { id := ⟨"app", "(*Buffer).Write"⟩ },
   { id := ⟨"app", "Write"⟩ }].foldl Program.insertNew .empty

theorem feasible_exact_switchboard :
    (∃ e, recorded.feasible switchboard ⟨"app", "main"⟩
      { pointsTo := some [⟨"strings", "ToUpper"⟩, ⟨"app", "ghost"⟩, ⟨"app", "h1"⟩] } = .error e) ∧
    recorded.feasible switchboard ⟨"app", "main"⟩
      { pointsTo := some [⟨"strings", "ToUpper"⟩, ⟨"app", "h1"⟩] }
        = .ok ([⟨"strings", "ToUpper"⟩, ⟨"app", "h1"⟩].filter switchboard.contains) ∧
    (∃ found, (addressTaken (.analyze switchboard)).feasible switchboard ⟨"app", "main"⟩
        { method := some "Write" } = .ok found ∧
      ⟨"app", "(*File).Write"⟩ ∈ found ∧ ⟨"app", "Write"⟩ ∉ found) ∧
    (∃ found, (addressTaken (.analyze switchboard)).feasible switchboard ⟨"app", "main"⟩ {}
        = .ok found ∧
      ⟨"app", "main$1"⟩ ∈ found ∧ ⟨"strings", "ToUpper"⟩ ∉ found) := by
  refine ⟨?_, ?_, ?_, ?_⟩
  · obtain ⟨hfails, -⟩ := (feasible_exact switchboard ⟨"app", "main"⟩
      { pointsTo := some [⟨"strings", "ToUpper"⟩, ⟨"app", "ghost"⟩, ⟨"app", "h1"⟩] }).1
        .empty recorded (by simp) _ rfl
    exact hfails.2 ⟨⟨"app", "ghost"⟩, by simp, by decide +kernel, by decide +kernel⟩
  · obtain ⟨-, hanswers⟩ := (feasible_exact switchboard ⟨"app", "main"⟩
      { pointsTo := some [⟨"strings", "ToUpper"⟩, ⟨"app", "h1"⟩] }).1
        .empty recorded (by simp) _ rfl
    exact hanswers (by decide +kernel)
  · obtain ⟨-, found, hfound, -, hmethods, -⟩ :=
      (feasible_exact switchboard ⟨"app", "main"⟩ { method := some "Write" }).2.1 rfl
    refine ⟨found, hfound, ?_, ?_⟩
    · rw [hmethods "Write" rfl]
      exact ⟨by decide +kernel, ⟨"*File", by decide +kernel⟩, by decide +kernel⟩
    · rw [hmethods "Write" rfl]
      rintro ⟨-, ⟨receiver, hreceiver⟩, -⟩
      have hplain : RoutineId.receiver? ⟨"app", "Write"⟩ = none := by decide +kernel
      simp [hplain] at hreceiver
  · obtain ⟨-, found, hfound, -, -, hvalues⟩ :=
      (feasible_exact switchboard ⟨"app", "main"⟩ {}).2.1 rfl
    refine ⟨found, hfound, ?_, ?_⟩
    · rw [hvalues rfl]
      have hoperator : operator ∈ switchboard.routines := by decide +kernel
      refine ⟨by decide +kernel, operator, hoperator, _, .tail _ (.head _), Or.inr ?_⟩
      exact ⟨["cfg"], by simp⟩
    · rw [hvalues rfl]
      rintro ⟨hdefined, -⟩
      have hlibrary : switchboard.contains ⟨"strings", "ToUpper"⟩ = false := by decide +kernel
      simp [hlibrary] at hdefined

end Oracle

end FunctionalSize
