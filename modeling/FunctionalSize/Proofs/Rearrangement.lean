import FunctionalSize.Proofs.Growth
import Mathlib.Data.Multiset.MapFold

set_option autoImplicit false

namespace FunctionalSize

open Std

structure Routine.Rearranged (a b : Routine) : Prop where
  id : a.id = b.id
  source : a.source = b.source
  isMain : a.isMain = b.isMain
  calls : Multiset.Rel CallSite.Rearranged a.calls b.calls

/-- The same routines, up to the order in which they were loaded. -/
def Program.Rearranged (p q : Program) : Prop :=
  Multiset.Rel Routine.Rearranged p.routines q.routines

theorem map_perm_of_rel {α β : Type} {R : α → α → Prop} {f : α → β} {l l' : List α}
    (h : Multiset.Rel R l l') (hf : ∀ a b, R a b → f a = f b) : (l.map f).Perm (l'.map f) := by
  have hrel : Multiset.Rel (fun a b => f a = f b) l l' := h.mono fun a _ b _ => hf a b
  have hmap := Multiset.rel_eq.1 (Multiset.rel_map.2 hrel)
  rwa [Multiset.map_coe, Multiset.map_coe, Multiset.coe_eq_coe] at hmap

theorem rel_symm {α : Type} {R : α → α → Prop} {l l' : List α} (h : Multiset.Rel R l l')
    (hR : ∀ a b, R a b → R b a) : Multiset.Rel R l' l :=
  Multiset.rel_flip.1 (h.mono fun a _ b _ => hR a b)

theorem rel_reverse {α : Type} {R : α → α → Prop} {l l' : List α} (h : List.Forall₂ R l l') :
    Multiset.Rel R l l'.reverse := by
  rw [Multiset.coe_reverse]
  induction h with
  | nil => exact .zero
  | cons hab _ ih => exact .cons hab ih

theorem Routine.Rearranged.symm {a b : Routine} (h : a.Rearranged b) : b.Rearranged a where
  id := h.id.symm
  source := h.source.symm
  isMain := h.isMain.symm
  calls := rel_symm h.calls fun _ _ hsite => hsite.symm

theorem Routine.Rearranged.partOf {a b : Routine} (h : a.Rearranged b) : a.PartOf b where
  id := h.id.symm
  isMain := fun hmain => h.isMain.symm.trans hmain
  calls := fun _ hsite => Multiset.exists_mem_of_rel_of_mem h.calls hsite
  callees := (map_perm_of_rel h.calls fun _ _ hsite => hsite.callee).subperm

namespace Program.Rearranged

variable {p q : Program}

theorem symm (h : p.Rearranged q) : q.Rearranged p :=
  rel_symm h fun _ _ hroutine => hroutine.symm

theorem partOf (h : p.Rearranged q) : p.PartOf q where
  ids := fun id => (map_perm_of_rel h fun _ _ hroutine => hroutine.id).mem_iff
  routines := by
    intro r hr
    obtain ⟨r', hr', hroutine⟩ := Multiset.exists_mem_of_rel_of_mem h hr
    exact ⟨r', hr', hroutine.partOf⟩

theorem sourceOf_eq (h : p.Rearranged q) (entry : RoutineId) :
    Analysis.sourceOf p entry = Analysis.sourceOf q entry := by
  unfold Analysis.sourceOf
  cases hget : p.get? entry with
  | some r =>
    obtain ⟨hr, rfl⟩ := get?_eq_some_iff.1 hget
    obtain ⟨r', hr', hroutine⟩ := Multiset.exists_mem_of_rel_of_mem h hr
    have hget' := get?_eq_some_iff.2 ⟨hr', hroutine.id.symm⟩
    simp only [hget', hroutine.source]
  | none =>
    have hundefined : entry ∉ q.ids := by
      intro hmem
      obtain ⟨r, hr⟩ := contains_iff_get?.1 (contains_iff.2 ((h.partOf.ids entry).2 hmem))
      simp [hget] at hr
    rw [get?_eq_none hundefined]

theorem detect_eq (h : p.Rearranged q) (classifier : Classifier) :
    (EntrySet.detect p classifier).toList = (EntrySet.detect q classifier).toList := by
  have hmembers : (EntrySet.detect p classifier).members
      = (EntrySet.detect q classifier).members := by
    apply ExtTreeSet.ext_mem
    intro id
    rw [← ExtTreeSet.mem_toList, ← ExtTreeSet.mem_toList]
    change id ∈ (EntrySet.detect p classifier).toList ↔ id ∈ (EntrySet.detect q classifier).toList
    rw [EntrySet.mem_detect, EntrySet.mem_detect]
    exact ⟨h.partOf.isEntry, h.symm.partOf.isEntry⟩
  rw [EntrySet.toList, EntrySet.toList, hmembers]

theorem reachability (h : p.Rearranged q) (classifier : Classifier) {settings : Settings}
    {reach : RoutineId → Reach}
    (hreach : Analysis.reachability p (.compute p classifier) (settings.oracle.toOracle p)
      settings.strategy = .ok reach) :
    Analysis.reachability q (.compute q classifier) (settings.oracle.toOracle q)
      settings.strategy = .ok reach := by
  -- each program is part of the other, so each resolver is bounded by the other one
  obtain ⟨other, hother, hbelow⟩ := h.symm.partOf.reachability classifier hreach
  obtain ⟨again, hagain, habove⟩ := h.partOf.reachability classifier hother
  obtain rfl : reach = again := Except.ok.inj (hreach.symm.trans hagain)
  obtain rfl : other = reach := by
    funext root
    exact (hbelow root).antisymm (habove root)
  exact hother

theorem process_eq (h : p.Rearranged q) (countTrigger : Bool) (entry : RoutineId)
    (reach : Reach) :
    Analysis.process p countTrigger entry reach = Analysis.process q countTrigger entry reach := by
  rw [Analysis.process, Analysis.process, h.sourceOf_eq]

end Program.Rearranged

namespace Analysis

/-- Rearranged programs give the same report, processes in the same order, or both give none. -/
theorem run_of_rearranged {p q : Program} (h : p.Rearranged q) (classifier : Classifier)
    (settings : Settings) (report : Report) :
    run p classifier settings = .ok report ↔ run q classifier settings = .ok report := by
  have honeway : ∀ {p q : Program}, p.Rearranged q → run p classifier settings = .ok report →
      run q classifier settings = .ok report := by
    intro p q h hrun
    obtain ⟨reach, hreach, -⟩ := runWith_eq_ok hrun
    have hp := runWith_of_reachability hreach
    have hq := runWith_of_reachability (h.reachability classifier hreach)
    -- both list the entries by identity, so the sort is given the same processes in the same order
    simp only [h.detect_eq, h.process_eq] at hp
    exact hq.trans (hp.symm.trans hrun)
  exact ⟨honeway h, honeway h.symm⟩

/-- Two main routines that print the same name and source and differ in what they reach, with
every list in the given order. -/
def twinRoutines (order : {α : Type} → List α → List α) : List Routine :=
  [{ id := ⟨"a.b", "c"⟩, isMain := true, calls := order [
       { callee := some ⟨"os", "ReadFile"⟩ },
       { pointsTo := some (order [⟨"a.b", "load"⟩, ⟨"log", "Print"⟩]) }] },
   { id := ⟨"a", "b.c"⟩, isMain := true, calls := order [
       { callee := some ⟨"net/http", "HandleFunc"⟩,
         args := order [.other, .routine ⟨"a.b", "load"⟩] }] },
   { id := ⟨"a.b", "load"⟩, calls := order [{ callee := some ⟨"os", "WriteFile"⟩ }] }]

def twins (order : {α : Type} → List α → List α) : Program :=
  (order (twinRoutines order)).foldl Program.insertNew .empty

def twinsReport : Report :=
  ⟨⟨4, 0, 1, 2⟩,
    [⟨"a.b.c", "a.b.c", ⟨2, 0, 0, 0⟩, 1⟩,
     ⟨"a.b.c", "a.b.c", ⟨1, 0, 1, 1⟩, 2⟩,
     ⟨"a.b.load", "a.b.load", ⟨1, 0, 0, 1⟩, 1⟩]⟩

theorem run_twins :
    run (twins id) .builtIn { strategy := .wholeProgram, oracle := .recorded }
      = .ok twinsReport := by
  rw [Classifier.builtIn_eq]
  apply runWith_of_sorted
  · decide +kernel
  · decide +kernel
  · rfl

theorem twins_rearranged : (twins id).Rearranged (twins List.reverse) := by
  have hp : (twins id).routines = twinRoutines id := by decide +kernel
  have hq : (twins List.reverse).routines = (twinRoutines List.reverse).reverse := by
    decide +kernel
  rw [Program.Rearranged, hp, hq]
  refine rel_reverse (.cons ⟨rfl, rfl, rfl, ?_⟩ (.cons ⟨rfl, rfl, rfl, ?_⟩
    (.cons ⟨rfl, rfl, rfl, ?_⟩ .nil)))
  · exact rel_reverse (.cons (.refl _)
      (.cons ⟨rfl, rfl, rfl, .refl _, .some (List.reverse_perm _).symm⟩ .nil))
  · exact rel_reverse (.cons ⟨rfl, rfl, rfl, (List.reverse_perm _).symm, .none⟩ .nil)
  · exact rel_reverse (.cons (.refl _) .nil)

theorem run_of_rearranged_twins :
    (twins id).Rearranged (twins List.reverse) ∧
    run (twins id) .builtIn { strategy := .wholeProgram, oracle := .recorded }
      = .ok twinsReport ∧
    run (twins List.reverse) .builtIn { strategy := .wholeProgram, oracle := .recorded }
      = .ok twinsReport :=
  ⟨twins_rearranged, run_twins,
    (run_of_rearranged twins_rearranged .builtIn
      { strategy := .wholeProgram, oracle := .recorded } twinsReport).1 run_twins⟩

end Analysis

end FunctionalSize
