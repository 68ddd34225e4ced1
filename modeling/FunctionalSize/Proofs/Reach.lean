import FunctionalSize.Analysis
import FunctionalSize.Proofs.Movements
import FunctionalSize.Proofs.Traversal
import Mathlib.Data.List.Chain

set_option autoImplicit false

namespace FunctionalSize

open Std

theorem nodup_toList {α : Type} [Ord α] [TransOrd α] [LawfulEqOrd α] (s : ExtTreeSet α) :
    s.toList.Nodup :=
  ExtTreeSet.distinct_toList.imp fun hne heq => hne (LawfulEqOrd.compare_eq_iff_eq.2 heq)

theorem toList_insert_perm {α : Type} [Ord α] [TransOrd α] [LawfulEqOrd α] {s : ExtTreeSet α}
    {x : α} (hx : x ∉ s) : (s.insert x).toList.Perm (x :: s.toList) := by
  have hcons : (x :: s.toList).Nodup :=
    List.nodup_cons.2 ⟨fun hmem => hx (ExtTreeSet.mem_toList.1 hmem), nodup_toList s⟩
  rw [List.perm_ext_iff_of_nodup (nodup_toList _) hcons]
  intro y
  rw [ExtTreeSet.mem_toList, ExtTreeSet.mem_insert, LawfulEqOrd.compare_eq_iff_eq, List.mem_cons,
    ExtTreeSet.mem_toList, eq_comm]

namespace Reach

variable {counts : LocalCounts}

theorem mem_add {reach : Reach} {id f : RoutineId} :
    f ∈ (reach.add counts id).routines ↔ f ∈ reach.routines ∨ f = id := by
  unfold add
  split
  · next hid =>
    constructor
    · exact Or.inl
    · rintro (h | rfl)
      · exact h
      · exact hid
  · rw [ExtTreeSet.mem_insert, LawfulEqOrd.compare_eq_iff_eq, or_comm, eq_comm]

theorem mem_foldl_add {reach : Reach} {walk : List RoutineId} {f : RoutineId} :
    f ∈ (walk.foldl (add counts) reach).routines ↔ f ∈ reach.routines ∨ f ∈ walk := by
  induction walk generalizing reach with
  | nil => simp
  | cons id walk ih => rw [List.foldl_cons, ih, mem_add, List.mem_cons, or_assoc]

theorem mem_ofWalk {walk : List RoutineId} {f : RoutineId} :
    f ∈ (ofWalk counts walk).routines ↔ f ∈ walk := by
  rw [ofWalk, mem_foldl_add]
  exact or_iff_right ExtTreeSet.not_mem_empty

def Summed (counts : LocalCounts) (reach : Reach) : Prop :=
  reach.movements = (reach.routines.toList.map counts.get).sum

theorem Summed.add {reach : Reach} (h : reach.Summed counts) (id : RoutineId) :
    (reach.add counts id).Summed counts := by
  unfold Reach.add
  split
  · exact h
  · next hid =>
    change reach.movements + counts.get id = _
    rw [((toList_insert_perm hid).map counts.get).sum_eq, List.map_cons, List.sum_cons, h,
      add_comm]

theorem Summed.foldl_add {reach : Reach} (h : reach.Summed counts) (walk : List RoutineId) :
    (walk.foldl (Reach.add counts) reach).Summed counts := by
  induction walk generalizing reach with
  | nil => exact h
  | cons id walk ih => exact ih (h.add id)

theorem summed_ofWalk (counts : LocalCounts) (walk : List RoutineId) :
    (ofWalk counts walk).Summed counts := by
  have hempty : empty.Summed counts := by
    change 0 = ((∅ : ExtTreeSet RoutineId).toList.map counts.get).sum
    rw [ExtTreeSet.toList_eq_nil_iff.2 rfl, List.map_nil, List.sum_nil]
  exact hempty.foldl_add walk

structure Within (small large : Reach) : Prop where
  routines : ∀ f ∈ small.routines, f ∈ large.routines
  size : small.size ≤ large.size
  movements : small.movements ≤ large.movements

theorem Summed.within {counts' : LocalCounts} {small large : Reach} (hsmall : small.Summed counts)
    (hlarge : large.Summed counts') (hcounts : ∀ id, counts.get id ≤ counts'.get id)
    (hsub : ∀ f ∈ small.routines, f ∈ large.routines) : small.Within large := by
  have hlist : small.routines.toList ⊆ large.routines.toList := by
    intro f hf
    exact ExtTreeSet.mem_toList.2 (hsub f (ExtTreeSet.mem_toList.1 hf))
  refine ⟨hsub, ?_, ?_⟩
  · rw [size, size, ← ExtTreeSet.length_toList, ← ExtTreeSet.length_toList]
    exact (List.subperm_of_subset (nodup_toList _) hlist).length_le
  · rw [hsmall, hlarge]
    calc
      (small.routines.toList.map counts.get).sum ≤ (small.routines.toList.map counts'.get).sum :=
        List.sum_le_sum fun id _ => hcounts id
      _ ≤ (large.routines.toList.map counts'.get).sum :=
        Movements.sum_map_le_sum_map counts'.get (nodup_toList _) hlist

theorem Within.antisymm {a b : Reach} (hab : a.Within b) (hba : b.Within a) : a = b := by
  obtain ⟨routines, movements⟩ := a
  obtain ⟨routines', movements'⟩ := b
  obtain rfl : routines = routines' :=
    ExtTreeSet.ext_mem fun f => ⟨hab.routines f, hba.routines f⟩
  obtain rfl : movements = movements' := hab.movements.antisymm hba.movements
  rfl

end Reach

namespace Program

variable {p : Program} {counts : LocalCounts} {root f g : RoutineId}

def Calls (p : Program) (f g : RoutineId) : Prop :=
  ∃ r, p.get? f = some r ∧ ∃ site ∈ r.calls, site.callee = some g

theorem Calls.contains (h : p.Calls f g) : p.contains f = true := by
  obtain ⟨r, hr, -⟩ := h
  exact contains_iff_get?.2 ⟨r, hr⟩

theorem mem_staticSuccessors : g ∈ p.staticSuccessors f ↔ p.Calls f g := by
  unfold staticSuccessors Calls
  cases h : p.get? f with
  | none => simp
  | some r => simp [Routine.staticCallees, List.mem_filterMap]

structure IsCallPath (p : Program) (root f : RoutineId) (path : List RoutineId) : Prop where
  head : path.head? = some root
  last : path.getLast? = some f
  defined : ∀ id ∈ path, p.contains id = true
  calls : path.IsChain p.Calls

theorem isCallPath_singleton (h : p.contains root = true) : p.IsCallPath root root [root] where
  head := rfl
  last := rfl
  defined := by simp [h]
  calls := .singleton root

theorem IsCallPath.concat {path : List RoutineId} (h : p.IsCallPath root f path)
    (hcall : p.Calls f g) (hg : p.contains g = true) : p.IsCallPath root g (path ++ [g]) where
  head := by rw [List.head?_append, h.head, Option.some_or]
  last := List.getLast?_concat
  defined := by
    intro id hid
    rcases List.mem_append.1 hid with hid | hid
    · exact h.defined id hid
    · rw [List.mem_singleton.1 hid]
      exact hg
  calls := by
    apply h.calls.append (.singleton g)
    intro x hx y hy
    rw [h.last, Option.mem_some_iff] at hx
    rw [List.head?_singleton, Option.mem_some_iff] at hy
    rw [← hx, ← hy]
    exact hcall

theorem IsCallPath.reachable {path : List RoutineId} (h : p.IsCallPath root f path) :
    p.staticGraph.Reachable root f := by
  have hstep : ∀ ⦃x y : RoutineId⦄, p.Calls x y → p.staticGraph.Reachable root x →
      p.staticGraph.Reachable root y :=
    fun x y hcall hx => hx.step (mem_staticSuccessors.2 hcall)
  have hhead : ∀ hne : path ≠ [], p.staticGraph.Reachable root (path.head hne) := by
    intro hne
    rw [(List.head_eq_iff_head?_eq_some hne).2 h.head]
    exact .refl
  exact h.calls.induction _ _ hstep hhead f (List.mem_of_getLast? h.last)

/-- A defined routine that the walk meets ends a call path: only defined routines have
successors, so the walk passes through defined routines. -/
theorem exists_isCallPath (h : p.staticGraph.Reachable root f) (hf : p.contains f = true) :
    ∃ path, p.IsCallPath root f path := by
  induction h with
  | refl => exact ⟨[root], isCallPath_singleton hf⟩
  | step _ hsucc ih =>
    have hcall := mem_staticSuccessors.1 hsucc
    obtain ⟨path, hpath⟩ := ih hcall.contains
    exact ⟨path ++ [_], hpath.concat hcall hf⟩

theorem mem_staticReach :
    f ∈ (p.staticReach counts root).routines ↔
      p.staticGraph.Reachable root f ∧ p.contains f = true := by
  rw [staticReach, Reach.mem_ofWalk, staticWalk, List.mem_filter, Graph.mem_visit]

/-- The static strategy covers exactly the ends of call paths from the root, nothing when the root
is not defined, and counts each routine that it covers once. -/
theorem staticReach_exact (p : Program) (counts : LocalCounts) (root : RoutineId) :
    (∀ f, f ∈ (p.staticReach counts root).routines ↔ ∃ path, p.IsCallPath root f path) ∧
    (p.contains root = false → (p.staticReach counts root).routines = ∅) ∧
    (p.staticReach counts root).routines.toList.Nodup ∧
    (p.staticReach counts root).movements
      = ((p.staticReach counts root).routines.toList.map counts.get).sum := by
  have hmem : ∀ f, f ∈ (p.staticReach counts root).routines ↔ ∃ path, p.IsCallPath root f path := by
    intro f
    rw [mem_staticReach]
    constructor
    · rintro ⟨hreach, hf⟩
      exact exists_isCallPath hreach hf
    · rintro ⟨path, hpath⟩
      exact ⟨hpath.reachable, hpath.defined f (List.mem_of_getLast? hpath.last)⟩
  refine ⟨hmem, ?_, nodup_toList _, Reach.summed_ofWalk counts _⟩
  intro hroot
  apply ExtTreeSet.ext_mem
  intro f
  constructor
  · intro hf
    obtain ⟨path, hpath⟩ := (hmem f).1 hf
    have hdefined := hpath.defined root (List.mem_of_head? hpath.head)
    rw [hroot] at hdefined
    contradiction
  · exact fun hf => absurd hf ExtTreeSet.not_mem_empty

end Program

end FunctionalSize
