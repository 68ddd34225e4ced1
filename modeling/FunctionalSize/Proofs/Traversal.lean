import FunctionalSize.Traversal

set_option autoImplicit false

namespace FunctionalSize

open Std

namespace Graph

variable {α : Type}

def ReachableFrom (g : Graph α) (roots : List α) (x : α) : Prop :=
  ∃ root ∈ roots, g.Reachable root x

theorem ReachableFrom.step {g : Graph α} {roots : List α} {x y : α}
    (hx : g.ReachableFrom roots x) (hy : y ∈ g.succ x) : g.ReachableFrom roots y := by
  obtain ⟨root, hroot, hreach⟩ := hx
  exact ⟨root, hroot, hreach.step hy⟩

theorem reachableFrom_singleton {g : Graph α} {root x : α} :
    g.ReachableFrom [root] x ↔ g.Reachable root x := by
  simp [ReachableFrom]

end Graph

namespace Traversal

variable {α : Type} [Ord α] [TransOrd α]

def Met (t : Traversal α) (x : α) : Prop := x ∈ t.visited ∨ x ∈ t.worklist

theorem met_push {t : Traversal α} {x y : α} : (t.push x).Met y ↔ t.Met y ∨ y = x := by
  unfold Met push
  split
  · next hx =>
    constructor
    · exact Or.inl
    · rintro (h | rfl)
      · exact h
      · exact Or.inl hx
  · cases t.order with
    | depthFirst => grind
    | breadthFirst => grind

theorem met_pushAll {t : Traversal α} {xs : List α} {y : α} :
    (t.pushAll xs).Met y ↔ t.Met y ∨ y ∈ xs := by
  induction xs generalizing t with
  | nil => simp [pushAll]
  | cons x xs ih =>
    change ((t.push x).pushAll xs).Met y ↔ _
    rw [ih, met_push, List.mem_cons, or_assoc]

theorem pushAll_eq (t : Traversal α) (xs : List α) :
    t.pushAll xs = { t with worklist := match t.order with
      | .depthFirst => (xs.filter fun x => x ∉ t.visited).reverse ++ t.worklist
      | .breadthFirst => t.worklist ++ xs.filter fun x => x ∉ t.visited } := by
  induction xs generalizing t with
  | nil => cases t with | mk order visited worklist => cases order <;> simp [pushAll]
  | cons x xs ih =>
    change (t.push x).pushAll xs = _
    rw [ih, push]
    by_cases hx : x ∈ t.visited
    · simp [hx]
    · cases t with | mk order visited worklist => cases order <;> simp_all

theorem mem_of_firstNew_eq_none {visited : ExtTreeSet α} {w : List α}
    (h : firstNew visited w = none) : ∀ x ∈ w, x ∈ visited := by
  induction w with
  | nil => simp
  | cons y w ih =>
    rw [firstNew] at h
    split at h
    · next hy =>
      intro x hx
      rcases List.mem_cons.1 hx with rfl | hx
      · exact hy
      · exact ih h x hx
    · simp at h

theorem mem_visited_of_next?_eq_none {t : Traversal α} (h : t.next? = none) {x : α}
    (hx : x ∈ t.worklist) : x ∈ t.visited :=
  mem_of_firstNew_eq_none (Option.map_eq_none_iff.1 h) x hx

structure Covers (g : Graph α) (roots : List α) (t : Traversal α) : Prop where
  roots_met : ∀ x ∈ roots, t.Met x
  succ_met : ∀ x ∈ t.visited, ∀ y ∈ g.succ x, t.Met y
  reachable : ∀ x, t.Met x → g.ReachableFrom roots x

theorem covers_ofRoots (g : Graph α) (order : Order) (roots : List α) :
    (ofRoots order roots).Covers g roots where
  roots_met x hx := Or.inr hx
  succ_met x hx := absurd hx ExtTreeSet.not_mem_empty
  reachable x hx := by
    rcases hx with hx | hx
    · exact absurd hx ExtTreeSet.not_mem_empty
    · exact ⟨x, hx, .refl⟩

theorem Covers.mem_visited_iff {g : Graph α} {roots : List α} {t : Traversal α} {x : α}
    (hc : t.Covers g roots) (h : t.next? = none) :
    x ∈ t.visited ↔ g.ReachableFrom roots x := by
  have hmet : ∀ y, t.Met y → y ∈ t.visited := by
    rintro y (hy | hy)
    · exact hy
    · exact mem_visited_of_next?_eq_none h hy
  constructor
  · exact fun hx => hc.reachable x (Or.inl hx)
  · rintro ⟨root, hroot, hreach⟩
    induction hreach with
    | refl => exact hmet root (hc.roots_met root hroot)
    | step _ hsucc ih => exact hmet _ (hc.succ_met _ ih _ hsucc)

theorem next?_drain (g : Graph α) (t : Traversal α) : (t.drain g).2.next? = none := by
  fun_induction drain g t with
  | case1 t h => exact h
  | case2 t x t' h xs last hrest ih =>
    rw [hrest] at ih
    exact ih

variable [LawfulEqOrd α]

section Step

variable {t t' : Traversal α} {x y : α}

theorem mem_visited_next? (h : t.next? = some (x, t')) :
    y ∈ t'.visited ↔ x = y ∨ y ∈ t.visited := by
  obtain ⟨-, -, hvisited, -⟩ := next?_eq_some h
  rw [hvisited, ExtTreeSet.mem_insert, LawfulEqOrd.compare_eq_iff_eq]

theorem met_next? (h : t.next? = some (x, t')) : t'.Met y ↔ t.Met y := by
  -- `seen` is what `next?` drops from the worklist: all of it was visited before
  obtain ⟨-, -, -, seen, hseen, hworklist⟩ := next?_eq_some h
  have hold := hseen y
  rw [Met, Met, mem_visited_next? h, hworklist, List.mem_append, List.mem_cons]
  grind

theorem met_of_next? (h : t.next? = some (x, t')) : t.Met x := by
  rw [← met_next? h]
  exact Or.inl ((mem_visited_next? h).2 (Or.inl rfl))

theorem mem_visited_step (h : t.next? = some (x, t')) (xs : List α) :
    y ∈ (t'.pushAll xs).visited ↔ x = y ∨ y ∈ t.visited := by
  rw [visited_pushAll, mem_visited_next? h]

theorem met_step (h : t.next? = some (x, t')) (xs : List α) :
    (t'.pushAll xs).Met y ↔ t.Met y ∨ y ∈ xs := by
  rw [met_pushAll, met_next? h]

theorem Covers.step {g : Graph α} {roots : List α} (hc : t.Covers g roots)
    (h : t.next? = some (x, t')) : (t'.pushAll (g.succ x)).Covers g roots := by
  refine ⟨?_, ?_, ?_⟩
  · intro y hy
    exact (met_step h _).2 (Or.inl (hc.roots_met y hy))
  · intro y hy z hz
    rw [met_step h]
    rcases (mem_visited_step h _).1 hy with rfl | hold
    · exact Or.inr hz
    · exact Or.inl (hc.succ_met y hold z hz)
  · intro y hy
    rcases (met_step h _).1 hy with hold | hsucc
    · exact hc.reachable y hold
    · exact (hc.reachable x (met_of_next? h)).step hsucc

end Step

theorem covers_drain {g : Graph α} {roots : List α} {t : Traversal α} (hc : t.Covers g roots) :
    (t.drain g).2.Covers g roots := by
  fun_induction drain g t with
  | case1 t h => exact hc
  | case2 t x t' h xs last hrest ih =>
    have hlast := ih (hc.step h)
    rw [hrest] at hlast
    exact hlast

theorem mem_visited_drain {g : Graph α} {t : Traversal α} {y : α} :
    y ∈ (t.drain g).2.visited ↔ y ∈ t.visited ∨ y ∈ (t.drain g).1 := by
  fun_induction drain g t with
  | case1 t h => simp
  | case2 t x t' h xs last hrest ih =>
    rw [hrest, mem_visited_step h] at ih
    rw [ih, List.mem_cons]
    grind

/-- A walk takes nothing twice, and nothing that was visited before. -/
theorem nodup_drain (g : Graph α) (t : Traversal α) :
    (t.drain g).1.Nodup ∧ ∀ x ∈ (t.drain g).1, x ∉ t.visited := by
  fun_induction drain g t with
  | case1 t h => simp
  | case2 t x t' h xs last hrest ih =>
    obtain ⟨hx, -⟩ := next?_eq_some h
    rw [hrest] at ih
    obtain ⟨hnodup, hnew⟩ := ih
    simp only [mem_visited_step h] at hnew
    constructor
    · rw [List.nodup_cons]
      exact ⟨fun hmem => hnew x hmem (Or.inl rfl), hnodup⟩
    · intro y hy
      rcases List.mem_cons.1 hy with rfl | hy
      · exact hx
      · exact fun hmem => hnew y hy (Or.inr hmem)

end Traversal

namespace Graph

variable {α : Type} [Ord α] [TransOrd α] [LawfulEqOrd α]

/-- A walk takes exactly what can be reached from its roots. -/
theorem mem_visitFrom {g : Graph α} {order : Order} {roots : List α} {x : α} :
    x ∈ g.visitFrom order roots ↔ g.ReachableFrom roots x := by
  have hcovers := Traversal.covers_drain (Traversal.covers_ofRoots g order roots)
  rw [← hcovers.mem_visited_iff (Traversal.next?_drain g _), Traversal.mem_visited_drain]
  exact (or_iff_right ExtTreeSet.not_mem_empty).symm

theorem mem_visit {g : Graph α} {order : Order} {root x : α} :
    x ∈ g.visit order root ↔ g.Reachable root x :=
  mem_visitFrom.trans reachableFrom_singleton

end Graph

end FunctionalSize
