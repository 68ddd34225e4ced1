import FunctionalSize.Proofs.Traversal
import Mathlib.Order.Lattice.Nat

set_option autoImplicit false

/-!
# Breadth-first walks

A breadth-first walk takes nodes in the order of their distance from the root. Nodes are marked
when they are taken, so the queue may hold a node several times, and later places can be further
than the node's distance. The invariant speaks of paths instead: the queue falls into two parts,
reached by paths of `d` and of `d + 1` edges, and whatever is nearer than `d` is visited already.
A node that is taken unvisited from the first part has distance `d`.
-/

namespace FunctionalSize

open Std

namespace Graph

variable {α : Type} {g : Graph α} {root x y : α} {n : Nat}

inductive ReachableIn (g : Graph α) (root : α) : Nat → α → Prop
  | refl : ReachableIn g root 0 root
  | step {n : Nat} {a b : α} :
      ReachableIn g root n a → b ∈ g.succ a → ReachableIn g root (n + 1) b

theorem exists_reachableIn (h : g.Reachable root x) : ∃ n, g.ReachableIn root n x := by
  induction h with
  | refl => exact ⟨0, .refl⟩
  | step _ hsucc ih =>
    obtain ⟨n, hn⟩ := ih
    exact ⟨n + 1, hn.step hsucc⟩

noncomputable def distance (g : Graph α) (root x : α) : Nat := sInf {n | g.ReachableIn root n x}

theorem isLeast_distance (h : g.ReachableIn root n x) :
    IsLeast {n | g.ReachableIn root n x} (g.distance root x) :=
  ⟨Nat.sInf_mem ⟨n, h⟩, fun _ => Nat.sInf_le⟩

end Graph

namespace Traversal

variable {α : Type} [Ord α] [TransOrd α]

/-- A walk that has come to distance `d`: what waits of this level, and what was met of the next
one. -/
structure Level (g : Graph α) (root : α) (d : Nat) (visited : ExtTreeSet α)
    (now later : List α) : Prop where
  nearer : ∀ n x, g.ReachableIn root n x → n < d → x ∈ visited
  here : ∀ x, g.ReachableIn root d x → x ∈ visited ∨ x ∈ now
  now_in : ∀ x ∈ now, g.ReachableIn root d x
  later_in : ∀ x ∈ later, g.ReachableIn root (d + 1) x

namespace Level

variable {g : Graph α} {root x : α} {d : Nat} {visited : ExtTreeSet α} {now later : List α}

theorem ofRoot (g : Graph α) (root : α) : Level g root 0 ∅ [root] [] where
  nearer n x _ hn := absurd hn (Nat.not_lt_zero n)
  here x hx := by
    cases hx
    exact Or.inr List.mem_cons_self
  now_in x hx := by
    rw [List.mem_singleton.1 hx]
    exact .refl
  later_in x hx := absurd hx List.not_mem_nil

theorem distance_eq (hl : Level g root d visited now later) (hx : x ∈ now)
    (hnew : x ∉ visited) : g.distance root x = d := by
  have hpath := hl.now_in x hx
  obtain ⟨hshortest, hleast⟩ := Graph.isLeast_distance hpath
  apply Nat.le_antisymm (hleast hpath)
  by_contra hlt
  exact hnew (hl.nearer _ x hshortest (Nat.not_le.1 hlt))

theorem advance (hl : Level g root d visited now later) (hnow : ∀ x ∈ now, x ∈ visited)
    (hsucc : ∀ x ∈ visited, ∀ y ∈ g.succ x, y ∈ visited ∨ y ∈ now ++ later) :
    Level g root (d + 1) visited later [] := by
  have hhere : ∀ x, g.ReachableIn root d x → x ∈ visited := fun x hx =>
    (hl.here x hx).elim id (hnow x)
  refine ⟨?_, ?_, hl.later_in, by simp⟩
  · intro n x hx hn
    rcases Nat.lt_succ_iff_lt_or_eq.1 hn with hlt | rfl
    · exact hl.nearer n x hx hlt
    · exact hhere x hx
  · intro y hy
    cases hy with
    | @step n x _ hx hsuccessor =>
      have := hnow y
      have := hsucc x (hhere x hx) y hsuccessor
      grind

theorem take [LawfulEqOrd α] {t t' : Traversal α} {seen : List α}
    (hl : Level g root d t.visited (seen ++ x :: now) later) (h : t.next? = some (x, t'))
    (hseen : ∀ y ∈ seen, y ∈ t.visited) {xs : List α} (hxs : xs ⊆ g.succ x) :
    Level g root d t'.visited now (later ++ xs) := by
  have hvisited : ∀ y, y ∈ t'.visited ↔ x = y ∨ y ∈ t.visited := fun y => mem_visited_next? h
  have hx : g.ReachableIn root d x := hl.now_in x (by simp)
  refine ⟨?_, ?_, ?_, ?_⟩
  · intro n y hy hn
    exact (hvisited y).2 (Or.inr (hl.nearer n y hy hn))
  · intro y hy
    have := hl.here y hy
    have := hseen y
    rw [hvisited]
    grind
  · intro y hy
    exact hl.now_in y (by simp [hy])
  · intro y hy
    rcases List.mem_append.1 hy with hold | hsuccessor
    · exact hl.later_in y hold
    · exact hx.step (hxs hsuccessor)

theorem locate {t t' : Traversal α} (hl : Level g root d t.visited now later)
    (hworklist : t.worklist = now ++ later) (hc : t.Covers g [root])
    (h : t.next? = some (x, t')) :
    ∃ d' seen now' later', d ≤ d' ∧ (∀ y ∈ seen, y ∈ t.visited) ∧
      Level g root d' t.visited (seen ++ x :: now') later' ∧ t'.worklist = now' ++ later' := by
  obtain ⟨hx, -, -, seen, hseen, htaken⟩ := next?_eq_some h
  have hsucc : ∀ x ∈ t.visited, ∀ y ∈ g.succ x, y ∈ t.visited ∨ y ∈ now ++ later := by
    rw [← hworklist]
    exact hc.succ_met
  rw [hworklist] at htaken
  -- what is dropped in front of `x` reaches into the next level, fills this one, or ends within it
  rcases List.append_eq_append_iff.1 htaken with ⟨dropped, rfl, hlater⟩ | ⟨rest, rfl, hrest⟩
  · have hnext := hl.advance (fun y hy => hseen y (List.mem_append_left _ hy)) hsucc
    rw [hlater] at hnext
    exact ⟨d + 1, dropped, t'.worklist, [], Nat.le_succ d,
      fun y hy => hseen y (List.mem_append_right _ hy), hnext, (List.append_nil _).symm⟩
  · rcases List.cons_eq_append_iff.1 hrest with ⟨rfl, hlater⟩ | ⟨now', rfl, htail⟩
    · have hnext := hl.advance (by simpa using hseen) hsucc
      rw [hlater] at hnext
      exact ⟨d + 1, [], t'.worklist, [], Nat.le_succ d, by simp, hnext, (List.append_nil _).symm⟩
    · exact ⟨d, seen, now', later, Nat.le_refl d, hseen, hl, htail⟩

end Level

/-- The invariant of a breadth-first walk that has come to distance `d`. -/
structure Layered (g : Graph α) (root : α) (d : Nat) (t : Traversal α) : Prop where
  order : t.order = .breadthFirst
  covers : t.Covers g [root]
  level : ∃ now later, t.worklist = now ++ later ∧ Level g root d t.visited now later

theorem layered_start (g : Graph α) (root : α) : Layered g root 0 (start .breadthFirst root) where
  order := rfl
  covers := covers_ofRoots g _ _
  level := ⟨[root], [], rfl, Level.ofRoot g root⟩

variable [LawfulEqOrd α]

theorem Layered.step {g : Graph α} {root x : α} {d : Nat} {t t' : Traversal α}
    (hl : Layered g root d t) (h : t.next? = some (x, t')) :
    d ≤ g.distance root x ∧ Layered g root (g.distance root x) (t'.pushAll (g.succ x)) := by
  obtain ⟨now, later, hworklist, hlevel⟩ := hl.level
  obtain ⟨d', seen, now', later', hd, hseen, hfound, htail⟩ :=
    hlevel.locate hworklist hl.covers h
  obtain ⟨hx, hmode, -⟩ := next?_eq_some h
  have horder : t'.order = .breadthFirst := hmode.trans hl.order
  let fresh := (g.succ x).filter fun y => y ∉ t'.visited
  have hpush : t'.pushAll (g.succ x) = { t' with worklist := t'.worklist ++ fresh } := by
    rw [pushAll_eq, horder]
  have hdistance : g.distance root x = d' := hfound.distance_eq (by simp) hx
  rw [hdistance]
  refine ⟨hd, ?_, hl.covers.step h, now', later' ++ fresh, ?_, ?_⟩
  · rw [hpush, horder]
  · rw [hpush, htail, List.append_assoc]
  · rw [hpush]
    exact hfound.take h hseen List.filter_sublist.subset

theorem Layered.drain {g : Graph α} {root : α} {d : Nat} {t : Traversal α}
    (hl : Layered g root d t) :
    (t.drain g).1.Pairwise (fun a b => g.distance root a ≤ g.distance root b) ∧
      ∀ x ∈ (t.drain g).1, d ≤ g.distance root x := by
  fun_induction Traversal.drain g t generalizing d with
  | case1 t h => simp
  | case2 t x t' h xs last hrest ih =>
    obtain ⟨hd, hnext⟩ := hl.step h
    obtain ⟨hsorted, hbound⟩ := ih hnext
    rw [hrest] at hsorted hbound
    constructor
    · exact List.pairwise_cons.2 ⟨hbound, hsorted⟩
    · intro y hy
      rcases List.mem_cons.1 hy with rfl | hy
      · exact hd
      · exact hd.trans (hbound y hy)

/-- Every node that can be reached is taken once, and nearer ones are taken first. -/
theorem drain_breadthFirst_by_distance (g : Graph α) (root : α) :
    let taken := ((start .breadthFirst root).drain g).1
    taken.Nodup ∧ (∀ x, x ∈ taken ↔ g.Reachable root x) ∧
      (∀ x ∈ taken, IsLeast {n | g.ReachableIn root n x} (g.distance root x)) ∧
      taken.Pairwise fun a b => g.distance root a ≤ g.distance root b := by
  have hmem : ∀ x, x ∈ g.visit .breadthFirst root ↔ g.Reachable root x := fun x => Graph.mem_visit
  refine ⟨(nodup_drain g _).1, hmem, ?_, ?_⟩
  · intro x hx
    obtain ⟨n, hn⟩ := Graph.exists_reachableIn ((hmem x).1 hx)
    exact Graph.isLeast_distance hn
  · exact (layered_start g root).drain.1

def looped : Graph Nat := .ofTable [(1, [2, 3, 2]), (2, [4]), (3, [3, 4]), (4, [1]), (5, [1])]

theorem looped_reachable {x : Nat} (h : looped.Reachable 1 x) : x ∈ [1, 2, 3, 4] := by
  have hclosed : ∀ a ∈ [1, 2, 3, 4], ∀ b ∈ looped.succ a, b ∈ [1, 2, 3, 4] := by decide
  induction h with
  | refl => decide
  | step _ hsucc ih => exact hclosed _ ih _ hsucc

theorem drain_breadthFirst_by_distance_looped :
    let taken := ((start .breadthFirst 1).drain looped).1
    taken.Nodup ∧ 4 ∈ taken ∧ 5 ∉ taken ∧
      taken.Pairwise fun a b => looped.distance 1 a ≤ looped.distance 1 b := by
  obtain ⟨hnodup, hmem, -, hsorted⟩ := drain_breadthFirst_by_distance looped 1
  refine ⟨hnodup, ?_, ?_, hsorted⟩
  · rw [hmem]
    exact (Graph.Reachable.refl.step (b := 3) (by decide)).step (by decide)
  · rw [hmem]
    exact fun hreach => absurd (looped_reachable hreach) (by decide)

end Traversal

end FunctionalSize
