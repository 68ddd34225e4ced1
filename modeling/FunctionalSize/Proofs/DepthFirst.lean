import FunctionalSize.Proofs.Traversal

set_option autoImplicit false

/-!
# Depth-first walks

A depth-first walk takes the nodes in the order of the recursive search. The stack of the walk may
hold a node several times and keeps nodes that were visited in the meantime. Neither matters,
because the recursive search skips what it has visited: on any stack it gives the order in which
the walk goes on.
-/

namespace FunctionalSize

open Std

namespace Graph

variable {α : Type} [DecidableEq α]

def openEdges (g : Graph α) (visited : List α) : Nat :=
  Traversal.load (fun a => (g.succ a).length) (fun a => a ∉ visited) g.nodes

theorem openEdges_mono {g : Graph α} {visited visited' : List α} (h : visited ⊆ visited') :
    g.openEdges visited' ≤ g.openEdges visited := by
  apply Traversal.load_le
  intro a ha
  simp only [decide_eq_true_eq] at ha ⊢
  exact fun hmem => ha (h hmem)

theorem openEdges_concat {g : Graph α} {visited : List α} {x : α} (hx : x ∉ visited) :
    g.openEdges (visited ++ [x]) + (g.succ x).length ≤ g.openEdges visited := by
  by_cases hmem : x ∈ g.nodes
  · refine Traversal.load_add_le g.nodes _ ?_ hmem (by simpa using hx) (by simp)
    intro a ha
    simp_all
  · rw [g.succ_eq_nil x hmem]
    exact openEdges_mono (List.subset_append_left visited [x])

def succReversed (g : Graph α) (x : α) : List α := (g.succ x).reverse

/-- What a recursive search from each pending node in turn meets for the first time. The
successors of a node are searched last first. -/
def preorderFrom (g : Graph α) (visited : List α) : List α → List α
  | [] => []
  | x :: rest =>
    if x ∈ visited then preorderFrom g visited rest
    else
      let below := preorderFrom g (visited ++ [x]) (g.succReversed x)
      x :: below ++ preorderFrom g (visited ++ x :: below) rest
termination_by pending => g.openEdges visited + pending.length
decreasing_by
  · simp
  · next hx =>
    have := openEdges_concat (g := g) hx
    simp only [succReversed, List.length_reverse, List.length_cons]
    omega
  · apply Nat.add_lt_add_of_le_of_lt _ (Nat.lt_succ_self rest.length)
    exact openEdges_mono (List.subset_append_left visited _)

def preorder (g : Graph α) (root : α) : List α := g.preorderFrom [] [root]

variable {g : Graph α} {visited : List α}

theorem preorderFrom_of_mem {x : α} {rest : List α} (hx : x ∈ visited) :
    g.preorderFrom visited (x :: rest) = g.preorderFrom visited rest := by
  rw [preorderFrom, if_pos hx]

theorem preorderFrom_of_not_mem {x : α} {rest : List α} (hx : x ∉ visited) :
    g.preorderFrom visited (x :: rest) =
      x :: g.preorderFrom (visited ++ [x]) (g.succReversed x) ++
        g.preorderFrom (visited ++ x :: g.preorderFrom (visited ++ [x]) (g.succReversed x))
          rest := by
  rw [preorderFrom, if_neg hx]

theorem preorderFrom_append_of_mem {seen rest : List α} (h : ∀ x ∈ seen, x ∈ visited) :
    g.preorderFrom visited (seen ++ rest) = g.preorderFrom visited rest := by
  induction seen with
  | nil => rfl
  | cons x seen ih =>
    rw [List.cons_append, preorderFrom_of_mem (h x List.mem_cons_self)]
    exact ih fun y hy => h y (List.mem_cons_of_mem x hy)

theorem preorderFrom_append (xs ys : List α) :
    g.preorderFrom visited (xs ++ ys) = g.preorderFrom visited xs ++
      g.preorderFrom (visited ++ g.preorderFrom visited xs) ys := by
  fun_induction preorderFrom g visited xs with
  | case1 visited => rw [List.nil_append, List.nil_append, List.append_nil]
  | case2 visited x rest hx ih => rw [List.cons_append, preorderFrom_of_mem hx, ih]
  | case3 visited x rest hx below ihbelow ihrest =>
    rw [List.cons_append, preorderFrom_of_not_mem hx]
    change x :: below ++ g.preorderFrom (visited ++ x :: below) (rest ++ ys) = _
    rw [ihrest]
    simp only [List.cons_append, List.append_assoc]

theorem preorderFrom_filter {keep : α → Bool} {xs : List α}
    (h : ∀ x ∈ xs, x ∉ visited → keep x = true) :
    g.preorderFrom visited (xs.filter keep) = g.preorderFrom visited xs := by
  fun_induction preorderFrom g visited xs with
  | case1 visited => rw [List.filter_nil, preorderFrom]
  | case2 visited x rest hx ih =>
    have hrest := ih fun y hy => h y (List.mem_cons_of_mem x hy)
    cases hkeep : keep x with
    | true => rw [List.filter_cons_of_pos hkeep, preorderFrom_of_mem hx, hrest]
    | false => rw [List.filter_cons_of_neg (by simp [hkeep]), hrest]
  | case3 visited x rest hx below ihbelow ihrest =>
    have hrest := ihrest fun y hy hnew => h y (List.mem_cons_of_mem x hy) fun hold =>
      hnew (List.mem_append_left _ hold)
    rw [List.filter_cons_of_pos (h x List.mem_cons_self hx), preorderFrom_of_not_mem hx, hrest]

end Graph

namespace Traversal

variable {α : Type} [Ord α] [TransOrd α] [LawfulEqOrd α] [DecidableEq α]

theorem drain_depthFirst {g : Graph α} {t : Traversal α} {visited : List α}
    (ht : t.order = .depthFirst) (hvisited : ∀ y, y ∈ visited ↔ y ∈ t.visited) :
    (t.drain g).1 = g.preorderFrom visited t.worklist := by
  -- `visited` may list the marked nodes in any order, so each step appends the node it takes
  fun_induction drain g t generalizing visited with
  | case1 t h =>
    have hseen : ∀ x ∈ t.worklist, x ∈ visited := fun x hx =>
      (hvisited x).2 (mem_visited_of_next?_eq_none h hx)
    rw [← List.append_nil t.worklist, Graph.preorderFrom_append_of_mem hseen, Graph.preorderFrom]
  | case2 t x t' h xs last hrest ih =>
    obtain ⟨hx, hmode, -, seen, hseen, hworklist⟩ := next?_eq_some h
    have hold : ∀ y ∈ seen, y ∈ visited := fun y hy => (hvisited y).2 (hseen y hy)
    have hnew : x ∉ visited := fun hmem => hx ((hvisited x).1 hmem)
    have hmarked : ∀ y, y ∈ visited ++ [x] ↔ y ∈ t'.visited := by
      intro y
      rw [mem_visited_next? h, ← hvisited, List.mem_append, List.mem_singleton]
      grind
    let fresh := (g.succReversed x).filter fun y => y ∉ t'.visited
    have hpush : t'.pushAll (g.succ x) = { t' with worklist := fresh ++ t'.worklist } := by
      rw [pushAll_eq, hmode, ht, ← List.filter_reverse]
      rfl
    have hstep : xs = g.preorderFrom (visited ++ [x]) (fresh ++ t'.worklist) := by
      rw [hrest, hpush] at ih
      exact ih (hmode.trans ht) hmarked
    have hfresh : g.preorderFrom (visited ++ [x]) fresh =
        g.preorderFrom (visited ++ [x]) (g.succReversed x) := by
      apply Graph.preorderFrom_filter
      exact fun y _ hy => decide_eq_true fun hmem => hy ((hmarked y).2 hmem)
    calc
      x :: xs = x :: g.preorderFrom (visited ++ [x]) (fresh ++ t'.worklist) := by rw [← hstep]
      _ = g.preorderFrom visited (x :: t'.worklist) := by
        rw [Graph.preorderFrom_append, hfresh, Graph.preorderFrom_of_not_mem hnew]
        simp only [List.append_assoc, List.cons_append, List.nil_append]
      _ = g.preorderFrom visited t.worklist := by
        rw [hworklist, Graph.preorderFrom_append_of_mem hold]

/-- Taking nodes from a stack and pushing their successors in order gives the recursive
depth-first order, with successors searched last first. -/
theorem drain_depthFirst_eq_preorder (g : Graph α) (root : α) :
    ((start .depthFirst root).drain g).1 = g.preorder root := by
  apply drain_depthFirst rfl
  simp [start, ofRoots]

def tangled : Graph Nat := .ofTable [(1, [2, 3, 3]), (2, [2, 4]), (3, [4, 2]), (4, [1])]

theorem drain_depthFirst_eq_preorder_tangled :
    ((start .depthFirst 1).drain tangled).1 = [1, 3, 2, 4] := by
  rw [drain_depthFirst_eq_preorder]
  simp [Graph.preorder, Graph.preorderFrom, Graph.succReversed, tangled, Graph.ofTable,
    List.lookup_cons]

end Traversal

end FunctionalSize
