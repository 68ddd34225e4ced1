import Std.Data.ExtTreeSet

set_option autoImplicit false

/-!
# Traversals of finite graphs

A graph gives each node the list of its successors, with repetitions and self-loops allowed. Only
the listed nodes have successors, which is what makes every walk end. A traversal is a set of
visited items and a worklist, apart from any graph. An item is marked when it is taken, so the
worklist may hold it several times and still yield it once. The worklist is kept in the order in
which it will be taken: a depth-first traversal puts a new item in front, a breadth-first one at
the back.

`drain` takes items and pushes their successors until nothing new is left. It needs no bound on
the number of steps: each step lowers the `potential`, the length of the worklist together with
the out-degrees of the nodes that are still unvisited.
-/

namespace FunctionalSize

open Std

structure Graph (α : Type) where
  nodes : List α
  succ : α → List α
  succ_eq_nil : ∀ a, a ∉ nodes → succ a = []

namespace Graph

variable {α : Type}

inductive Reachable (g : Graph α) (root : α) : α → Prop
  | refl : Reachable g root root
  | step {a b : α} : Reachable g root a → b ∈ g.succ a → Reachable g root b

namespace Reachable

variable {g : Graph α} {a b c : α}

theorem trans (hab : g.Reachable a b) (hbc : g.Reachable b c) : g.Reachable a c := by
  induction hbc with
  | refl => exact hab
  | step _ hs ih => exact ih.step hs

end Reachable

/-- The graph of an adjacency table; the first row of a node counts. -/
def ofTable [DecidableEq α] (table : List (α × List α)) : Graph α where
  nodes := table.map Prod.fst
  succ a := (table.lookup a).getD []
  succ_eq_nil a h := by
    have : table.lookup a = none := by
      rw [List.lookup_eq_none_iff]
      intro row hrow
      exact bne_iff_ne.2 fun he => h (he ▸ List.mem_map_of_mem hrow)
    rw [this]
    rfl

end Graph

inductive Order where
  | depthFirst
  | breadthFirst
deriving DecidableEq, Repr, Inhabited

structure Traversal (α : Type) [Ord α] where
  order : Order
  visited : ExtTreeSet α
  worklist : List α

namespace Traversal

def load {α : Type} (f : α → Nat) (test : α → Bool) : List α → Nat
  | [] => 0
  | a :: l => (if test a then f a else 0) + load f test l

theorem load_le {α : Type} (l : List α) (f : α → Nat) {p q : α → Bool}
    (hqp : ∀ a, q a = true → p a = true) : load f q l ≤ load f p l := by
  induction l with
  | nil => exact Nat.le_refl _
  | cons a l ih =>
    cases ha : q a with
    | true => simp [load, ha, hqp a ha, ih]
    | false => cases hpa : p a <;> simp [load, ha, hpa] <;> omega

theorem load_add_le {α : Type} (l : List α) (f : α → Nat) {p q : α → Bool}
    (hqp : ∀ a, q a = true → p a = true) {x : α} (hx : x ∈ l) (hp : p x = true)
    (hq : q x = false) : load f q l + f x ≤ load f p l := by
  induction l with
  | nil => simp at hx
  | cons a l ih =>
    rcases List.mem_cons.1 hx with rfl | hmem
    · have := load_le l f hqp
      simp only [load, hp, hq, if_true, Bool.false_eq_true, if_false]
      omega
    · have := ih hmem
      cases ha : q a with
      | true => simp [load, ha, hqp a ha]; omega
      | false => cases hpa : p a <;> simp [load, ha, hpa] <;> omega

variable {α : Type} [Ord α] [TransOrd α]

def ofRoots (order : Order) (roots : List α) : Traversal α := ⟨order, ∅, roots⟩

def start (order : Order) (root : α) : Traversal α := ofRoots order [root]

def isVisited (t : Traversal α) (x : α) : Bool := t.visited.contains x

def visitedCount (t : Traversal α) : Nat := t.visited.size

/-- Queues an item unless it was already visited. -/
def push (t : Traversal α) (x : α) : Traversal α :=
  if x ∈ t.visited then t
  else match t.order with
    | .depthFirst => { t with worklist := x :: t.worklist }
    | .breadthFirst => { t with worklist := t.worklist ++ [x] }

def pushAll (t : Traversal α) (xs : List α) : Traversal α := xs.foldl push t

def firstNew (visited : ExtTreeSet α) : List α → Option (α × List α)
  | [] => none
  | x :: rest => if x ∈ visited then firstNew visited rest else some (x, rest)

def next? (t : Traversal α) : Option (α × Traversal α) :=
  (firstNew t.visited t.worklist).map fun (x, rest) =>
    (x, { t with visited := t.visited.insert x, worklist := rest })

/-- The worklist and the out-degrees of unvisited nodes, which every step lowers. -/
def potential (g : Graph α) (t : Traversal α) : Nat :=
  load (fun a => (g.succ a).length) (fun a => !t.visited.contains a) g.nodes + t.worklist.length

theorem visited_push (t : Traversal α) (x : α) : (t.push x).visited = t.visited := by
  unfold push
  split
  · rfl
  · split <;> rfl

theorem visited_pushAll (t : Traversal α) (xs : List α) :
    (t.pushAll xs).visited = t.visited := by
  induction xs generalizing t with
  | nil => rfl
  | cons x xs ih => exact (ih (t.push x)).trans (visited_push t x)

theorem length_worklist_push (t : Traversal α) (x : α) :
    (t.push x).worklist.length ≤ t.worklist.length + 1 := by
  unfold push
  split
  · exact Nat.le_succ _
  · split <;> simp

theorem length_worklist_pushAll (t : Traversal α) (xs : List α) :
    (t.pushAll xs).worklist.length ≤ t.worklist.length + xs.length := by
  induction xs generalizing t with
  | nil => exact Nat.le_refl _
  | cons x xs ih =>
    have hx := length_worklist_push t x
    have := ih (t.push x)
    simp only [pushAll, List.foldl_cons, List.length_cons] at this ⊢
    omega

theorem firstNew_eq_some {visited : ExtTreeSet α} {w rest : List α} {x : α}
    (h : firstNew visited w = some (x, rest)) :
    x ∉ visited ∧ ∃ seen, (∀ y ∈ seen, y ∈ visited) ∧ w = seen ++ x :: rest := by
  induction w with
  | nil => simp [firstNew] at h
  | cons y w ih =>
    rw [firstNew] at h
    split at h
    · next hy =>
      obtain ⟨hx, seen, hseen, rfl⟩ := ih h
      exact ⟨hx, y :: seen, by simpa [hy] using hseen, rfl⟩
    · next hy =>
      obtain ⟨rfl, rfl⟩ := Prod.mk.inj (Option.some.inj h)
      exact ⟨hy, [], by simp, rfl⟩

theorem next?_eq_some {t t' : Traversal α} {x : α} (h : t.next? = some (x, t')) :
    x ∉ t.visited ∧ t'.order = t.order ∧ t'.visited = t.visited.insert x ∧
      ∃ seen, (∀ y ∈ seen, y ∈ t.visited) ∧ t.worklist = seen ++ x :: t'.worklist := by
  obtain ⟨⟨y, rest⟩, hfirst, he⟩ := Option.map_eq_some_iff.1 h
  obtain ⟨rfl, rfl⟩ := Prod.mk.inj he
  obtain ⟨hx, seen, hseen, hw⟩ := firstNew_eq_some hfirst
  exact ⟨hx, rfl, rfl, seen, hseen, hw⟩

theorem potential_lt {g : Graph α} {t t' : Traversal α} {x : α} (h : t.next? = some (x, t')) :
    (t'.pushAll (g.succ x)).potential g < t.potential g := by
  obtain ⟨hx, -, hvis, seen, -, hw⟩ := next?_eq_some h
  have hlen := length_worklist_pushAll t' (g.succ x)
  have hnew : ∀ a, (!(t.visited.insert x).contains a) = true → (!t.visited.contains a) = true := by
    intro a
    rw [ExtTreeSet.contains_insert]
    cases t.visited.contains a <;> simp
  have hold : (!t.visited.contains x) = true := by
    rw [Bool.eq_false_iff.2 fun h => hx (ExtTreeSet.contains_iff_mem.1 h)]
    rfl
  unfold potential
  rw [visited_pushAll, hvis, hw]
  simp only [List.length_append, List.length_cons]
  by_cases hmem : x ∈ g.nodes
  · have := load_add_le g.nodes (fun a => (g.succ a).length) hnew hmem hold (by simp)
    omega
  · have := load_le g.nodes (fun a => (g.succ a).length) hnew
    simp only [g.succ_eq_nil x hmem, List.length_nil] at hlen ⊢
    omega

/-- Takes items and pushes their successors until nothing new is left; the items in the order in
which they were taken, and the traversal at the end. -/
def drain (g : Graph α) (t : Traversal α) : List α × Traversal α :=
  match _h : t.next? with
  | none => ([], t)
  | some (x, t') =>
    let (xs, last) := drain g (t'.pushAll (g.succ x))
    (x :: xs, last)
termination_by t.potential g
decreasing_by exact potential_lt _h

end Traversal

namespace Graph

variable {α : Type} [Ord α] [TransOrd α]

def visitFrom (g : Graph α) (order : Order) (roots : List α) : List α :=
  ((Traversal.ofRoots order roots).drain g).1

def visit (g : Graph α) (order : Order) (root : α) : List α := g.visitFrom order [root]

end Graph

end FunctionalSize
