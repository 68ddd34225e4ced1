import FunctionalSize.Proofs.EdgeProvenance
import FunctionalSize.Proofs.Reach

set_option autoImplicit false

/-!
# The worklist loops end

A loop is given here round by round, and a round takes one place of the worklist. Only visited
items are refused, so an item may wait in several places, and a round may queue more than it takes.
What falls in every round is the `potential`: the place of a visited item is dropped and counts one,
and a new item takes its out-degree out of the sum before its successors are queued. Library
routines, which the static walk meets too, have no successors and cost a round for each place.

Each loop ends with what the analysis takes from it, after no more rounds than there are roots and
arcs.
-/

namespace FunctionalSize

open Std

section Rounds

variable {σ ρ : Type}

inductive Round (σ ρ : Type) where
  | next (s : σ)
  | done (r : ρ)

/-- The loop from a state goes on for `n` rounds and ends with a result in the one after them. -/
inductive EndsIn (body : σ → Round σ ρ) : Nat → σ → ρ → Prop
  | done {s : σ} {r : ρ} : body s = .done r → EndsIn body 0 s r
  | next {n : Nat} {s s' : σ} {r : ρ} :
      body s = .next s' → EndsIn body n s' r → EndsIn body (n + 1) s r

theorem exists_endsIn (body : σ → Round σ ρ) (measure : σ → Nat) (result : σ → ρ)
    (hbody : ∀ s, body s = .done (result s) ∨
      ∃ s', body s = .next s' ∧ measure s' < measure s ∧ result s' = result s) (s : σ) :
    ∃ n ≤ measure s, EndsIn body n s (result s) := by
  induction hm : measure s using Nat.strong_induction_on generalizing s with
  | _ m ih =>
    rcases hbody s with hdone | ⟨s', hnext, hlt, hresult⟩
    · exact ⟨0, Nat.zero_le m, .done hdone⟩
    · obtain ⟨n, hn, hends⟩ := ih (measure s') (hm ▸ hlt) s' rfl
      rw [hresult] at hends
      exact ⟨n + 1, by omega, .next hnext hends⟩

end Rounds

def Graph.arcCount {α : Type} (g : Graph α) : Nat := (g.nodes.flatMap g.succ).length

namespace Traversal

variable {α β : Type} [Ord α] [TransOrd α]

/-- The first place of a worklist: there is none, it holds a visited item, or it holds a new one,
which is marked. -/
inductive Pop (α : Type) [Ord α] where
  | empty
  | stale (t : Traversal α)
  | fresh (x : α) (t : Traversal α)

def pop (t : Traversal α) : Pop α :=
  match t.worklist with
  | [] => .empty
  | x :: rest =>
    if x ∈ t.visited then .stale { t with worklist := rest }
    else .fresh x { t with visited := t.visited.insert x, worklist := rest }

theorem pop_spec (g : Graph α) (t : Traversal α) :
    match t.pop with
    | .empty => t.next? = none
    | .stale t' => t'.next? = t.next? ∧ t'.potential g < t.potential g
    | .fresh x t' => t.next? = some (x, t') := by
  unfold pop next? potential
  cases hworklist : t.worklist with
  | nil => simp [firstNew]
  | cons x rest => by_cases hx : x ∈ t.visited <;> simp [firstNew, hx]

omit [Ord α] [TransOrd α] in
theorem load_le_length_flatMap (f : α → List α) (test : α → Bool) (l : List α) :
    load (fun a => (f a).length) test l ≤ (l.flatMap f).length := by
  induction l with
  | nil => exact Nat.le_refl 0
  | cons a l ih =>
    rw [load, List.flatMap_cons, List.length_append]
    split <;> omega

theorem potential_ofRoots_le (g : Graph α) (order : Order) (roots : List α) :
    (ofRoots order roots).potential g ≤ g.arcCount + roots.length :=
  Nat.add_le_add_right (load_le_length_flatMap g.succ _ g.nodes) _

/-- Whatever is pushed is queued in a place of its own unless it was visited, whether or not it
waits already. -/
theorem worklist_pushAll_perm (t : Traversal α) (xs : List α) :
    (t.pushAll xs).worklist.Perm (t.worklist ++ xs.filter fun x => x ∉ t.visited) := by
  rw [pushAll_eq]
  cases t.order with
  | breadthFirst => exact .refl _
  | depthFirst => exact ((List.reverse_perm _).append_right _).trans List.perm_append_comm

def walkRound (g : Graph α) (record : β → α → β) (s : β × Traversal α) :
    Round (β × Traversal α) β :=
  match s.2.pop with
  | .empty => .done s.1
  | .stale t => .next (s.1, t)
  | .fresh x t => .next (record s.1 x, t.pushAll (g.succ x))

theorem drain_of_next?_eq_none {g : Graph α} {t : Traversal α} (h : t.next? = none) :
    (t.drain g).1 = [] := by
  rw [drain]
  split
  · rfl
  · next hsome => simp [h] at hsome

theorem drain_of_next?_eq_some {g : Graph α} {t t' : Traversal α} {x : α}
    (h : t.next? = some (x, t')) :
    (t.drain g).1 = x :: ((t'.pushAll (g.succ x)).drain g).1 := by
  rw [drain]
  split
  · next hnone => simp [h] at hnone
  · next hsome =>
    obtain ⟨rfl, rfl⟩ := Prod.mk.inj (Option.some.inj (h.symm.trans hsome))
    rfl

theorem drain_congr {g : Graph α} {t t' : Traversal α} (h : t'.next? = t.next?) :
    (t'.drain g).1 = (t.drain g).1 := by
  cases hnext : t.next? with
  | none => rw [drain_of_next?_eq_none hnext, drain_of_next?_eq_none (h.trans hnext)]
  | some taken => rw [drain_of_next?_eq_some hnext, drain_of_next?_eq_some (h.trans hnext)]

theorem exists_endsIn_walkRound (g : Graph α) (record : β → α → β) (found : β)
    (t : Traversal α) :
    ∃ n ≤ t.potential g,
      EndsIn (walkRound g record) n (found, t) ((t.drain g).1.foldl record found) := by
  -- what is still to be recorded is what `drain` takes; dropping a stale place leaves it as it is
  refine exists_endsIn (walkRound g record) (fun s => s.2.potential g)
    (fun s => (s.2.drain g).1.foldl record s.1) ?_ (found, t)
  rintro ⟨found, t⟩
  have hspec := t.pop_spec g
  cases hpop : t.pop with
  | empty =>
    rw [hpop] at hspec
    left
    simp [walkRound, hpop, drain_of_next?_eq_none hspec]
  | stale t' =>
    rw [hpop] at hspec
    obtain ⟨hnext, hlt⟩ := hspec
    right
    refine ⟨(found, t'), by rw [walkRound, hpop], hlt, ?_⟩
    simp only [drain_congr hnext]
  | fresh x t' =>
    rw [hpop] at hspec
    right
    refine ⟨(record found x, t'.pushAll (g.succ x)), by rw [walkRound, hpop],
      potential_lt hspec, ?_⟩
    simp only [drain_of_next?_eq_some hspec, List.foldl_cons]

theorem walk_endsIn (g : Graph α) (record : β → α → β) (found : β) (order : Order)
    (roots : List α) :
    ∃ n ≤ g.arcCount + roots.length,
      EndsIn (walkRound g record) n (found, ofRoots order roots)
        ((g.visitFrom order roots).foldl record found) := by
  obtain ⟨n, hn, hends⟩ := exists_endsIn_walkRound g record found (ofRoots order roots)
  exact ⟨n, hn.trans (potential_ofRoots_le g order roots), hends⟩

end Traversal

def Reach.addDefined (p : Program) (counts : LocalCounts) (reach : Reach) (id : RoutineId) :
    Reach :=
  if p.contains id then reach.add counts id else reach

namespace Program

def staticRound (p : Program) (counts : LocalCounts) :
    Reach × Traversal RoutineId → Round (Reach × Traversal RoutineId) Reach :=
  Traversal.walkRound p.staticGraph (Reach.addDefined p counts)

theorem length_staticSuccessors_le {p : Program} {r : Routine} (hr : r ∈ p.routines) :
    (p.staticSuccessors r.id).length ≤ r.calls.length := by
  rw [staticSuccessors, get?_eq_some_iff.2 ⟨hr, rfl⟩]
  exact List.length_filterMap_le _ _

theorem length_flatMap_staticSuccessors_le {p : Program} {routines : List Routine} {count : Nat}
    (h : ∀ r ∈ routines, r ∈ p.routines) :
    count + ((routines.map Routine.id).flatMap p.staticSuccessors).length
      ≤ routines.foldl (fun count r => count + r.calls.length) count := by
  induction routines generalizing count with
  | nil => simp
  | cons r routines ih =>
    have hr := length_staticSuccessors_le (h r List.mem_cons_self)
    have hrest := @ih (count + r.calls.length) fun r' hr' => h r' (List.mem_cons_of_mem r hr')
    rw [List.map_cons, List.flatMap_cons, List.length_append, List.foldl_cons]
    omega

theorem arcCount_staticGraph_le (p : Program) : p.staticGraph.arcCount ≤ p.callCount := by
  rw [← Nat.zero_add p.staticGraph.arcCount]
  exact length_flatMap_staticSuccessors_le fun r hr => hr

theorem staticRound_endsIn (p : Program) (counts : LocalCounts) (root : RoutineId) :
    ∃ n ≤ p.callCount + 1,
      EndsIn (p.staticRound counts) n (.empty, .start .depthFirst root)
        (p.staticReach counts root) := by
  obtain ⟨n, hn, hends⟩ := Traversal.walk_endsIn p.staticGraph (Reach.addDefined p counts)
    .empty .depthFirst [root]
  refine ⟨n, hn.trans (Nat.add_le_add_right p.arcCount_staticGraph_le 1), ?_⟩
  rw [staticReach, Reach.ofWalk, staticWalk, List.foldl_filter]
  exact hends

end Program

namespace CallGraph

def walkRound (g : CallGraph) (counts : LocalCounts) :
    Reach × Traversal RoutineId → Round (Reach × Traversal RoutineId) Reach :=
  Traversal.walkRound g.toGraph (Reach.add counts)

theorem arcCount_toGraph (g : CallGraph) : g.toGraph.arcCount = g.edgeCount := by
  have hnodup : g.toGraph.nodes.Nodup := ExtTreeMap.nodup_keys
  rw [edgeCount_eq_sum, List.sum_toFinset _ hnodup, Graph.arcCount, List.length_flatMap]
  rfl

theorem walkRound_endsIn {g : CallGraph} {root : RoutineId} (hroot : g.contains root = true)
    (p : Program) (counts : LocalCounts) :
    ∃ n ≤ g.edgeCount + 1,
      EndsIn (g.walkRound counts) n (.empty, .start .breadthFirst root)
        (g.reach p counts root) := by
  obtain ⟨n, hn, hends⟩ := Traversal.walk_endsIn g.toGraph (Reach.add counts) .empty
    .breadthFirst [root]
  rw [g.arcCount_toGraph] at hn
  refine ⟨n, hn, ?_⟩
  rw [reach, walk, walk?, if_pos hroot, Option.getD_some]
  exact hends

namespace Draft

def round (oracle : Oracle) (p : Program) (d : Draft) : Round Draft (Except Error CallGraph) :=
  match d.agenda.pop with
  | .empty => .done (.ok d.graph)
  | .stale agenda => .next ⟨d.graph, agenda⟩
  | .fresh caller agenda =>
    match expand oracle p ⟨d.graph, agenda⟩ caller with
    | .ok d' => .next d'
    | .error e => .done (.error e)

theorem complete_congr {oracle : Oracle} {p : Program} {d d' : Draft} (hgraph : d'.graph = d.graph)
    (hnext : d'.agenda.next? = d.agenda.next?) :
    d'.complete oracle p = d.complete oracle p := by
  cases h : d.agenda.next? with
  | none =>
    rw [complete_of_next?_eq_none h, complete_of_next?_eq_none (hnext.trans h), hgraph]
  | some taken =>
    rw [complete_of_next?_eq_some h, complete_of_next?_eq_some (hnext.trans h), hgraph]

theorem exists_endsIn_round (oracle : Oracle) (p : Program) (d : Draft) :
    ∃ n ≤ d.agenda.potential (p.resolvedGraph oracle),
      EndsIn (round oracle p) n d (d.complete oracle p) := by
  refine exists_endsIn (round oracle p) (fun d => d.agenda.potential (p.resolvedGraph oracle))
    (complete oracle p) ?_ d
  intro d
  have hspec := d.agenda.pop_spec (p.resolvedGraph oracle)
  cases hpop : d.agenda.pop with
  | empty =>
    rw [hpop] at hspec
    left
    rw [round, hpop, complete_of_next?_eq_none hspec]
  | stale agenda =>
    rw [hpop] at hspec
    obtain ⟨hnext, hlt⟩ := hspec
    right
    exact ⟨⟨d.graph, agenda⟩, by rw [round, hpop], hlt, complete_congr rfl hnext⟩
  | fresh caller agenda =>
    rw [hpop] at hspec
    rw [complete_of_next?_eq_some hspec]
    cases hexpand : expand oracle p ⟨d.graph, agenda⟩ caller with
    | error e =>
      left
      simp only [round, hpop, hexpand, Except.bind]
    | ok d' =>
      have hlt := Traversal.potential_lt (g := p.resolvedGraph oracle) hspec
      right
      refine ⟨d', by simp only [round, hpop, hexpand], ?_, rfl⟩
      rw [agenda_expand hexpand]
      exact hlt

theorem round_endsIn (oracle : Oracle) (p : Program) :
    ∃ n ≤ (p.resolvedGraph oracle).arcCount + p.mains.length,
      EndsIn (round oracle p) n (.start p) (build p oracle) := by
  obtain ⟨n, hn, hends⟩ := exists_endsIn_round oracle p (.start p)
  have hstart := Traversal.potential_ofRoots_le (p.resolvedGraph oracle) .breadthFirst
    (p.mains.map Routine.id)
  rw [List.length_map] at hstart
  exact ⟨n, hn.trans hstart, hends⟩

end Draft

end CallGraph

namespace Program

/-- The walks and the construction of a call graph end for every program, root and oracle, each
with the result that the analysis takes from it. They end although a routine that waits is queued
again each time it is pushed. -/
theorem worklist_loops_end (p : Program) (counts : LocalCounts) (oracle : Oracle) :
    (∀ (t : Traversal RoutineId) (ids : List RoutineId),
      (t.pushAll ids).worklist.Perm (t.worklist ++ ids.filter fun id => id ∉ t.visited)) ∧
    (∀ root, ∃ n ≤ p.callCount + 1,
      EndsIn (p.staticRound counts) n (.empty, .start .depthFirst root)
        (p.staticReach counts root)) ∧
    (∃ n ≤ (p.resolvedGraph oracle).arcCount + p.mains.length,
      EndsIn (CallGraph.Draft.round oracle p) n (.start p) (CallGraph.build p oracle)) ∧
    (∀ g, CallGraph.build p oracle = .ok g → ∀ root, g.contains root = true →
      ∃ n ≤ g.edgeCount + 1,
        EndsIn (g.walkRound counts) n (.empty, .start .breadthFirst root)
          (g.reach p counts root)) := by
  refine ⟨Traversal.worklist_pushAll_perm, p.staticRound_endsIn counts,
    CallGraph.Draft.round_endsIn oracle p, ?_⟩
  intro g _ root hroot
  exact CallGraph.walkRound_endsIn hroot p counts

def recursive : Program :=
  [{ id := ⟨"main", "main"⟩, isMain := true, calls := [
       { callee := some ⟨"main", "serve"⟩ }, { callee := some ⟨"main", "serve"⟩ },
       { callee := some ⟨"main", "main"⟩ }, { callee := some ⟨"os", "Exit"⟩ }, {}] },
   { id := ⟨"main", "serve"⟩, calls := [
       { callee := some ⟨"main", "work"⟩ }, { callee := some ⟨"main", "serve"⟩ },
       { callee := some ⟨"main", "work"⟩ }, {}] },
   { id := ⟨"main", "work"⟩, calls := [{}, { callee := some ⟨"main", "serve"⟩ }] }].foldl
    Program.insertNew .empty

/-- Answers with a routine that is not defined, the same routine twice, and the caller. -/
def carelessOracle : Oracle where
  name := "careless"
  feasible _ caller _ :=
    .ok [⟨"lib", "ghost"⟩, ⟨"main", "serve"⟩, ⟨"main", "serve"⟩, caller]

theorem worklist_loops_end_recursive :
    ∃ g, CallGraph.build recursive carelessOracle = .ok g ∧ g.contains ⟨"main", "main"⟩ = true ∧
    ((Traversal.start .depthFirst (⟨"main", "work"⟩ : RoutineId)).pushAll
      [⟨"main", "work"⟩, ⟨"main", "serve"⟩]).worklist.Perm
        [⟨"main", "work"⟩, ⟨"main", "work"⟩, ⟨"main", "serve"⟩] ∧
    (∃ n ≤ 12, EndsIn (recursive.staticRound ⟨∅⟩) n (.empty, .start .depthFirst ⟨"main", "main"⟩)
      (recursive.staticReach ⟨∅⟩ ⟨"main", "main"⟩)) ∧
    (∃ n ≤ 17,
      EndsIn (CallGraph.Draft.round carelessOracle recursive) n (.start recursive) (.ok g)) ∧
    (∃ n ≤ 7, EndsIn (g.walkRound ⟨∅⟩) n (.empty, .start .breadthFirst ⟨"main", "main"⟩)
      (g.reach recursive ⟨∅⟩ ⟨"main", "main"⟩)) := by
  have heval : (CallGraph.build recursive carelessOracle).toOption.map
      (fun g => (g.contains ⟨"main", "main"⟩, g.edgeCount)) = some (true, 6) := by decide +kernel
  have hcalls : recursive.callCount + 1 = 12 := by decide +kernel
  have harcs : (recursive.resolvedGraph carelessOracle).arcCount + recursive.mains.length = 17 := by
    decide +kernel
  obtain ⟨hqueue, hstatic, hbuilt, hwalk⟩ := recursive.worklist_loops_end ⟨∅⟩ carelessOracle
  cases hbuild : CallGraph.build recursive carelessOracle with
  | error e => simp [hbuild, Except.toOption] at heval
  | ok g =>
    simp only [hbuild, Except.toOption, Option.map_some, Option.some.injEq, Prod.mk.injEq] at heval
    have hmain := hstatic ⟨"main", "main"⟩
    have hreach := hwalk g hbuild ⟨"main", "main"⟩ heval.1
    rw [hcalls] at hmain
    rw [harcs, hbuild] at hbuilt
    rw [show g.edgeCount + 1 = 7 by rw [heval.2]] at hreach
    refine ⟨g, rfl, heval.1, ?_, hmain, hbuilt, hreach⟩
    exact hqueue (.start .depthFirst ⟨"main", "work"⟩) [⟨"main", "work"⟩, ⟨"main", "serve"⟩]

end Program

end FunctionalSize
