import FunctionalSize.Proofs.Traversal

set_option autoImplicit false

namespace FunctionalSize

open Std

namespace Traversal

inductive Request (α : Type) where
  | push (x : α)
  | next
deriving DecidableEq, Repr

inductive Event (α : Type) where
  | pushed (x : α)
  | yielded (x : α)
  | exhausted
deriving DecidableEq, Repr

section Logs

variable {α : Type}

def Event.request : Event α → Request α
  | pushed x => .push x
  | yielded _ => .next
  | exhausted => .next

def Event.yield? : Event α → Option α
  | yielded x => some x
  | pushed _ => none
  | exhausted => none

def yields (log : List (Event α)) : List α := log.filterMap Event.yield?

def Offered (root : α) (log : List (Event α)) (x : α) : Prop := x = root ∨ .pushed x ∈ log

/-- What the log must show for an event to follow it. -/
def Event.Justified (root : α) (log : List (Event α)) : Event α → Prop
  | pushed _ => True
  | yielded x => Offered root log x
  | exhausted => ∀ x, x ∈ yields log ↔ Offered root log x

def Explained (root : α) (log : List (Event α)) : Prop :=
  ∀ before e, before ++ [e] <+: log → e.Justified root before

theorem explained_nil (root : α) : Explained root [] := by
  intro before e h
  simp at h

theorem Explained.concat {root : α} {log : List (Event α)} {e : Event α}
    (hlog : Explained root log) (he : e.Justified root log) : Explained root (log ++ [e]) := by
  intro before e' h
  rcases List.prefix_concat_iff.1 h with hlast | hold
  · obtain ⟨rfl, hsame⟩ := List.append_inj' hlast rfl
    rw [List.cons.inj hsame |>.1]
    exact he
  · exact hlog before e' hold

theorem yields_pushed (log : List (Event α)) (x : α) :
    yields (log ++ [.pushed x]) = yields log := by
  simp [yields, Event.yield?]

theorem yields_yielded (log : List (Event α)) (x : α) :
    yields (log ++ [.yielded x]) = yields log ++ [x] := by
  simp [yields, Event.yield?]

theorem yields_exhausted (log : List (Event α)) : yields (log ++ [.exhausted]) = yields log := by
  simp [yields, Event.yield?]

end Logs

variable {α : Type} [Ord α]

structure History (α : Type) [Ord α] where
  log : List (Event α)
  now : Traversal α

namespace History

variable [TransOrd α]

/-- A traversal that is exhausted stays as it is: what waits in it is visited and is skipped
later. -/
def ask (h : History α) : Request α → History α
  | .push x => ⟨h.log ++ [.pushed x], h.now.push x⟩
  | .next =>
    match h.now.next? with
    | some (x, t) => ⟨h.log ++ [.yielded x], t⟩
    | none => ⟨h.log ++ [.exhausted], h.now⟩

def ofRequests (order : Order) (root : α) (requests : List (Request α)) : History α :=
  requests.foldl ask ⟨[], start order root⟩

theorem ask_next_of_some {h : History α} {x : α} {t : Traversal α}
    (hnext : h.now.next? = some (x, t)) : h.ask .next = ⟨h.log ++ [.yielded x], t⟩ := by
  rw [ask, hnext]

theorem ask_next_of_none {h : History α} (hnext : h.now.next? = none) :
    h.ask .next = ⟨h.log ++ [.exhausted], h.now⟩ := by
  rw [ask, hnext]

theorem requests_ask (h : History α) (request : Request α) :
    (h.ask request).log.map Event.request = h.log.map Event.request ++ [request] := by
  cases request with
  | push x => simp [ask, Event.request]
  | next =>
    cases hnext : h.now.next? with
    | none => simp [ask_next_of_none hnext, Event.request]
    | some taken => simp [ask_next_of_some hnext, Event.request]

theorem requests_foldl_ask (h : History α) (requests : List (Request α)) :
    (requests.foldl ask h).log.map Event.request = h.log.map Event.request ++ requests := by
  induction requests generalizing h with
  | nil => simp
  | cons request requests ih => simp [ih, requests_ask]

structure Consistent (root : α) (h : History α) : Prop where
  explained : Explained root h.log
  distinct : (yields h.log).Nodup
  visited : ∀ x, x ∈ h.now.visited ↔ x ∈ yields h.log
  count : h.now.visitedCount = (yields h.log).length
  met : ∀ x, h.now.Met x ↔ Offered root h.log x

theorem consistent_start (order : Order) (root : α) :
    Consistent root ⟨[], start order root⟩ where
  explained := explained_nil root
  distinct := List.nodup_nil
  visited x := by simp [start, ofRoots, yields]
  count := rfl
  met x := by simp [start, ofRoots, Met, Offered]

namespace Consistent

variable {root : α} {h : History α}

theorem push (hh : h.Consistent root) (x : α) : (h.ask (.push x)).Consistent root := by
  refine ⟨hh.explained.concat trivial, ?_, ?_, ?_, ?_⟩
  · rw [ask, yields_pushed]
    exact hh.distinct
  · intro y
    rw [ask, yields_pushed, visited_push]
    exact hh.visited y
  · rw [ask, yields_pushed, visitedCount, visited_push]
    exact hh.count
  · intro y
    rw [ask, met_push, hh.met]
    simp [Offered, or_assoc]

theorem exhausted (hh : h.Consistent root) (hnext : h.now.next? = none) :
    (h.ask .next).Consistent root := by
  -- whatever was offered is visited or waits, and what waits now is visited
  have hall : ∀ x, x ∈ yields h.log ↔ Offered root h.log x := by
    intro x
    rw [← hh.visited, ← hh.met]
    constructor
    · exact Or.inl
    · rintro (hx | hx)
      · exact hx
      · exact mem_visited_of_next?_eq_none hnext hx
  rw [ask_next_of_none hnext]
  refine ⟨hh.explained.concat hall, ?_, ?_, ?_, ?_⟩
  · rw [yields_exhausted]
    exact hh.distinct
  · rw [yields_exhausted]
    exact hh.visited
  · rw [yields_exhausted]
    exact hh.count
  · intro x
    rw [hh.met]
    simp [Offered]

variable [LawfulEqOrd α]

theorem yielded (hh : h.Consistent root) {x : α} {t : Traversal α}
    (hnext : h.now.next? = some (x, t)) : (h.ask .next).Consistent root := by
  obtain ⟨hnew, -, hvisited, -⟩ := next?_eq_some hnext
  have hfirst : x ∉ yields h.log := fun hx => hnew ((hh.visited x).2 hx)
  have hsize : (h.now.visited.insert x).size = h.now.visited.size + 1 := by
    rw [ExtTreeSet.size_insert, if_neg (mt ExtTreeSet.contains_iff_mem.1 hnew)]
  have hoffered : Offered root h.log x := (hh.met x).1 (met_of_next? hnext)
  rw [ask_next_of_some hnext]
  refine ⟨hh.explained.concat hoffered, ?_, ?_, ?_, ?_⟩
  · rw [yields_yielded, List.nodup_append]
    refine ⟨hh.distinct, List.pairwise_singleton _ x, ?_⟩
    rintro y hy z hz rfl
    exact hfirst (List.mem_singleton.1 hz ▸ hy)
  · intro y
    rw [mem_visited_next? hnext, hh.visited, yields_yielded, List.mem_append, List.mem_singleton,
      or_comm, eq_comm]
  · rw [visitedCount, hvisited, hsize, yields_yielded, List.length_append, List.length_singleton,
      ← hh.count, visitedCount]
  · intro y
    rw [met_next? hnext, hh.met]
    simp [Offered]

theorem ask (hh : h.Consistent root) (request : Request α) : (h.ask request).Consistent root := by
  cases request with
  | push x => exact hh.push x
  | next =>
    cases hnext : h.now.next? with
    | none => exact hh.exhausted hnext
    | some taken => exact hh.yielded hnext

theorem foldl_ask (hh : h.Consistent root) (requests : List (Request α)) :
    (requests.foldl History.ask h).Consistent root := by
  induction requests generalizing h with
  | nil => exact hh
  | cons request requests ih => exact ih (hh.ask request)

end Consistent

end History

variable [TransOrd α] [LawfulEqOrd α]

/-- Whatever is pushed and asked for, in whatever order: every request is answered; no item is
yielded twice, or before it was offered; the traversal knows what it yielded; and each time it says
that nothing is left, it has yielded exactly what it was offered until then. -/
theorem yields_exactly_offered (order : Order) (root : α)
    (requests : List (Request α)) :
    let h := History.ofRequests order root requests
    h.log.map Event.request = requests ∧
    (yields h.log).Nodup ∧
    (∀ before x, before ++ [.yielded x] <+: h.log → x = root ∨ .pushed x ∈ before) ∧
    h.now.visitedCount = (yields h.log).length ∧
    (∀ x, h.now.isVisited x = true ↔ x ∈ yields h.log) ∧
    (∀ before, before ++ [.exhausted] <+: h.log →
      ∀ x, x ∈ yields before ↔ x = root ∨ .pushed x ∈ before) := by
  intro h
  have hh : h.Consistent root := (History.consistent_start order root).foldl_ask requests
  refine ⟨History.requests_foldl_ask _ requests, hh.distinct, ?_, hh.count, ?_, ?_⟩
  · intro before x hx
    exact hh.explained before _ hx
  · intro x
    rw [isVisited, ExtTreeSet.contains_iff_mem]
    exact hh.visited x
  · intro before hbefore
    exact hh.explained before _ hbefore

def restlessClient : List (Request Nat) :=
  [.push 2, .push 2, .push 1, .next, .next, .next, .push 1, .push 3, .next, .next]

theorem yields_exactly_offered_restlessClient :
    let h := History.ofRequests .depthFirst 1 restlessClient
    h.log = [.pushed 2, .pushed 2, .pushed 1, .yielded 1, .yielded 2, .exhausted, .pushed 1,
      .pushed 3, .yielded 3, .exhausted] ∧
    (yields h.log).Nodup ∧ h.now.visitedCount = 3 ∧ h.now.isVisited 4 = false ∧
    ∀ x, x ∈ yields (h.log.take 5) ↔ x = 1 ∨ .pushed x ∈ h.log.take 5 := by
  intro h
  have hlog : h.log = [.pushed 2, .pushed 2, .pushed 1, .yielded 1, .yielded 2, .exhausted,
      .pushed 1, .pushed 3, .yielded 3, .exhausted] := by decide +kernel
  obtain ⟨-, hdistinct, -, hcount, hvisited, hexhausted⟩ :=
    yields_exactly_offered .depthFirst 1 restlessClient
  refine ⟨hlog, hdistinct, ?_, ?_, ?_⟩
  · rw [hcount, hlog]
    rfl
  · rw [← Bool.not_eq_true, hvisited, hlog]
    decide
  · apply hexhausted
    rw [hlog]
    exact ⟨_, rfl⟩

end Traversal

end FunctionalSize
