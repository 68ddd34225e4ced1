import FunctionalSize.Routine

set_option autoImplicit false

/-!
# Programs

A program is an arena of routines in load order with an index by identity and the set of packages
that define something. The two tables are determined by the arena, which is what the proof fields
say: `get?` finds exactly the routine with the given identity, and identities do not repeat.
-/

namespace FunctionalSize

open Std

structure Program where
  arena : Array Routine
  index : ExtTreeMap RoutineId Nat
  packages : ExtTreeSet String
  index_iff : ∀ id i, index[id]? = some i ↔ arena[i]?.map Routine.id = some id
  packages_iff : ∀ m, m ∈ packages ↔ ∃ r ∈ arena, r.id.package = m

namespace Program

def empty : Program where
  arena := #[]
  index := ∅
  packages := ∅
  index_iff := by simp
  packages_iff := by simp

def routines (p : Program) : List Routine := p.arena.toList

def ids (p : Program) : List RoutineId := p.routines.map Routine.id

def size (p : Program) : Nat := p.arena.size

def isEmpty (p : Program) : Bool := p.arena.isEmpty

def get? (p : Program) (id : RoutineId) : Option Routine :=
  p.index[id]?.bind (p.arena[·]?)

def contains (p : Program) (id : RoutineId) : Bool := p.index.contains id

def definesPackage (p : Program) (package : String) : Bool := p.packages.contains package

theorem get?_eq_some_iff {p : Program} {id : RoutineId} {r : Routine} :
    p.get? id = some r ↔ r ∈ p.routines ∧ r.id = id := by
  rw [get?, Option.bind_eq_some_iff, routines, Array.mem_toList_iff, Array.mem_iff_getElem?]
  constructor
  · rintro ⟨i, hi, hr⟩
    have h := (p.index_iff id i).1 hi
    rw [hr] at h
    exact ⟨⟨i, hr⟩, Option.some.inj h⟩
  · rintro ⟨⟨i, hr⟩, rfl⟩
    exact ⟨i, (p.index_iff r.id i).2 (by rw [hr]; rfl), hr⟩

theorem contains_iff {p : Program} {id : RoutineId} :
    p.contains id = true ↔ id ∈ p.ids := by
  rw [contains, ExtTreeMap.contains_iff_mem, ExtTreeMap.mem_iff_isSome_getElem?,
    Option.isSome_iff_exists, ids, List.mem_map]
  constructor
  · rintro ⟨i, hi⟩
    obtain ⟨r, hr, he⟩ := Option.map_eq_some_iff.1 ((p.index_iff id i).1 hi)
    exact ⟨r, Array.mem_toList_iff.2 (Array.mem_of_getElem? hr), he⟩
  · rintro ⟨r, hr, rfl⟩
    obtain ⟨i, hi⟩ := Array.mem_iff_getElem?.1 (Array.mem_toList_iff.1 hr)
    exact ⟨i, (p.index_iff r.id i).2 (by rw [hi]; rfl)⟩

theorem contains_iff_get? {p : Program} {id : RoutineId} :
    p.contains id = true ↔ ∃ r, p.get? id = some r := by
  rw [contains_iff, ids, List.mem_map]
  constructor
  · rintro ⟨r, hr, hid⟩
    exact ⟨r, get?_eq_some_iff.2 ⟨hr, hid⟩⟩
  · rintro ⟨r, hr⟩
    exact ⟨r, get?_eq_some_iff.1 hr⟩

theorem definesPackage_iff {p : Program} {m : String} :
    p.definesPackage m = true ↔ ∃ r ∈ p.routines, r.id.package = m := by
  rw [definesPackage, ExtTreeSet.contains_iff_mem, p.packages_iff]
  simp [routines]

theorem nodup_ids (p : Program) : p.ids.Nodup := by
  rw [ids, List.Nodup, List.pairwise_iff_getElem]
  intro i j hi hj hij heq
  rw [List.length_map] at hi hj
  rw [List.getElem_map, List.getElem_map] at heq
  have hat : ∀ k (hk : k < p.routines.length), p.arena[k]? = some p.routines[k] := by
    intro k hk
    simp [routines]
  have h₁ := (p.index_iff p.routines[i].id i).2 (by rw [hat i hi]; rfl)
  have h₂ := (p.index_iff p.routines[i].id j).2 (by rw [hat j hj, heq]; rfl)
  exact absurd (Option.some.inj (h₁.symm.trans h₂)) (Nat.ne_of_lt hij)

/-- Adds a routine at the end, or hands it back when its identity is already defined. -/
def add (p : Program) (r : Routine) : Except Routine Program :=
  if h : r.id ∈ p.index then .error r
  else .ok {
    arena := p.arena.push r
    index := p.index.insert r.id p.arena.size
    packages := p.packages.insert r.id.package
    index_iff := by
      intro id i
      have hnew : p.index[r.id]? = none := ExtTreeMap.getElem?_eq_none h
      rw [ExtTreeMap.getElem?_insert, Array.getElem?_push]
      by_cases hid : r.id = id
      · subst hid
        have hold : p.arena[i]?.map Routine.id ≠ some r.id := fun hc => by
          simp [(p.index_iff r.id i).2 hc] at hnew
        by_cases hi : i = p.arena.size
        · simp [hi]
        · simp [hi, hold, Ne.symm hi]
      · have hcmp : compare r.id id ≠ .eq := fun hc => hid (LawfulEqOrd.eq_of_compare hc)
        by_cases hi : i = p.arena.size
        · have := p.index_iff id p.arena.size
          simp_all
        · simp [hcmp, hi, p.index_iff]
    packages_iff := by
      intro m
      rw [ExtTreeSet.mem_insert, p.packages_iff]
      simp only [LawfulEqOrd.compare_eq_iff_eq, Array.mem_push]
      constructor
      · rintro (rfl | ⟨r', hr', rfl⟩)
        · exact ⟨r, .inr rfl, rfl⟩
        · exact ⟨r', .inl hr', rfl⟩
      · rintro ⟨r', hr' | rfl, rfl⟩
        · exact .inr ⟨r', hr', rfl⟩
        · exact .inl rfl }

def insertNew (p : Program) (r : Routine) : Program :=
  match p.add r with
  | .ok q => q
  | .error _ => p

/-- Scans all routines: flags those with the identity `id` as main entries, and counts them. -/
def markMain (p : Program) (id : RoutineId) : Program × Nat :=
  ({ p with
      arena := p.arena.map fun r => if r.id = id then r.asMain else r
      index_iff := by
        intro id' i
        rw [p.index_iff, Array.getElem?_map, Option.map_map]
        simp only [Function.comp_def, Routine.id_ite_asMain]
      packages_iff := by
        intro m
        rw [p.packages_iff]
        simp only [Array.mem_map]
        constructor
        · rintro ⟨r, hr, rfl⟩
          exact ⟨_, ⟨r, hr, rfl⟩, by rw [Routine.id_ite_asMain]⟩
        · rintro ⟨_, ⟨r, hr, rfl⟩, rfl⟩
          exact ⟨r, hr, by rw [Routine.id_ite_asMain]⟩ },
    p.arena.countP (·.id = id))

def mains (p : Program) : List Routine := p.routines.filter Routine.isMain

def callCount (p : Program) : Nat :=
  p.routines.foldl (fun count r => count + r.calls.length) 0

end Program

end FunctionalSize
