import FunctionalSize.Program

set_option autoImplicit false

namespace FunctionalSize

open Std

namespace Program

variable {p q : Program} {r : Routine}

theorem ext_routines (h : p.routines = q.routines) : p = q := by
  obtain ⟨arena, index, packages, hindex, hpackages⟩ := p
  obtain ⟨arena', index', packages', hindex', hpackages'⟩ := q
  obtain rfl : arena = arena' := Array.toList_inj.1 h
  obtain rfl : index = index' := by
    apply ExtTreeMap.ext_getElem?
    intro id
    apply Option.ext
    intro i
    exact (hindex id i).trans (hindex' id i).symm
  obtain rfl : packages = packages' := by
    apply ExtTreeSet.ext_mem
    intro m
    exact (hpackages m).trans (hpackages' m).symm
  rfl

theorem length_routines (p : Program) : p.routines.length = p.size := Array.length_toList

theorem isEmpty_iff : p.isEmpty = true ↔ p.routines = [] := by
  rw [isEmpty, routines, Array.isEmpty_iff, Array.toList_eq_nil_iff]

theorem add_of_contains (h : p.contains r.id = true) : p.add r = .error r :=
  dif_pos (ExtTreeMap.contains_iff_mem.1 h)

theorem add_of_not_contains (h : p.contains r.id = false) :
    ∃ q, p.add r = .ok q ∧ q.routines = p.routines ++ [r] := by
  have hnew : r.id ∉ p.index := by
    intro hmem
    rw [contains, ExtTreeMap.contains_iff_mem.2 hmem] at h
    contradiction
  exact ⟨_, dif_neg hnew, Array.toList_push⟩

theorem routines_markMain (p : Program) (id : RoutineId) :
    (p.markMain id).1.routines = p.routines.map fun r => if r.id = id then r.asMain else r :=
  Array.toList_map

inductive Operation where
  | add (r : Routine)
  | insertNew (r : Routine)
  | markMain (id : RoutineId)
deriving DecidableEq, Repr, Inhabited

def Operation.offer? : Operation → Option Routine
  | add r => some r
  | insertNew r => some r
  | markMain _ => none

theorem Operation.eq_markMain {op : Operation} (hop : op.offer? = none) :
    ∃ marked, op = .markMain marked := by
  cases op with
  | markMain marked => exact ⟨marked, rfl⟩
  | add r | insertNew r => cases hop

def after (p : Program) : Operation → Program
  | .add r =>
    match p.add r with
    | .ok q => q
    | .error _ => p
  | .insertNew r => p.insertNew r
  | .markMain id => (p.markMain id).1

def ofOperations (ops : List Operation) : Program := ops.foldl after empty

def flagged (ops : List Operation) (r : Routine) : Routine :=
  if .markMain r.id ∈ ops then r.asMain else r

/-- The first routine offered as `id`, flagged if `id` was marked after that. -/
def firstOffer? (id : RoutineId) : List Operation → Option Routine
  | [] => none
  | op :: later =>
    match op.offer? with
    | some r => if r.id = id then some (flagged later r) else firstOffer? id later
    | none => firstOffer? id later

def offeredIds (ops : List Operation) : List RoutineId :=
  (ops.filterMap Operation.offer?).map Routine.id

theorem add_eq_error_iff {rejected : Routine} :
    p.add r = .error rejected ↔ p.contains r.id = true ∧ rejected = r := by
  cases hdefined : p.contains r.id with
  | true => simp [add_of_contains hdefined, eq_comm]
  | false =>
    obtain ⟨q, hadd, -⟩ := add_of_not_contains hdefined
    simp [hadd]

theorem add_eq_ok_iff :
    p.add r = .ok q ↔ p.contains r.id = false ∧ q.routines = p.routines ++ [r] := by
  cases hdefined : p.contains r.id with
  | true => simp [add_of_contains hdefined]
  | false =>
    obtain ⟨q', hadd, hroutines⟩ := add_of_not_contains hdefined
    rw [hadd, ← hroutines]
    constructor
    · intro h
      cases h
      exact ⟨rfl, rfl⟩
    · intro h
      rw [ext_routines h.2]

theorem after_add_of_contains (h : p.contains r.id = true) : p.after (.add r) = p := by
  simp only [after, add_of_contains h]

theorem routines_after_add (h : p.contains r.id = false) :
    (p.after (.add r)).routines = p.routines ++ [r] := by
  obtain ⟨q, hadd, hroutines⟩ := add_of_not_contains h
  simp only [after, hadd, hroutines]

theorem after_of_offer {op : Operation} (hop : op.offer? = some r) :
    p.after op = p.after (.add r) := by
  cases op with
  | markMain marked => simp [Operation.offer?] at hop
  | add offered => rw [Option.some.inj hop]
  | insertNew offered =>
    rw [← Option.some.inj hop]
    rfl

theorem get?_eq_find? (p : Program) (id : RoutineId) :
    p.get? id = p.routines.find? (·.id == id) := by
  cases hfind : p.routines.find? (·.id == id) with
  | none =>
    apply Option.eq_none_iff_forall_ne_some.2
    intro r hget
    obtain ⟨hmem, hid⟩ := get?_eq_some_iff.1 hget
    have hne := List.find?_eq_none.1 hfind r hmem
    simp [hid] at hne
  | some r =>
    have hid : r.id = id := by simpa using List.find?_some hfind
    exact get?_eq_some_iff.2 ⟨List.mem_of_find?_eq_some hfind, hid⟩

theorem isSome_get? (p : Program) (id : RoutineId) : (p.get? id).isSome = p.contains id := by
  rw [Bool.eq_iff_iff, Option.isSome_iff_exists, contains_iff_get?]

theorem get?_after_add (p : Program) (r : Routine) (id : RoutineId) :
    (p.after (.add r)).get? id = (p.get? id).or (if r.id = id then some r else none) := by
  cases hdefined : p.contains r.id with
  | true =>
    rw [after_add_of_contains hdefined]
    by_cases hid : r.id = id
    · obtain ⟨found, hfound⟩ := contains_iff_get?.1 (hid ▸ hdefined)
      rw [hfound, Option.some_or]
    · rw [if_neg hid, Option.or_none]
  | false =>
    rw [get?_eq_find?, routines_after_add hdefined, List.find?_append, ← get?_eq_find?]
    by_cases hid : r.id = id <;> simp [hid]

theorem get?_markMain (p : Program) (marked id : RoutineId) :
    (p.markMain marked).1.get? id =
      (p.get? id).map fun r => if r.id = marked then r.asMain else r := by
  have hsame : ((·.id == id) : Routine → Bool) ∘ (fun r => if r.id = marked then r.asMain else r)
      = (·.id == id) := by
    funext r
    simp
  rw [get?_eq_find?, get?_eq_find?, routines_markMain, List.find?_map, hsame]

theorem ids_markMain (p : Program) (id : RoutineId) : (p.markMain id).1.ids = p.ids := by
  rw [ids, routines_markMain, List.map_map, ids]
  simp only [Function.comp_def, Routine.id_ite_asMain]

theorem snd_markMain (p : Program) (id : RoutineId) :
    (p.markMain id).2 = if p.contains id = true then 1 else 0 := by
  have hcount : (p.markMain id).2 = p.ids.count id := by
    change p.arena.countP (·.id = id) = _
    rw [← Array.countP_toList, ids, List.count, List.countP_map]
    apply List.countP_congr
    intro r _
    simp
  rw [hcount, (nodup_ids p).count]
  simp only [contains_iff]

theorem markMain_markMain (p : Program) (id : RoutineId) :
    (p.markMain id).1.markMain id = p.markMain id := by
  apply Prod.ext
  · apply ext_routines
    rw [routines_markMain, routines_markMain, List.map_map]
    apply List.map_congr_left
    intro r _
    by_cases hr : r.id = id <;> simp [hr, Routine.asMain]
  · rw [snd_markMain, snd_markMain]
    simp only [contains_iff, ids_markMain]

section Flags

variable (later : List Operation) (r : Routine)

theorem flagged_nil : flagged [] r = r := by simp [flagged]

theorem flagged_markMain (marked : RoutineId) :
    flagged later (if r.id = marked then r.asMain else r) =
      flagged (.markMain marked :: later) r := by
  by_cases hr : r.id = marked
  · by_cases hlater : .markMain marked ∈ later <;> simp [flagged, hr, hlater, Routine.asMain]
  · simp [flagged, hr]

theorem flagged_of_offer {op : Operation} {offer : Routine} (hop : op.offer? = some offer) :
    flagged (op :: later) r = flagged later r := by
  cases op with
  | markMain marked => simp [Operation.offer?] at hop
  | add offered => simp [flagged]
  | insertNew offered => simp [flagged]

end Flags

/-- What is found after some operations: what was there before, flagged if it was marked, or else
the first offer. -/
theorem get?_foldl_after (p : Program) (ops : List Operation) (id : RoutineId) :
    (ops.foldl after p).get? id = ((p.get? id).map (flagged ops)).or (firstOffer? id ops) := by
  induction ops generalizing p with
  | nil => simp [firstOffer?, funext flagged_nil]
  | cons op later ih =>
    rw [List.foldl_cons, ih]
    cases hop : op.offer? with
    | none =>
      obtain ⟨marked, rfl⟩ := Operation.eq_markMain hop
      have hflag := funext fun r => flagged_markMain later r marked
      simp only [after, get?_markMain, Option.map_map, firstOffer?, hop, ← hflag]
      rfl
    | some r =>
      have hflag : flagged (op :: later) = flagged later :=
        funext fun kept => flagged_of_offer later kept hop
      rw [after_of_offer hop, get?_after_add, hflag, Option.map_or, Option.or_assoc]
      by_cases hid : r.id = id <;> simp [firstOffer?, hop, hid]

theorem ids_after_add (p : Program) (r : Routine) :
    (p.after (.add r)).ids = p.ids ++ [r.id].removeAll p.ids := by
  cases hdefined : p.contains r.id with
  | true =>
    have hmem := contains_iff.1 hdefined
    rw [after_add_of_contains hdefined]
    simp [List.removeAll, hmem]
  | false =>
    have hmem : r.id ∉ p.ids := by simp [← contains_iff, hdefined]
    rw [ids, routines_after_add hdefined, List.map_append, ← ids]
    simp [List.removeAll, hmem]

theorem offeredIds_cons_markMain (marked : RoutineId) (later : List Operation) :
    offeredIds (.markMain marked :: later) = offeredIds later := rfl

theorem offeredIds_cons_of_offer {op : Operation} {r : Routine} (hop : op.offer? = some r)
    (later : List Operation) : offeredIds (op :: later) = r.id :: offeredIds later := by
  simp [offeredIds, hop]

theorem ids_foldl_after (p : Program) (ops : List Operation) :
    (ops.foldl after p).ids = p.ids ++ ((offeredIds ops).removeAll p.ids).eraseDups := by
  induction ops generalizing p with
  | nil => simp [offeredIds, List.removeAll]
  | cons op later ih =>
    rw [List.foldl_cons, ih]
    cases hop : op.offer? with
    | none =>
      obtain ⟨marked, rfl⟩ := Operation.eq_markMain hop
      rw [after, ids_markMain, offeredIds_cons_markMain]
    | some r =>
      rw [after_of_offer hop, ids_after_add, offeredIds_cons_of_offer hop]
      by_cases hmem : r.id ∈ p.ids
      · simp [List.removeAll, hmem]
      · have hrest : (offeredIds later).removeAll (p.ids ++ [r.id])
            = ((offeredIds later).removeAll p.ids).filter (fun id => !id == r.id) := by
          simp only [List.removeAll, List.filter_filter]
          apply List.filter_congr
          intro id _
          by_cases hid : id = r.id <;> simp [hid, hmem]
        have hnew : [r.id].removeAll p.ids = [r.id] := by simp [List.removeAll, hmem]
        have hkept : (r.id :: offeredIds later).removeAll p.ids
            = r.id :: (offeredIds later).removeAll p.ids := by
          simp [List.removeAll, hmem]
        rw [hnew, hrest, hkept, List.eraseDups_cons, List.append_assoc, List.singleton_append]

/-- A program after a sequence of operations. -/
structure Built (ops : List Operation) (p : Program) : Prop where
  distinct : p.ids.Nodup
  ids : p.ids = (offeredIds ops).eraseDups
  found : ∀ id, p.get? id = firstOffer? id ops
  contains_get : ∀ id, p.contains id = (p.get? id).isSome
  contains_mem : ∀ id, p.contains id = true ↔ ∃ r ∈ p.routines, r.id = id
  packages : ∀ m, p.definesPackage m = true ↔ ∃ r ∈ p.routines, r.id.package = m
  accepted : ∀ r q, p.add r = .ok q ↔ p.contains r.id = false ∧ q.routines = p.routines ++ [r]
  rejected : ∀ r r', p.add r = .error r' ↔ p.contains r.id = true ∧ r' = r
  unchanged : ∀ r, p.contains r.id = true → p.after (.add r) = p ∧ p.after (.insertNew r) = p
  marked : ∀ id, (p.markMain id).2 = if p.contains id = true then 1 else 0
  flags : ∀ id, (p.markMain id).1.routines =
    p.routines.map fun r => if r.id = id then { r with isMain := true } else r
  idempotent : ∀ id, (p.markMain id).1.markMain id = p.markMain id

theorem built_ofOperations (ops : List Operation) : Built ops (ofOperations ops) where
  distinct := nodup_ids _
  ids := by
    have hids := ids_foldl_after empty ops
    have hnone : ((offeredIds ops).removeAll empty.ids) = offeredIds ops := by
      simp [List.removeAll, ids, routines, empty]
    rw [hnone] at hids
    exact hids
  found id := by
    have hnone : empty.get? id = none := by simp [get?, empty]
    rw [ofOperations, get?_foldl_after, hnone, Option.map_none, Option.none_or]
  contains_get id := (isSome_get? _ id).symm
  contains_mem id := by rw [contains_iff, ids, List.mem_map]
  packages m := definesPackage_iff
  accepted r q := add_eq_ok_iff
  rejected r r' := add_eq_error_iff
  unchanged r h := ⟨after_add_of_contains h, after_add_of_contains h⟩
  marked id := snd_markMain _ id
  flags id := routines_markMain _ id
  idempotent id := markMain_markMain _ id

end Program

end FunctionalSize
