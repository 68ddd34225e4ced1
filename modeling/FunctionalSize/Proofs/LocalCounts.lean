import FunctionalSize.LocalCounts

set_option autoImplicit false

namespace FunctionalSize

open Std

def Classifier.carries (classifier : Classifier) (c : Category) (site : CallSite) : Bool :=
  site.callee.any fun target => (classifier.table c).accepts target

theorem Classifier.contains_label (classifier : Classifier) (c : Category) (site : CallSite) :
    (classifier.label site).contains c = classifier.carries c site := by
  unfold label carries
  cases site.callee with
  | none => exact Labels.contains_none c
  | some target => exact Labels.contains_ofPred _ c

theorem Classifier.count_foldl_record (classifier : Classifier) (c : Category)
    (sites : List CallSite) (m : Movements) :
    (sites.foldl (fun m site => m.record (classifier.label site)) m).count c
      = m.count c + sites.countP (classifier.carries c) := by
  induction sites generalizing m with
  | nil => rfl
  | cons site sites ih =>
    rw [List.foldl_cons, ih, Movements.record, Movements.count_add, Movements.count_ofLabels,
      contains_label, List.countP_cons]
    cases classifier.carries c site with
    | false => rfl
    | true =>
      simp only [Bool.toNat_true, ↓reduceIte]
      omega

theorem Routine.count_movements (r : Routine) (classifier : Classifier) (c : Category) :
    (r.movements classifier).count c = r.calls.countP (classifier.carries c) := by
  rw [movements, Classifier.count_foldl_record, Movements.count_zero, Nat.zero_add]

def Program.callsOf (p : Program) (id : RoutineId) : List CallSite :=
  match p.get? id with
  | some r => r.calls
  | none => []

namespace LocalCounts

variable {p : Program} {classifier : Classifier} {id : RoutineId}

theorem get_of_undefined (h : p.get? id = none) : (compute p classifier).get id = 0 := by
  have habsent : ((p.routines.map fun r => (r.id, r.movements classifier)).map
      Prod.fst).contains id = false := by
    rw [List.contains_eq_mem, decide_eq_false_iff_not, List.map_map]
    intro hmem
    obtain ⟨r, hr, hid⟩ := List.mem_map.1 hmem
    simp [Program.get?_eq_some_iff.2 ⟨hr, hid⟩] at h
  exact ExtTreeMap.getD_ofList_of_contains_eq_false habsent

theorem get_of_defined {r : Routine} (h : p.get? id = some r) :
    (compute p classifier).get id = r.movements classifier := by
  obtain ⟨hmem, rfl⟩ := Program.get?_eq_some_iff.1 h
  -- no two routines share an identity, so no later row hides this one
  have hdistinct : (p.routines.map fun r => (r.id, r.movements classifier)).Pairwise
      fun a b => ¬ compare a.1 b.1 = .eq := by
    have hnodup := p.nodup_ids
    rw [Program.ids, List.Nodup, List.pairwise_map] at hnodup
    rw [List.pairwise_map]
    exact hnodup.imp fun hne he => hne (LawfulEqOrd.eq_of_compare he)
  exact ExtTreeMap.getD_ofList_of_mem (LawfulEqOrd.compare_eq_iff_eq.2 rfl) hdistinct
    (List.mem_map_of_mem hmem)

theorem count_get (p : Program) (classifier : Classifier) (id : RoutineId) (c : Category) :
    ((compute p classifier).get id).count c = (p.callsOf id).countP (classifier.carries c) := by
  rw [Program.callsOf]
  cases hget : p.get? id with
  | none => rw [get_of_undefined hget, Movements.count_zero, List.countP_nil]
  | some r => rw [get_of_defined hget, Routine.count_movements]

end LocalCounts

def Program.IsEntry (p : Program) (classifier : Classifier) (id : RoutineId) : Prop :=
  (∃ r ∈ p.routines, r.isMain = true ∧ r.id = id) ∨
    ∃ r ∈ p.routines, ∃ site ∈ r.calls, classifier.carries .registration site = true ∧
      (.routine id ∈ site.args ∨ ∃ captures, .closure id captures ∈ site.args)

theorem CallSite.mem_callables {site : CallSite} {id : RoutineId} :
    id ∈ site.callables ↔
      .routine id ∈ site.args ∨ ∃ captures, .closure id captures ∈ site.args := by
  rw [callables, List.mem_filterMap]
  constructor
  · rintro ⟨arg, harg, hcallable⟩
    cases arg with
    | routine id' =>
      obtain rfl := Option.some.inj hcallable
      exact Or.inl harg
    | closure id' captures =>
      obtain rfl := Option.some.inj hcallable
      exact Or.inr ⟨captures, harg⟩
    | other => simp [Argument.callable?] at hcallable
  · rintro (harg | ⟨captures, harg⟩)
    · exact ⟨_, harg, rfl⟩
    · exact ⟨_, harg, rfl⟩

theorem Routine.mem_entries {r : Routine} {classifier : Classifier} {id : RoutineId} :
    id ∈ r.entries classifier ↔ (r.isMain = true ∧ r.id = id) ∨
      ∃ site ∈ r.calls, classifier.carries .registration site = true ∧ id ∈ site.callables := by
  rw [entries, List.mem_append, handlers, List.mem_flatMap]
  refine or_congr ?_ ?_
  · cases r.isMain <;> simp [eq_comm]
  · simp only [List.mem_filter, Classifier.isRegistration, Classifier.contains_label, and_assoc]

namespace EntrySet

theorem mem_foldl_insert {ids : List RoutineId} {s : EntrySet} {id : RoutineId} :
    id ∈ (ids.foldl insert s).members ↔ id ∈ s.members ∨ id ∈ ids := by
  induction ids generalizing s with
  | nil => simp
  | cons id' ids ih =>
    have hinsert : id ∈ (s.insert id').members ↔ id' = id ∨ id ∈ s.members := by
      rw [insert, ExtTreeSet.mem_insert, LawfulEqOrd.compare_eq_iff_eq]
    rw [List.foldl_cons, ih, hinsert, List.mem_cons]
    grind

theorem mem_detect {p : Program} {classifier : Classifier} {id : RoutineId} :
    id ∈ (detect p classifier).toList ↔ p.IsEntry classifier id := by
  have hempty : id ∉ empty.members := ExtTreeSet.not_mem_empty
  rw [toList, ExtTreeSet.mem_toList, detect, mem_foldl_insert, or_iff_right hempty,
    List.mem_flatMap]
  simp only [Routine.mem_entries, CallSite.mem_callables]
  constructor
  · rintro ⟨r, hr, hmain | hhandler⟩
    · exact Or.inl ⟨r, hr, hmain⟩
    · exact Or.inr ⟨r, hr, hhandler⟩
  · rintro (⟨r, hr, hmain⟩ | ⟨r, hr, hhandler⟩)
    · exact ⟨r, hr, Or.inl hmain⟩
    · exact ⟨r, hr, Or.inr hhandler⟩

end EntrySet

end FunctionalSize
