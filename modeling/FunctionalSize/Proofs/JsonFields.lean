import FunctionalSize.Proofs.JsonParser

set_option autoImplicit false

namespace FunctionalSize

namespace Json

theorem mapM_eq_some_map {α β : Type} {f : α → Option β} {g : α → β} {xs : List α}
    (h : ∀ x ∈ xs, f x = some (g x)) : xs.mapM f = some (xs.map g) := by
  induction xs with
  | nil => rfl
  | cons x xs ih =>
    have hx := h x List.mem_cons_self
    have hxs := ih fun y hy => h y (List.mem_cons_of_mem x hy)
    simp [List.mapM_cons, hx, hxs]

theorem asList?_map {α : Type} {read? : Json → Option α} {write : α → Json} {xs : List α}
    (h : ∀ x ∈ xs, read? (write x) = some x) : asList? read? (array (xs.map write)) = some xs := by
  have hread : (xs.map write).mapM read? = some (xs.map id) := by
    rw [List.mapM_map]
    exact mapM_eq_some_map h
  rw [asList?, hread, List.map_id]

theorem plain_array {α : Type} {write : α → Json} {xs : List α} {depth : Nat}
    (h : ∀ x ∈ xs, Plain depth (write x)) : Plain (depth + 1) (array (xs.map write)) :=
  .array (List.forall_mem_map.2 h)

theorem withDefault_asOption? {α : Type} {read? : Json → Option α} {write : α → Json}
    (h : ∀ x, read? (write x) = some x) (hnull : ∀ x, write x ≠ null) (o : Option α) :
    withDefault none (asOption? read?) (o.map write) = some o := by
  cases o with
  | none => rfl
  | some x =>
    have hread : asOption? read? (write x) = (read? (write x)).map some :=
      asOption?.eq_2 read? (write x) (hnull x)
    rw [Option.map_some, withDefault, hread, h x, Option.map_some]

def present (fields : List (String × Option Json)) : List (String × Json) :=
  fields.flatMap fun f => (f.2.map fun j => (f.1, j)).toList

section Present

variable {fields : List (String × Option Json)}

theorem mem_present {m : String × Json} :
    m ∈ present fields ↔ ∃ f ∈ fields, f.2.map (fun j => (f.1, j)) = some m := by
  simp [present]

theorem filter_present (h : (fields.map Prod.fst).Nodup) {f : String × Option Json}
    (hf : f ∈ fields) :
    (present fields).filter (·.1 == f.1) = (f.2.map fun j => (f.1, j)).toList := by
  induction fields with
  | nil => cases hf
  | cons first rest ih =>
    obtain ⟨hfirst, hrest⟩ := List.nodup_cons.1 h
    rw [present, List.flatMap_cons, List.filter_append, ← present]
    rcases List.mem_cons.1 hf with rfl | hf
    · have hothers : (present rest).filter (·.1 == f.1) = [] := by
        rw [List.filter_eq_nil_iff]
        intro m hm hkey
        obtain ⟨g, hg, hgm⟩ := mem_present.1 hm
        obtain ⟨j, -, rfl⟩ := Option.map_eq_some_iff.1 hgm
        exact hfirst (List.mem_map.2 ⟨g, hg, by simpa using hkey⟩)
      rw [hothers, List.append_nil]
      cases f.2 <;> simp
    · have hne : first.1 ≠ f.1 := by
        intro heq
        exact hfirst (List.mem_map.2 ⟨f, hf, heq.symm⟩)
      rw [ih hrest hf]
      cases first.2 <;> simp [hne]

theorem member?_present (h : (fields.map Prod.fst).Nodup) {f : String × Option Json}
    (hf : f ∈ fields) : member? f.1 (present fields) = some f.2 := by
  rw [member?, filter_present h hf]
  cases f.2 <;> rfl

theorem fields?_present (fields : List (String × Option Json)) (h : (fields.map Prod.fst).Nodup) :
    (object (present fields)).fields? (fields.map Prod.fst) = some (fields.map Prod.snd) := by
  rw [Json.fields?, List.mapM_map]
  exact mapM_eq_some_map fun f hf => member?_present h hf

theorem plain_present {depth : Nat} (h : ∀ f ∈ fields, ∀ j ∈ f.2, Plain depth j) :
    Plain (depth + 1) (object (present fields)) := by
  apply Plain.object
  intro m hm
  obtain ⟨f, hf, hmf⟩ := mem_present.1 hm
  obtain ⟨j, hj, rfl⟩ := Option.map_eq_some_iff.1 hmf
  exact h f hf j hj

end Present

end Json

end FunctionalSize
