set_option autoImplicit false

namespace FunctionalSize

open Std

theorem isLE_total {α : Type} (cmp : α → α → Ordering) [OrientedCmp cmp] (a b : α) :
    ((cmp a b).isLE || (cmp b a).isLE) = true := by
  cases h : (cmp a b).isLE with
  | true => rfl
  | false =>
    have hlt := OrientedCmp.lt_of_not_isLE (by simp [h] : ¬ (cmp a b).isLE = true)
    rw [hlt]
    rfl

/-- Items with equal keys keep the order that the list had before it was sorted. -/
theorem pairwise_mergeSort_stable {α : Type} {le : α → α → Bool} {lt : α → α → Prop}
    (htrans : ∀ a b c, le a b = true → le b c = true → le a c = true)
    (htotal : ∀ a b, (le a b || le b a) = true) {l : List α} (hl : l.Pairwise lt) :
    (l.mergeSort le).Pairwise fun a b => le a b = true ∧ (le b a = true → lt a b) := by
  induction l with
  | nil => simp
  | cons a l ih =>
    obtain ⟨hlt, htail⟩ := List.pairwise_cons.1 hl
    -- the sorted tail is cut into what stands before `a`, which is strictly below it, and the rest
    obtain ⟨before, after, hsort, hsplit, hbelow⟩ := List.mergeSort_cons htrans htotal a l
    have hsorted := List.pairwise_mergeSort htrans htotal (a :: l)
    have hrest := ih htail
    rw [hsort, List.pairwise_append, List.pairwise_cons] at hsorted
    rw [hsplit, List.pairwise_append] at hrest
    obtain ⟨-, ⟨hafter, -⟩, hacross⟩ := hsorted
    rw [hsort, List.pairwise_append, List.pairwise_cons]
    refine ⟨hrest.1, ⟨?_, hrest.2.1⟩, ?_⟩
    · intro c hc
      have hmem : c ∈ l := by
        rw [← List.mem_mergeSort, hsplit]
        exact List.mem_append_right _ hc
      exact ⟨hafter c hc, fun _ => hlt c hmem⟩
    · intro b hb c hc
      rcases List.mem_cons.1 hc with rfl | hc
      · refine ⟨hacross b hb c List.mem_cons_self, fun hle => ?_⟩
        have := hbelow b hb
        simp [hle] at this
      · exact hrest.2.2 b hb c hc

section

variable {α : Type} {le : α → α → Bool}
  (htrans : ∀ a b c, le a b = true → le b c = true → le a c = true)
  (htotal : ∀ a b, (le a b || le b a) = true)

include htrans htotal

theorem filter_mergeSort_of_ties {keep : α → Bool}
    (hties : ∀ a b, keep a = true → keep b = true → le a b = true) (l : List α) :
    (l.mergeSort le).filter keep = l.filter keep := by
  have hsorted : (l.filter keep).Pairwise fun a b => le a b = true :=
    List.pairwise_filter.2 (List.pairwise_of_forall hties)
  -- they are sorted already, so they are a part of the sorted list, and none are added to them
  have hsublist := (List.sublist_mergeSort htrans htotal hsorted List.filter_sublist).filter keep
  simp only [List.filter_filter, Bool.and_self] at hsublist
  exact (hsublist.eq_of_length ((List.mergeSort_perm l le).filter keep).length_eq.symm).symm

end

end FunctionalSize
