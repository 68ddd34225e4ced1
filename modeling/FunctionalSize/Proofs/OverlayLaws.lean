import FunctionalSize.Proofs.RuleOverlay

set_option autoImplicit false

namespace FunctionalSize

open Std

section Fragments

variable {lower upper : List String} {fragment : String}

theorem appendNew_cons (lower upper : List String) (fragment : String) :
    appendNew lower (fragment :: upper) = appendNew (appendNew lower [fragment]) upper := rfl

theorem appendNew_append (lower upper more : List String) :
    appendNew lower (upper ++ more) = appendNew (appendNew lower upper) more :=
  List.foldl_append

theorem appendNew_singleton_of_mem (h : fragment ∈ lower) : appendNew lower [fragment] = lower :=
  if_pos h

theorem appendNew_singleton_of_notMem (h : fragment ∉ lower) :
    appendNew lower [fragment] = lower ++ [fragment] := if_neg h

theorem appendNew_of_subset (h : upper ⊆ lower) : appendNew lower upper = lower := by
  induction upper with
  | nil => rfl
  | cons fragment upper ih =>
    obtain ⟨hfirst, hrest⟩ := List.cons_subset.1 h
    rw [appendNew_cons, appendNew_singleton_of_mem hfirst, ih hrest]

theorem appendNew_assoc (a b c : List String) :
    appendNew (appendNew a b) c = appendNew a (appendNew b c) := by
  induction c generalizing b with
  | nil => rfl
  | cons fragment c ih =>
    -- what `b` repeats is in `appendNew a b` too, and anything else comes last in both
    have hstep : appendNew (appendNew a b) [fragment] = appendNew a (appendNew b [fragment]) := by
      by_cases hb : fragment ∈ b
      · have hab : fragment ∈ appendNew a b := mem_appendNew.2 (Or.inr hb)
        rw [appendNew_singleton_of_mem hab, appendNew_singleton_of_mem hb]
      · rw [appendNew_singleton_of_notMem hb, appendNew_append]
    rw [appendNew_cons, hstep, ih, ← appendNew_cons]

theorem nodup_appendNew (h : lower.Nodup) : (appendNew lower upper).Nodup := by
  induction upper generalizing lower with
  | nil => exact h
  | cons fragment upper ih =>
    rw [appendNew_cons]
    apply ih
    by_cases hmem : fragment ∈ lower
    · rwa [appendNew_singleton_of_mem hmem]
    · rw [appendNew_singleton_of_notMem hmem]
      grind

theorem appendNew_of_nodup (h : (lower ++ upper).Nodup) :
    appendNew lower upper = lower ++ upper := by
  induction upper generalizing lower with
  | nil => exact (List.append_nil lower).symm
  | cons fragment upper ih =>
    have hnew : fragment ∉ lower := by grind
    rw [List.append_cons] at h ⊢
    rw [appendNew_cons, appendNew_singleton_of_notMem hnew, ih h]

theorem appendNew_nil_eq_iff : appendNew [] upper = upper ↔ upper.Nodup := by
  constructor
  · intro h
    rw [← h]
    exact nodup_appendNew List.nodup_nil
  · intro h
    exact appendNew_of_nodup h

end Fragments

namespace Verdicts

abbrev Names := ExtTreeMap String Bool

instance : Associative (fun a b : Names => a ∪ b) where
  assoc a b c := by
    ext name : 1
    simp only [ExtTreeMap.getElem?_union, Option.or_assoc]

instance : IdempotentOp (fun a b : Names => a ∪ b) where
  idempotent a := by
    ext name : 1
    rw [ExtTreeMap.getElem?_union, Option.or_self]

theorem getElem?_insert_union (lower : Verdicts) (package : String) (row : String × Names) :
    (lower.insert row.1 (lower.getD row.1 ∅ ∪ row.2))[package]? =
      lower[package]?.merge (· ∪ ·) (if row.1 = package then some row.2 else none) := by
  rw [ExtTreeMap.getElem?_insert]
  by_cases hpackage : row.1 = package
  · subst hpackage
    rw [if_pos ReflCmp.compare_self, if_pos rfl, ExtTreeMap.getD_eq_getD_getElem?]
    cases lower[row.1]? with
    | none =>
      rw [Option.getD_none, Option.merge_none_left]
      congr 1
      ext name : 1
      rw [ExtTreeMap.getElem?_union, ExtTreeMap.getElem?_empty, Option.or_none]
    | some names => rfl
  · rw [if_neg fun h => hpackage (LawfulEqOrd.eq_of_compare h), if_neg hpackage,
      Option.merge_none_right]

theorem getElem?_foldl (lower : Verdicts) (package : String) {rows : List (String × Names)}
    (hrows : rows.Pairwise fun a b => a.1 ≠ b.1) :
    (rows.foldl (fun acc row => acc.insert row.1 (acc.getD row.1 ∅ ∪ row.2)) lower)[package]? =
      lower[package]?.merge (· ∪ ·)
        (rows.findSome? fun row => if row.1 = package then some row.2 else none) := by
  induction rows generalizing lower with
  | nil => exact Option.merge_none_right.symm
  | cons row rows ih =>
    obtain ⟨hfirst, hrest⟩ := List.pairwise_cons.1 hrows
    rw [List.foldl_cons, ih _ hrest, getElem?_insert_union, List.findSome?_cons]
    by_cases hpackage : row.1 = package
    · have hnone : (rows.findSome? fun row => if row.1 = package then some row.2 else none)
          = none := by
        rw [List.findSome?_eq_none_iff]
        intro other hother
        exact if_neg fun h => hfirst other hother (hpackage.trans h.symm)
      rw [hnone, if_pos hpackage, Option.merge_none_right]
    · rw [if_neg hpackage, Option.merge_none_right]

theorem getElem?_overlay (lower upper : Verdicts) (package : String) :
    (lower.overlay upper)[package]? = lower[package]?.merge (· ∪ ·) upper[package]? := by
  have hrows : upper.toList.Pairwise fun a b => a.1 ≠ b.1 :=
    ExtTreeMap.distinct_keys_toList.imp fun hne heq => hne (LawfulEqCmp.compare_eq_iff_eq.2 heq)
  have hupper : (upper.toList.findSome? fun row => if row.1 = package then some row.2 else none)
      = upper[package]? := by
    apply findSome?_eq_of_agree
    · intro row hrow names hnames
      rw [Option.ite_none_right_eq_some, Option.some.injEq] at hnames
      obtain ⟨rfl, rfl⟩ := hnames
      exact ExtTreeMap.mem_toList_iff_getElem?_eq_some.1 hrow
    · intro names hnames
      exact ⟨_, ExtTreeMap.mem_toList_iff_getElem?_eq_some.2 hnames, if_pos rfl⟩
  rw [← hupper]
  exact getElem?_foldl lower package hrows

theorem overlay_assoc (a b c : Verdicts) : (a.overlay b).overlay c = a.overlay (b.overlay c) := by
  ext package : 1
  simp only [getElem?_overlay]
  exact Associative.assoc _ _ _

theorem overlay_self (a : Verdicts) : a.overlay a = a := by
  ext package : 1
  rw [getElem?_overlay]
  exact IdempotentOp.idempotent _

theorem overlay_empty (a : Verdicts) : a.overlay ∅ = a := by
  ext package : 1
  rw [getElem?_overlay, ExtTreeMap.getElem?_empty, Option.merge_none_right]

theorem empty_overlay (a : Verdicts) : overlay ∅ a = a := by
  ext package : 1
  rw [getElem?_overlay, ExtTreeMap.getElem?_empty, Option.merge_none_left]

end Verdicts

namespace RuleSet

theorem overlay_assoc (a b c : RuleSet) : (a.overlay b).overlay c = a.overlay (b.overlay c) := by
  simp only [overlay, Verdicts.overlay_assoc, appendNew_assoc]

theorem overlay_empty (a : RuleSet) : a.overlay empty = a := by
  simp only [overlay, empty, Verdicts.overlay_empty]
  rfl

theorem overlay_self (a : RuleSet) : a.overlay a = a := by
  simp only [overlay, Verdicts.overlay_self, appendNew_of_subset (List.Subset.refl _)]

theorem empty_overlay_eq_iff {a : RuleSet} :
    empty.overlay a = a ↔ a.suffixes.Nodup ∧ a.substrings.Nodup := by
  rw [← appendNew_nil_eq_iff, ← appendNew_nil_eq_iff]
  constructor
  · intro h
    exact ⟨congrArg suffixes h, congrArg substrings h⟩
  · rintro ⟨hsuffixes, hsubstrings⟩
    simp only [overlay, empty, Verdicts.empty_overlay, hsuffixes, hsubstrings]

end RuleSet

namespace Rulebook

theorem ext_set {a b : Rulebook} (h : ∀ c, a.set c = b.set c) : a = b := by
  have hregistration := h .registration
  have hread := h .read
  have hwrite := h .write
  have hexit := h .exit
  cases a
  cases b
  simp_all [set]

theorem set_empty (c : Category) : empty.set c = .empty := by cases c <;> rfl

theorem overlay_assoc (a b c : Rulebook) : (a.overlay b).overlay c = a.overlay (b.overlay c) := by
  apply ext_set
  intro category
  simp only [set_overlay, RuleSet.overlay_assoc]

theorem overlay_self (a : Rulebook) : a.overlay a = a := by
  apply ext_set
  intro category
  rw [set_overlay, RuleSet.overlay_self]

/-- Any grouping of overlays gives the same rulebook, and rules that are there already change
nothing. The empty rulebook is neutral on top; at the bottom it is neutral for exactly the rulebooks
that repeat no fragment. -/
theorem overlay_laws (a b c : Rulebook) :
    (a.overlay b).overlay c = a.overlay (b.overlay c) ∧
    a.overlay empty = a ∧
    a.overlay a = a ∧
    (a.overlay b).overlay b = a.overlay b ∧
    (empty.overlay a = a ↔
      ∀ category, (a.set category).suffixes.Nodup ∧ (a.set category).substrings.Nodup) := by
  refine ⟨overlay_assoc a b c, ?_, overlay_self a, ?_, ?_⟩
  · apply ext_set
    intro category
    rw [set_overlay, set_empty, RuleSet.overlay_empty]
  · rw [overlay_assoc, overlay_self]
  · have hset : empty.overlay a = a ↔
        ∀ category, RuleSet.empty.overlay (a.set category) = a.set category := by
      constructor
      · intro h category
        rw [← set_empty category, ← set_overlay, h]
      · intro h
        apply ext_set
        intro category
        rw [set_overlay, set_empty, h]
    simp only [hset, RuleSet.empty_overlay_eq_iff]

end Rulebook

end FunctionalSize
