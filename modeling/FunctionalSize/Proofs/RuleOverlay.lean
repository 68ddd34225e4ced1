import FunctionalSize.Classifier
import FunctionalSize.Proofs.RuleTable

set_option autoImplicit false

namespace FunctionalSize

open Std

theorem mem_appendNew {lower upper : List String} {fragment : String} :
    fragment ∈ appendNew lower upper ↔ fragment ∈ lower ∨ fragment ∈ upper := by
  induction upper generalizing lower with
  | nil => simp [appendNew]
  | cons first upper ih =>
    have hstep : fragment ∈ (if first ∈ lower then lower else lower ++ [first]) ↔
        fragment ∈ lower ∨ fragment = first := by
      split
      · next hfirst =>
        constructor
        · exact Or.inl
        · rintro (h | rfl)
          · exact h
          · exact hfirst
      · simp
    rw [appendNew, List.foldl_cons]
    change fragment ∈ appendNew _ upper ↔ _
    rw [ih, hstep, List.mem_cons, or_assoc]

namespace Verdicts

theorem find?_insert_union (lower : Verdicts) (package name : String)
    (row : String × ExtTreeMap String Bool) :
    find? (lower.insert row.1 (lower.getD row.1 ∅ ∪ row.2)) package name =
      (if row.1 = package then row.2[name]? else none).or (lower.find? package name) := by
  rw [find?, find?, ExtTreeMap.getElem?_insert]
  by_cases hpackage : row.1 = package
  · have hlower : (lower.getD row.1 ∅)[name]? = lower[row.1]?.bind (·[name]?) := by
      rw [ExtTreeMap.getD_eq_getD_getElem?]
      cases lower[row.1]? with
      | none => exact ExtTreeMap.getElem?_empty
      | some names => rfl
    rw [← hpackage, if_pos ReflCmp.compare_self, if_pos rfl, Option.bind_some,
      ExtTreeMap.getElem?_union, hlower]
  · rw [if_neg fun h => hpackage (LawfulEqOrd.eq_of_compare h), if_neg hpackage, Option.none_or]

theorem find?_foldl (lower : Verdicts) (package name : String)
    (rows : List (String × ExtTreeMap String Bool)) :
    find? (rows.foldl (fun acc row => acc.insert row.1 (acc.getD row.1 ∅ ∪ row.2)) lower)
        package name =
      (rows.reverse.findSome? fun row => if row.1 = package then row.2[name]? else none).or
        (lower.find? package name) := by
  induction rows generalizing lower with
  | nil => rfl
  | cons row rows ih =>
    rw [List.foldl_cons, ih, find?_insert_union, List.reverse_cons, List.findSome?_append,
      Option.or_assoc, List.findSome?_singleton]

theorem find?_overlay (lower upper : Verdicts) (package name : String) :
    (lower.overlay upper).find? package name =
      (upper.find? package name).or (lower.find? package name) := by
  have hupper : (upper.toList.reverse.findSome? fun row =>
      if row.1 = package then row.2[name]? else none) = upper.find? package name := by
    apply findSome?_eq_of_agree
    · intro row hrow verdict hverdict
      rw [Option.ite_none_right_eq_some] at hverdict
      obtain ⟨rfl, hname⟩ := hverdict
      have hnames := ExtTreeMap.mem_toList_iff_getElem?_eq_some.1 (List.mem_reverse.1 hrow)
      rw [find?, hnames, Option.bind_some, hname]
    · intro verdict hverdict
      obtain ⟨names, hnames, hname⟩ := Option.bind_eq_some_iff.1 hverdict
      have hrow := ExtTreeMap.mem_toList_iff_getElem?_eq_some.2 hnames
      exact ⟨_, List.mem_reverse.2 hrow, (if_pos rfl).trans hname⟩
  rw [← hupper]
  exact find?_foldl lower package name upper.toList

end Verdicts

namespace RuleSet

variable {lower upper : RuleSet} {target : RoutineId}

theorem verdict?_overlay :
    (lower.overlay upper).verdict? target = (upper.verdict? target).or (lower.verdict? target) :=
  Verdicts.find?_overlay lower.exact upper.exact target.package target.bareName

theorem matchesFragment_overlay :
    (lower.overlay upper).MatchesFragment target ↔
      lower.MatchesFragment target ∨ upper.MatchesFragment target := by
  simp only [MatchesFragment, overlay, mem_appendNew, or_and_right, exists_or]
  exact or_or_or_comm

end RuleSet

namespace Classifier

theorem contains_labelTarget (book : Rulebook) (c : Category) (target : RoutineId) :
    ((ofRulebook book).labelTarget target).contains c = (book.set c).toTable.accepts target := by
  rw [labelTarget, Labels.contains_ofPred, table_ofRulebook]

/-- The exact verdict of the upper rulebook decides a category, then that of the lower one, then the
fragments of both. An exact `false` in the compiled table holds against every fragment, and rules of
other categories do not matter. -/
theorem labelTarget_overlay (lower upper : Rulebook) (c : Category) (target : RoutineId) :
    (∀ verdict, (upper.set c).verdict? target = some verdict →
      ((ofRulebook (lower.overlay upper)).labelTarget target).contains c = verdict) ∧
    ((upper.set c).verdict? target = none →
      ∀ verdict, (lower.set c).verdict? target = some verdict →
        ((ofRulebook (lower.overlay upper)).labelTarget target).contains c = verdict) ∧
    ((upper.set c).verdict? target = none → (lower.set c).verdict? target = none →
      (((ofRulebook (lower.overlay upper)).labelTarget target).contains c = true ↔
        (lower.set c).MatchesFragment target ∨ (upper.set c).MatchesFragment target)) ∧
    (.exact target.package target.bareName false ∈
        ((ofRulebook (lower.overlay upper)).table c).rules →
      ((ofRulebook (lower.overlay upper)).labelTarget target).contains c = false) ∧
    (∀ lower' upper' : Rulebook, lower'.set c = lower.set c → upper'.set c = upper.set c →
      ((ofRulebook (lower'.overlay upper')).labelTarget target).contains c =
        ((ofRulebook (lower.overlay upper)).labelTarget target).contains c) := by
  obtain ⟨hdecided, hopen⟩ := ((lower.set c).overlay (upper.set c)).accepts_toTable target
  rw [RuleSet.verdict?_overlay] at hdecided hopen
  simp only [contains_labelTarget, Rulebook.set_overlay]
  refine ⟨?_, ?_, ?_, ?_, ?_⟩
  · intro verdict hupper
    exact hdecided verdict (by rw [hupper, Option.some_or])
  · intro hupper verdict hlower
    exact hdecided verdict (by rw [hupper, hlower, Option.none_or])
  · intro hupper hlower
    have hnone : ((upper.set c).verdict? target).or ((lower.set c).verdict? target) = none := by
      rw [hupper, hlower, Option.none_or]
    exact (hopen hnone).trans RuleSet.matchesFragment_overlay
  · intro hrule
    rw [table_ofRulebook, Rulebook.set_overlay, RuleSet.toTable, RuleTable.mem_ofRules,
      RuleSet.exact_mem_toRules] at hrule
    exact hdecided false (RuleSet.verdict?_overlay.symm.trans hrule)
  · intro lower' upper' hlower hupper
    rw [hlower, hupper]

def projectRules : Rulebook where
  read := {
    exact := ExtTreeMap.ofList
      [("os", ExtTreeMap.ofList [("Open", false), ("Stat", true)]), ("empty", ∅)]
    suffixes := ["store.Load", "Read"]
    substrings := ["Open"] }

theorem labelTarget_overlay_projectRules :
    -- a verdict of the project against a built-in verdict and a fragment
    (projectRules.read.verdict? ⟨"os", "Open"⟩ = some false ∧
      ((ofRulebook (Rulebook.builtIn.overlay projectRules)).labelTarget ⟨"os", "Open"⟩).contains
        .read = false) ∧
    -- a built-in verdict on a method
    (projectRules.read.verdict? ⟨"database/sql", "(*Row).Scan"⟩ = none ∧
      Rulebook.builtIn.read.verdict? ⟨"database/sql", "(*Row).Scan"⟩ = some true ∧
      ((ofRulebook (Rulebook.builtIn.overlay projectRules)).labelTarget
        ⟨"database/sql", "(*Row).Scan"⟩).contains .read = true) ∧
    -- a fragment of the project that looks at the package
    (projectRules.read.MatchesFragment ⟨"app/store", "(*Disk).Load"⟩ ∧
      ((ofRulebook (Rulebook.builtIn.overlay projectRules)).labelTarget
        ⟨"app/store", "(*Disk).Load"⟩).contains .read = true) ∧
    -- and the rules of another category, which stay as they are
    ((ofRulebook (Rulebook.builtIn.overlay projectRules)).labelTarget ⟨"os", "Create"⟩).contains
        .write =
      ((ofRulebook (Rulebook.builtIn.overlay .empty)).labelTarget ⟨"os", "Create"⟩).contains
        .write := by
  have hopen : projectRules.read.verdict? ⟨"os", "Open"⟩ = some false := by decide +kernel
  have hscan : projectRules.read.verdict? ⟨"database/sql", "(*Row).Scan"⟩ = none := by
    decide +kernel
  have hscan' : Rulebook.builtIn.read.verdict? ⟨"database/sql", "(*Row).Scan"⟩ = some true := by
    decide +kernel
  have hload : projectRules.read.MatchesFragment ⟨"app/store", "(*Disk).Load"⟩ := by
    refine Or.inl ⟨"store.Load", by decide, Or.inr ⟨by decide, ?_⟩⟩
    decide +kernel
  refine ⟨⟨hopen, ?_⟩, ⟨hscan, hscan', ?_⟩, ⟨hload, ?_⟩, ?_⟩
  · exact (labelTarget_overlay .builtIn projectRules .read ⟨"os", "Open"⟩).1 false hopen
  · exact (labelTarget_overlay .builtIn projectRules .read
      ⟨"database/sql", "(*Row).Scan"⟩).2.1 hscan true hscan'
  · exact ((labelTarget_overlay .builtIn projectRules .read
      ⟨"app/store", "(*Disk).Load"⟩).2.2.1 (by decide +kernel) (by decide +kernel)).2
        (Or.inr hload)
  · exact (labelTarget_overlay .builtIn .empty .write ⟨"os", "Create"⟩).2.2.2.2 .builtIn
      projectRules rfl rfl

end Classifier

end FunctionalSize
