import FunctionalSize.Classifier
import FunctionalSize.Proofs.StableSort
import Mathlib.Data.List.Infix

set_option autoImplicit false

namespace FunctionalSize

open Std

namespace Text

theorem endsWith_iff {fragment text : String} :
    endsWith fragment text = true ↔ fragment.toList <:+ text.toList :=
  List.isSuffixOf_iff_suffix

theorem exists_splitFirst? {pat s : List Char} (h : pat <:+: s) :
    ∃ cut, splitFirst? pat s = some cut := by
  induction s with
  | nil =>
    obtain rfl := List.infix_nil.1 h
    exact ⟨_, rfl⟩
  | cons c s ih =>
    rw [splitFirst?]
    split
    · exact ⟨_, rfl⟩
    · next hstart =>
      rw [List.isPrefixOf_iff_prefix] at hstart
      obtain ⟨cut, hcut⟩ := ih ((List.infix_cons_iff.1 h).resolve_left hstart)
      exact ⟨_, by rw [hcut, Option.map_some]⟩

theorem occursIn_iff {fragment text : String} :
    occursIn fragment text = true ↔ fragment.toList <:+: text.toList := by
  rw [occursIn, Option.isSome_iff_exists]
  constructor
  · rintro ⟨cut, hcut⟩
    exact ⟨cut.1, cut.2, (splitFirst?_append hcut).symm⟩
  · exact exists_splitFirst?

end Text

namespace Rule

theorem byPriority_trans (a b c : Rule) (hab : a.byPriority b = true)
    (hbc : b.byPriority c = true) : a.byPriority c = true := by
  simp only [byPriority, decide_eq_true_eq] at *
  omega

theorem byPriority_total (a b : Rule) : (a.byPriority b || b.byPriority a) = true := by
  simp only [byPriority, Bool.or_eq_true, decide_eq_true_eq]
  omega

theorem pairwise_of_priority {rules : List Rule} {k : Nat}
    (h : ∀ rule ∈ rules, rule.priority = k) :
    rules.Pairwise fun a b => a.byPriority b = true := by
  apply List.pairwise_of_forall_mem_list
  intro a ha b hb
  simp [byPriority, h a ha, h b hb]

def hits (target : RoutineId) (rule : Rule) : Bool :=
  !rule.isExact && (rule.evaluate target).isSome

theorem evaluate_of_not_isExact {rule : Rule} (h : rule.isExact = false) (target : RoutineId) :
    rule.evaluate target = if rule.hits target then some true else none := by
  unfold hits
  cases rule with
  | exact package name verdict => simp [isExact] at h
  | suffix fragment =>
    rw [evaluate]
    split <;> simp [isExact]
  | substring fragment =>
    rw [evaluate]
    split <;> simp [isExact]

/-- The bare name ends so, or the fragment has a dot and the qualified bare name ends so. -/
def MatchesSuffix (fragment : String) (target : RoutineId) : Prop :=
  fragment.toList <:+ target.bareName.toList ∨
    '.' ∈ fragment.toList ∧
      fragment.toList <:+ (target.package ++ "." ++ target.bareName).toList

theorem suffix_hits {fragment : String} {target : RoutineId} :
    (suffix fragment).hits target = true ↔ MatchesSuffix fragment target := by
  have hdot : Text.occursIn "." fragment = true ↔ '.' ∈ fragment.toList :=
    Text.occursIn_iff.trans (List.singleton_infix_iff _ _)
  rw [hits, evaluate, MatchesSuffix, ← Text.endsWith_iff, ← Text.endsWith_iff, ← hdot]
  simp [isExact, endsQualified]

/-- A fragment that looks past the dot between package and name has a dot of its own. -/
theorem suffix_of_notMem_dot {fragment package name : List Char} (hdot : '.' ∉ fragment)
    (h : fragment <:+ package ++ '.' :: name) : fragment <:+ name := by
  have hname : '.' :: name <:+ package ++ '.' :: name := List.suffix_append _ _
  rcases List.suffix_or_suffix_of_suffix h hname with hshort | hlong
  · rcases List.suffix_cons_iff.1 hshort with rfl | hsuffix
    · exact absurd List.mem_cons_self hdot
    · exact hsuffix
  · exact absurd (hlong.mem List.mem_cons_self) hdot

theorem matchesSuffix_iff {fragment : String} {target : RoutineId} :
    MatchesSuffix fragment target ↔
      fragment.toList <:+ target.package.toList ++ '.' :: target.bareName.toList := by
  have hqualified : (target.package ++ "." ++ target.bareName).toList
      = target.package.toList ++ '.' :: target.bareName.toList := by simp
  rw [MatchesSuffix, hqualified]
  constructor
  · rintro (hbare | ⟨-, hqualified⟩)
    · exact (hbare.trans (List.suffix_cons _ _)).trans (List.suffix_append _ _)
    · exact hqualified
  · intro h
    by_cases hdot : '.' ∈ fragment.toList
    · exact Or.inr ⟨hdot, h⟩
    · exact Or.inl (suffix_of_notMem_dot hdot h)

/-- A suffix rule is one comparison with the qualified bare name: it accepts the targets whose
package and bare name, joined by a dot, end with the fragment, and says nothing of any other. -/
theorem evaluate_suffix_iff_qualified (fragment : String) (target : RoutineId) :
    ((suffix fragment).evaluate target = some true ↔
      ∃ before, target.package ++ "." ++ target.bareName = before ++ fragment) ∧
    ((suffix fragment).evaluate target = none ↔
      ¬ ∃ before, target.package ++ "." ++ target.bareName = before ++ fragment) := by
  have hends : (suffix fragment).hits target = true ↔
      ∃ before, target.package ++ "." ++ target.bareName = before ++ fragment := by
    rw [suffix_hits, matchesSuffix_iff]
    constructor
    · rintro ⟨before, h⟩
      refine ⟨String.ofList before, String.toList_inj.1 ?_⟩
      simp [h]
    · rintro ⟨before, h⟩
      refine ⟨before.toList, ?_⟩
      rw [← String.toList_append, ← h]
      simp
  rw [← hends, evaluate_of_not_isExact rfl]
  cases (suffix fragment).hits target <;> simp

theorem substring_hits {fragment : String} {target : RoutineId} :
    (substring fragment).hits target = true ↔
      fragment.toList <:+: target.bareName.toList := by
  rw [hits, evaluate, ← Text.occursIn_iff]
  simp [isExact]

end Rule

theorem findSome?_eq_of_agree {α β : Type} {l : List α} {f : α → Option β} {o : Option β}
    (hagree : ∀ x ∈ l, ∀ b, f x = some b → o = some b)
    (hfound : ∀ b, o = some b → ∃ x ∈ l, f x = some b) : l.findSome? f = o := by
  cases hfind : l.findSome? f with
  | some b =>
    obtain ⟨x, hx, hb⟩ := List.exists_of_findSome?_eq_some hfind
    exact (hagree x hx b hb).symm
  | none =>
    cases o with
    | none => rfl
    | some b =>
      obtain ⟨x, hx, hb⟩ := hfound b rfl
      have hnone := List.findSome?_eq_none_iff.1 hfind x hx
      rw [hb] at hnone
      contradiction

namespace RuleTable

theorem filter_mergeSort (rules : List Rule) (k : Nat) :
    (rules.mergeSort Rule.byPriority).filter (·.priority == k) =
      rules.filter (·.priority == k) := by
  apply filter_mergeSort_of_ties Rule.byPriority_trans Rule.byPriority_total
  intro a b ha hb
  simp only [beq_iff_eq] at ha hb
  simp [Rule.byPriority, ha, hb]

theorem groups_of_pairwise {rules : List Rule}
    (h : rules.Pairwise fun a b => a.byPriority b = true) :
    rules.filter (·.priority == 0) ++ rules.filter (·.priority == 1)
      ++ rules.filter (·.priority == 2) = rules := by
  induction rules with
  | nil => rfl
  | cons rule rules ih =>
    obtain ⟨hfirst, hrest⟩ := List.pairwise_cons.1 h
    have hbelow : ∀ k < rule.priority, rules.filter (·.priority == k) = [] := by
      intro k hk
      rw [List.filter_eq_nil_iff]
      intro other hother
      have hle := of_decide_eq_true (hfirst other hother)
      simp only [beq_iff_eq]
      omega
    have hgroups := ih hrest
    cases rule with
    | exact package name verdict =>
      have hpriority : (Rule.exact package name verdict).priority = 0 := rfl
      simpa [hpriority] using hgroups
    | suffix fragment =>
      have hpriority : (Rule.suffix fragment).priority = 1 := rfl
      rw [hpriority] at hbelow
      simpa [hpriority, hbelow] using hgroups
    | substring fragment =>
      have hpriority : (Rule.substring fragment).priority = 2 := rfl
      rw [hpriority] at hbelow
      simpa [hpriority, hbelow] using hgroups

/-- The exact rules, then the suffixes, then the substrings, each kind as it was given. -/
theorem rules_ofRules (rules : List Rule) :
    (ofRules rules).rules = rules.filter (·.priority == 0) ++ rules.filter (·.priority == 1)
      ++ rules.filter (·.priority == 2) := by
  rw [← filter_mergeSort rules 0, ← filter_mergeSort rules 1, ← filter_mergeSort rules 2]
  exact (groups_of_pairwise
    (List.pairwise_mergeSort Rule.byPriority_trans Rule.byPriority_total rules)).symm

theorem mem_ofRules {rules : List Rule} {rule : Rule} :
    rule ∈ (ofRules rules).rules ↔ rule ∈ rules :=
  List.mem_mergeSort

theorem findSome?_of_not_isExact {rules : List Rule} (h : ∀ rule ∈ rules, rule.isExact = false)
    (target : RoutineId) :
    (rules.findSome? (Rule.evaluate target)).getD false = rules.any (Rule.hits target) := by
  induction rules with
  | nil => rfl
  | cons rule rules ih =>
    obtain ⟨hrule, hrest⟩ := List.forall_mem_cons.1 h
    rw [List.findSome?_cons, Rule.evaluate_of_not_isExact hrule, List.any_cons]
    cases Rule.hits target rule with
    | true => rfl
    | false => exact ih hrest

theorem accepts_ofRules (rules : List Rule) (target : RoutineId) :
    (ofRules rules).accepts target =
      ((rules.filter Rule.isExact).findSome? (Rule.evaluate target)).getD
        (rules.any (Rule.hits target)) := by
  have hexact : rules.filter (·.priority == 0) = rules.filter Rule.isExact := by
    apply List.filter_congr
    intro rule _
    cases rule <;> rfl
  have hfragments : ∀ rule ∈ rules.filter (·.priority == 1) ++ rules.filter (·.priority == 2),
      rule.isExact = false := by
    intro rule hrule
    simp only [List.mem_append, List.mem_filter] at hrule
    cases rule <;> simp_all [Rule.priority, Rule.isExact]
  have hany : (rules.filter (·.priority == 1) ++ rules.filter (·.priority == 2)).any
      (Rule.hits target) = rules.any (Rule.hits target) := by
    rw [Bool.eq_iff_iff, List.any_eq_true, List.any_eq_true]
    constructor
    · rintro ⟨rule, hrule, hhits⟩
      simp only [List.mem_append, List.mem_filter] at hrule
      exact ⟨rule, hrule.elim And.left And.left, hhits⟩
    · rintro ⟨rule, hrule, hhits⟩
      refine ⟨rule, ?_, hhits⟩
      cases rule <;> simp_all [Rule.hits, Rule.isExact, Rule.priority]
  rw [accepts, rules_ofRules, List.append_assoc, List.findSome?_append, hexact, ← hany,
    ← findSome?_of_not_isExact hfragments target]
  cases (rules.filter Rule.isExact).findSome? (Rule.evaluate target) <;> rfl

theorem any_hits_iff {rules : List Rule} {target : RoutineId} :
    rules.any (Rule.hits target) = true ↔
      (∃ fragment, .suffix fragment ∈ rules ∧ Rule.MatchesSuffix fragment target) ∨
        ∃ fragment, .substring fragment ∈ rules ∧
          fragment.toList <:+: target.bareName.toList := by
  rw [List.any_eq_true]
  constructor
  · rintro ⟨rule, hrule, hhits⟩
    cases rule with
    | exact package name verdict => simp [Rule.hits, Rule.isExact] at hhits
    | suffix fragment => exact Or.inl ⟨fragment, hrule, Rule.suffix_hits.1 hhits⟩
    | substring fragment => exact Or.inr ⟨fragment, hrule, Rule.substring_hits.1 hhits⟩
  · rintro (⟨fragment, hrule, hmatch⟩ | ⟨fragment, hrule, hmatch⟩)
    · exact ⟨_, hrule, Rule.suffix_hits.2 hmatch⟩
    · exact ⟨_, hrule, Rule.substring_hits.2 hmatch⟩

end RuleTable

def Verdicts.find? (verdicts : Verdicts) (package name : String) : Option Bool :=
  verdicts[package]?.bind (·[name]?)

namespace RuleSet

variable {set : RuleSet} {target : RoutineId}

def verdict? (set : RuleSet) (target : RoutineId) : Option Bool :=
  set.exact.find? target.package target.bareName

def MatchesFragment (set : RuleSet) (target : RoutineId) : Prop :=
  (∃ fragment ∈ set.suffixes, Rule.MatchesSuffix fragment target) ∨
    ∃ fragment ∈ set.substrings, fragment.toList <:+: target.bareName.toList

theorem exact_mem_toRules {package name : String} {verdict : Bool} :
    .exact package name verdict ∈ set.toRules ↔
      set.exact.find? package name = some verdict := by
  rw [Verdicts.find?, Option.bind_eq_some_iff, toRules, List.mem_append, List.mem_append,
    or_assoc]
  constructor
  · rintro (hrule | hrule)
    · obtain ⟨⟨package', names⟩, hnames, hrule⟩ := List.mem_flatMap.1 hrule
      obtain ⟨⟨name', verdict'⟩, hverdict, heq⟩ := List.mem_map.1 hrule
      obtain ⟨rfl, rfl, rfl⟩ := Rule.exact.inj heq
      exact ⟨names, ExtTreeMap.mem_toList_iff_getElem?_eq_some.1 hnames,
        ExtTreeMap.mem_toList_iff_getElem?_eq_some.1 hverdict⟩
    · simp at hrule
  · rintro ⟨names, hnames, hverdict⟩
    have hpackage := ExtTreeMap.mem_toList_iff_getElem?_eq_some.2 hnames
    have hname := ExtTreeMap.mem_toList_iff_getElem?_eq_some.2 hverdict
    exact Or.inl (List.mem_flatMap.2 ⟨_, hpackage, List.mem_map.2 ⟨_, hname, rfl⟩⟩)

theorem suffix_mem_toRules {fragment : String} :
    .suffix fragment ∈ set.toRules ↔ fragment ∈ set.suffixes := by
  simp [toRules, exactRules]

theorem substring_mem_toRules {fragment : String} :
    .substring fragment ∈ set.toRules ↔ fragment ∈ set.substrings := by
  simp [toRules, exactRules]

theorem findSome?_exact_toRules :
    (set.toRules.filter Rule.isExact).findSome? (Rule.evaluate target) = set.verdict? target := by
  apply findSome?_eq_of_agree
  · intro rule hrule verdict heval
    obtain ⟨hmem, hexact⟩ := List.mem_filter.1 hrule
    cases rule with
    | exact package name verdict' =>
      simp only [Rule.evaluate, Option.ite_none_right_eq_some, Option.some.injEq] at heval
      obtain ⟨⟨rfl, rfl⟩, rfl⟩ := heval
      exact exact_mem_toRules.1 hmem
    | suffix fragment => simp [Rule.isExact] at hexact
    | substring fragment => simp [Rule.isExact] at hexact
  · intro verdict hverdict
    have hmem := exact_mem_toRules.2 hverdict
    exact ⟨_, List.mem_filter.2 ⟨hmem, rfl⟩, if_pos ⟨rfl, rfl⟩⟩

theorem any_hits_toRules :
    set.toRules.any (Rule.hits target) = true ↔ set.MatchesFragment target := by
  rw [RuleTable.any_hits_iff]
  simp only [suffix_mem_toRules, substring_mem_toRules]
  exact Iff.rfl

theorem accepts_toTable (set : RuleSet) (target : RoutineId) :
    (∀ verdict, set.verdict? target = some verdict → set.toTable.accepts target = verdict) ∧
    (set.verdict? target = none →
      (set.toTable.accepts target = true ↔ set.MatchesFragment target)) := by
  rw [toTable, RuleTable.accepts_ofRules, findSome?_exact_toRules]
  constructor
  · intro verdict hverdict
    rw [hverdict, Option.getD_some]
  · intro hnone
    rw [hnone, Option.getD_none, any_hits_toRules]

theorem pairwise_toRules (set : RuleSet) :
    set.toRules.Pairwise fun a b => a.byPriority b = true := by
  have hexact : ∀ rule ∈ set.exactRules, rule.priority = 0 := by
    intro rule hrule
    obtain ⟨⟨package, names⟩, -, hrule⟩ := List.mem_flatMap.1 hrule
    obtain ⟨⟨name, verdict⟩, -, rfl⟩ := List.mem_map.1 hrule
    rfl
  have hsuffix : ∀ rule ∈ set.suffixes.map Rule.suffix, rule.priority = 1 := by simp [Rule.priority]
  have hsubstring : ∀ rule ∈ set.substrings.map Rule.substring, rule.priority = 2 := by
    simp [Rule.priority]
  rw [toRules, List.pairwise_append, List.pairwise_append]
  refine ⟨⟨Rule.pairwise_of_priority hexact, Rule.pairwise_of_priority hsuffix, ?_⟩,
    Rule.pairwise_of_priority hsubstring, ?_⟩
  · intro a ha b hb
    simp [Rule.byPriority, hexact a ha]
  · intro a ha b hb
    have hle : a.priority ≤ 2 := by cases a <;> simp [Rule.priority]
    simpa [Rule.byPriority, hsubstring b hb] using hle

theorem toTable_eq (set : RuleSet) : set.toTable = ⟨set.toRules⟩ := by
  rw [toTable, RuleTable.ofRules, List.mergeSort_of_pairwise set.pairwise_toRules]

end RuleSet

/-- Its tables hold the rules as the rulebook lists them, so that labels can be evaluated. -/
theorem Classifier.ofRulebook_eq (book : Rulebook) :
    ofRulebook book = ⟨⟨book.registration.toRules⟩, ⟨book.read.toRules⟩, ⟨book.write.toRules⟩,
      ⟨book.exit.toRules⟩⟩ := by
  simp only [ofRulebook, RuleSet.toTable_eq]

theorem Classifier.builtIn_eq :
    builtIn = ⟨⟨Rulebook.builtIn.registration.toRules⟩, ⟨Rulebook.builtIn.read.toRules⟩,
      ⟨Rulebook.builtIn.write.toRules⟩, ⟨Rulebook.builtIn.exit.toRules⟩⟩ :=
  ofRulebook_eq .builtIn

end FunctionalSize
