import FunctionalSize.Proofs.RuleTable

set_option autoImplicit false

namespace FunctionalSize

namespace Rule

def verdict? (target : RoutineId) : Rule → Option Bool
  | exact package name verdict =>
    if package = target.package ∧ name = target.bareName then some verdict else none
  | suffix _ => none
  | substring _ => none

def isExactFor (package name : String) : Rule → Bool
  | exact package' name' _ => package' = package && name' = name
  | suffix _ => false
  | substring _ => false

variable {target : RoutineId} {rule : Rule}

theorem verdict?_eq_some_iff {verdict : Bool} :
    rule.verdict? target = some verdict ↔
      rule = .exact target.package target.bareName verdict := by
  cases rule with
  | exact package name verdict' => simp [verdict?, and_assoc]
  | suffix fragment => simp [verdict?]
  | substring fragment => simp [verdict?]

theorem verdict?_eq_none_iff :
    rule.verdict? target = none ↔
      ∀ verdict, rule ≠ .exact target.package target.bareName verdict := by
  simp [Option.eq_none_iff_forall_ne_some, ne_eq, verdict?_eq_some_iff]

theorem isSome_verdict? :
    (rule.verdict? target).isSome = (rule.isExact && (rule.evaluate target).isSome) := by
  cases rule <;> rfl

theorem verdict?_of_not_isExactFor
    (h : rule.isExactFor target.package target.bareName = false) :
    rule.verdict? target = none := by
  cases rule with
  | exact package name verdict => simpa [isExactFor, verdict?] using h
  | suffix fragment => rfl
  | substring fragment => rfl

end Rule

theorem findSome?_filter_of_none {α β : Type} {l : List α} {f : α → Option β} {keep : α → Bool}
    (h : ∀ x ∈ l, keep x = false → f x = none) : (l.filter keep).findSome? f = l.findSome? f := by
  induction l with
  | nil => rfl
  | cons x l ih =>
    obtain ⟨hx, hl⟩ := List.forall_mem_cons.1 h
    cases hkeep : keep x with
    | true => rw [List.filter_cons_of_pos hkeep, List.findSome?_cons, List.findSome?_cons, ih hl]
    | false => rw [List.filter_cons_of_neg (by simp [hkeep]), List.findSome?_cons, hx hkeep, ih hl]

namespace RuleTable

/-- The exact rule for the target that was given first has this verdict. -/
def FirstExact (rules : List Rule) (target : RoutineId) (verdict : Bool) : Prop :=
  ∃ before after, rules = before ++ .exact target.package target.bareName verdict :: after ∧
    ∀ v, .exact target.package target.bareName v ∉ before

def firstVerdict? (rules : List Rule) (target : RoutineId) : Option Bool :=
  rules.findSome? (Rule.verdict? target)

section Verdicts

variable {rules rules' : List Rule} {target : RoutineId}

theorem findSome?_evaluate_exact :
    (rules.filter Rule.isExact).findSome? (Rule.evaluate target) = firstVerdict? rules target := by
  induction rules with
  | nil => rfl
  | cons rule rules ih =>
    cases rule with
    | exact package name verdict =>
      rw [List.filter_cons_of_pos rfl, firstVerdict?, List.findSome?_cons, List.findSome?_cons, ih]
      rfl
    | suffix fragment => exact ih
    | substring fragment => exact ih

theorem firstVerdict?_eq_some_iff {verdict : Bool} :
    firstVerdict? rules target = some verdict ↔ FirstExact rules target verdict := by
  simp only [FirstExact, firstVerdict?, List.findSome?_eq_some_iff, Rule.verdict?_eq_some_iff,
    Rule.verdict?_eq_none_iff]
  constructor
  · rintro ⟨before, rule, after, hrules, rfl, hbefore⟩
    exact ⟨before, after, hrules, fun v hv => hbefore _ hv v rfl⟩
  · rintro ⟨before, after, hrules, hbefore⟩
    refine ⟨before, _, after, hrules, rfl, ?_⟩
    rintro rule hrule v rfl
    exact hbefore v hrule

theorem isSome_firstVerdict? :
    (firstVerdict? rules target).isSome = (ofRules rules).decidesExactly target := by
  rw [decidesExactly, Bool.eq_iff_iff, List.any_eq_true, firstVerdict?, List.findSome?_isSome_iff]
  simp only [mem_ofRules, Rule.isSome_verdict?]

theorem decidesExactly_iff :
    (ofRules rules).decidesExactly target = true ↔ ∃ verdict, FirstExact rules target verdict := by
  rw [← isSome_firstVerdict?, Option.isSome_iff_exists]
  simp only [firstVerdict?_eq_some_iff]

theorem firstVerdict?_congr
    (h : rules'.filter (Rule.isExactFor target.package target.bareName) =
      rules.filter (Rule.isExactFor target.package target.bareName)) :
    firstVerdict? rules' target = firstVerdict? rules target := by
  have hfilter : ∀ l : List Rule, firstVerdict? l target =
      (l.filter (Rule.isExactFor target.package target.bareName)).findSome?
        (Rule.verdict? target) := fun l =>
    (findSome?_filter_of_none fun rule _ => Rule.verdict?_of_not_isExactFor).symm
  rw [hfilter, hfilter, h]

theorem accepts_eq (rules : List Rule) (target : RoutineId) :
    (ofRules rules).accepts target =
      (firstVerdict? rules target).getD (rules.any (Rule.hits target)) := by
  rw [accepts_ofRules, findSome?_evaluate_exact]

end Verdicts

/-- The table asks the rules in the stable order of their priorities. So the first exact rule for a
target decides it, and the fragment rules decide together when there is none. The rules may be
given in any order that keeps the exact rules for the same package and name in theirs. -/
theorem accepts_by_first_exact (rules : List Rule) :
    (ofRules rules).rules = rules.mergeSort Rule.byPriority ∧
    (ofRules rules).rules = rules.filter (·.priority == 0) ++ rules.filter (·.priority == 1)
      ++ rules.filter (·.priority == 2) ∧
    (∀ target,
      (∀ verdict, FirstExact rules target verdict → (ofRules rules).accepts target = verdict) ∧
      ((¬ ∃ verdict, FirstExact rules target verdict) →
        ((ofRules rules).accepts target = true ↔
          (∃ fragment, .suffix fragment ∈ rules ∧ Rule.MatchesSuffix fragment target) ∨
            ∃ fragment, .substring fragment ∈ rules ∧
              fragment.toList <:+: target.bareName.toList)) ∧
      ((ofRules rules).decidesExactly target = true ↔
        ∃ verdict, FirstExact rules target verdict)) ∧
    (∀ rules', rules'.Perm rules →
      (∀ package name, rules'.filter (Rule.isExactFor package name) =
        rules.filter (Rule.isExactFor package name)) →
      ∀ target, (ofRules rules').accepts target = (ofRules rules).accepts target) := by
  refine ⟨rfl, rules_ofRules rules, fun target => ⟨?_, ?_, decidesExactly_iff⟩, ?_⟩
  · intro verdict hverdict
    rw [accepts_eq, firstVerdict?_eq_some_iff.2 hverdict, Option.getD_some]
  · intro hundecided
    rw [← decidesExactly_iff, ← isSome_firstVerdict?, Option.not_isSome_iff_eq_none] at hundecided
    rw [accepts_eq, hundecided, Option.getD_none, any_hits_iff]
  · intro rules' hperm hkeep target
    rw [accepts_eq, accepts_eq, firstVerdict?_congr (hkeep _ _), hperm.any_eq]

/-- Fragments stand before the exact rules that overrule them, and two exact rules contradict each
other. -/
def mixedRules : List Rule :=
  [.substring "Read", .suffix "Read", .exact "strings" "Read" false, .suffix "store.Load",
    .exact "os" "Open" true, .exact "strings" "Read" true]

def shuffledRules : List Rule :=
  [.exact "os" "Open" true, .exact "strings" "Read" false, .exact "strings" "Read" true,
    .suffix "store.Load", .suffix "Read", .substring "Read"]

theorem accepts_by_first_exact_mixedRules :
    (FirstExact mixedRules ⟨"strings", "(*Reader).Read"⟩ false ∧
      (ofRules mixedRules).accepts ⟨"strings", "(*Reader).Read"⟩ = false) ∧
    ((¬ ∃ verdict, FirstExact mixedRules ⟨"app/store", "(*Disk).Load"⟩ verdict) ∧
      (ofRules mixedRules).accepts ⟨"app/store", "(*Disk).Load"⟩ = true) ∧
    (shuffledRules.Perm mixedRules ∧
      ∀ target, (ofRules shuffledRules).accepts target = (ofRules mixedRules).accepts target) := by
  obtain ⟨-, -, htargets, hreorder⟩ := accepts_by_first_exact mixedRules
  refine ⟨?_, ?_, ?_⟩
  · have hfirst : FirstExact mixedRules ⟨"strings", "(*Reader).Read"⟩ false :=
      ⟨[.substring "Read", .suffix "Read"], mixedRules.drop 3, by decide +kernel, by simp⟩
    exact ⟨hfirst, (htargets _).1 false hfirst⟩
  · have hundecided : ¬ ∃ verdict, FirstExact mixedRules ⟨"app/store", "(*Disk).Load"⟩ verdict := by
      rw [← (htargets _).2.2, ← isSome_firstVerdict?]
      decide +kernel
    have hload : Rule.MatchesSuffix "store.Load" ⟨"app/store", "(*Disk).Load"⟩ :=
      Or.inr ⟨by decide, by decide +kernel⟩
    exact ⟨hundecided, ((htargets _).2.1 hundecided).2 (Or.inl ⟨_, by decide, hload⟩)⟩
  · have hperm : shuffledRules.Perm mixedRules := by decide
    refine ⟨hperm, hreorder _ hperm ?_⟩
    intro package name
    by_cases hstrings : "strings" = package
    · subst hstrings
      simp [shuffledRules, mixedRules, List.filter_cons, Rule.isExactFor]
    · simp [shuffledRules, mixedRules, List.filter_cons, Rule.isExactFor, hstrings]

end RuleTable

end FunctionalSize
