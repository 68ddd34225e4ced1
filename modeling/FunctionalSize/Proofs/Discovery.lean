import FunctionalSize.Config

set_option autoImplicit false

namespace FunctionalSize

namespace Path

def above? : Nat → String → Option String
  | 0, path => some path
  | n + 1, path => (parent? path).bind (above? n)

variable {β : Type} {f : String → Option β} {b : β} {count : Nat} {path : String}

theorem findSome?_ancestors_eq_some_iff :
    (ancestors count path).findSome? f = some b ↔
      ∃ n < count, (∃ directory, above? n path = some directory ∧ f directory = some b) ∧
        ∀ k < n, ∀ nearer, above? k path = some nearer → f nearer = none := by
  induction count generalizing path with
  | zero => simp [ancestors]
  | succ count ih =>
    rw [ancestors, List.findSome?_cons]
    constructor
    · intro hfound
      cases hpath : f path with
      | some c =>
        rw [hpath] at hfound
        exact ⟨0, Nat.succ_pos count, ⟨path, rfl, hpath.trans hfound⟩, by simp⟩
      | none =>
        rw [hpath] at hfound
        cases hparent : parent? path with
        | none => simp [hparent] at hfound
        | some parent =>
          rw [hparent] at hfound
          obtain ⟨n, hn, hat, hnearer⟩ := ih.1 hfound
          refine ⟨n + 1, Nat.succ_lt_succ hn, ?_, ?_⟩
          · simpa [above?, hparent] using hat
          · intro k hk nearer habove
            cases k with
            | zero =>
              cases habove
              exact hpath
            | succ k =>
              rw [above?, hparent] at habove
              exact hnearer k (Nat.lt_of_succ_lt_succ hk) nearer habove
    · rintro ⟨n, hn, ⟨directory, habove, hdirectory⟩, hnearer⟩
      cases n with
      | zero =>
        cases habove
        rw [hdirectory]
      | succ n =>
        obtain ⟨parent, hparent, hrest⟩ := Option.bind_eq_some_iff.1 habove
        rw [hnearer 0 (Nat.succ_pos n) path rfl, hparent]
        refine ih.2 ⟨n, Nat.lt_of_succ_lt_succ hn, ⟨directory, hrest, hdirectory⟩, ?_⟩
        intro k hk nearer hk'
        apply hnearer (k + 1) (Nat.succ_lt_succ hk)
        rw [above?, hparent]
        exact hk'

theorem join_ne {base name : String} (hbase : base ≠ "") (hname : isAbsolute name = false) :
    join base name ≠ name := by
  intro he
  have hlength := congrArg String.length he
  have hpos : base.length ≠ 0 := by simpa using hbase
  rw [join, if_neg (by simp [hname, hbase])] at hlength
  split at hlength <;> simp only [String.length_append] at hlength <;> omega

end Path

namespace Config

variable {read : String → Except Fault String} {start directory text : String} {config : Config}
  {n : Nat}

def held? (read : String → Except Fault String) (directory : String) : Option Config :=
  (read (Path.join directory fileName)).toOption.bind fun text => (parse text).toOption

theorem held?_of_read (h : read (Path.join directory fileName) = .ok text) :
    held? read directory = (parse text).toOption := by
  rw [held?, h]
  rfl

theorem held?_eq_some_iff :
    held? read directory = some config ↔
      ∃ text, read (Path.join directory fileName) = .ok text ∧ parse text = .ok config := by
  unfold held?
  cases read (Path.join directory fileName) with
  | error fault => simp [Except.toOption]
  | ok text => cases hparse : parse text <;> simp [Except.toOption, hparse]

theorem firstValid_cons (read : String → Except Fault String) (directory : String)
    (rest : List String) :
    Id.run (firstValid read (Path.join directory fileName :: rest)) =
      (held? read directory).or (Id.run (firstValid read rest)) := by
  rw [firstValid, Id.run_bind]
  split
  · next config hfound =>
    have hheld : held? read directory = some config := hfound
    rw [hheld, Option.some_or, Id.run_pure]
  · next hmissing =>
    have hheld : held? read directory = none := hmissing
    rw [hheld, Option.none_or]

theorem firstValid_eq (read : String → Except Fault String) (directories : List String) :
    Id.run (firstValid read (directories.map fun directory => Path.join directory fileName)) =
      directories.findSome? (held? read) := by
  induction directories with
  | nil => rfl
  | cons directory directories ih =>
    rw [List.map_cons, firstValid_cons, ih, List.findSome?_cons]
    cases held? read directory <;> rfl

theorem discover_eq (read : String → Except Fault String) (start : String) :
    Id.run (discover read start) =
      ((Path.ancestors searchDepth start).findSome? (held? read)).getD {} := by
  rw [← firstValid_eq]
  rfl

structure NearestFile (read : String → Except Fault String) (start : String) (n : Nat)
    (text : String) : Prop where
  here : ∃ directory, Path.above? n start = some directory ∧
    read (Path.join directory fileName) = .ok text
  nearer : ∀ k < n, ∀ directory, Path.above? k start = some directory →
    ∃ fault, read (Path.join directory fileName) = .error fault

structure NearestRight (read : String → Except Fault String) (start : String) (n : Nat)
    (config : Config) : Prop where
  here : ∃ directory, Path.above? n start = some directory ∧ held? read directory = some config
  nearer : ∀ k < n, ∀ directory, Path.above? k start = some directory →
    held? read directory = none

theorem NearestFile.right (h : NearestFile read start n text) (hparse : parse text = .ok config) :
    NearestRight read start n config := by
  obtain ⟨⟨directory, habove, hread⟩, hnearer⟩ := h
  refine ⟨⟨directory, habove, held?_eq_some_iff.2 ⟨text, hread, hparse⟩⟩, ?_⟩
  intro k hk nearer hk'
  obtain ⟨fault, hfault⟩ := hnearer k hk nearer hk'
  rw [held?, hfault]
  rfl

theorem discover_of_nearestRight (hn : n < searchDepth) (h : NearestRight read start n config) :
    Id.run (discover read start) = config := by
  rw [discover_eq, Path.findSome?_ancestors_eq_some_iff.2 ⟨n, hn, h.here, h.nearer⟩,
    Option.getD_some]

theorem discover_eq_default
    (h : ∀ n config, n < searchDepth → NearestRight read start n config → config = {}) :
    Id.run (discover read start) = {} := by
  rw [discover_eq]
  cases hfound : (Path.ancestors searchDepth start).findSome? (held? read) with
  | none => rfl
  | some config =>
    obtain ⟨n, hn, hhere, hnearer⟩ := Path.findSome?_ancestors_eq_some_iff.1 hfound
    exact h n config hn ⟨hhere, hnearer⟩

/-- The search finds the nearest right configuration among the first ten directories, and the
defaults when there is none. The nearest file decides just when it is right or nothing but the
defaults is found above it. -/
theorem discover_nearest_right (read : String → Except Fault String) (start : String) :
    (∀ n config, n < 10 → NearestRight read start n config →
      Id.run (discover read start) = config) ∧
    ((∀ n config, n < 10 → ¬ NearestRight read start n config) →
      Id.run (discover read start) = {}) ∧
    (∀ n text, n < 10 → NearestFile read start n text →
      (Id.run (discover read start) = (parse text).toOption.getD {} ↔
        (∃ config, parse text = .ok config) ∨
          ∀ m config, m < 10 → NearestRight read start m config → config = {})) := by
  refine ⟨fun _ _ => discover_of_nearestRight, ?_, ?_⟩
  · intro hnone
    exact discover_eq_default fun n config hn h => absurd h (hnone n config hn)
  · intro n text hn hfile
    cases hparse : parse text with
    | ok config =>
      have hfound := discover_of_nearestRight hn (hfile.right hparse)
      exact ⟨fun _ => Or.inl ⟨config, rfl⟩, fun _ => hfound⟩
    | error fault =>
      constructor
      · intro hdefault
        exact Or.inr fun m config hm h => (discover_of_nearestRight hm h).symm.trans hdefault
      · rintro (⟨config, hconfig⟩ | habove)
        · cases hconfig
        · exact discover_eq_default habove

def malformedBelow (path : String) : Except Fault String :=
  .ok (if path = fileName then "[analysis]\nmain_module = \"root\"\n" else "[analysis\n")

def rootConfig : Config := { analysis := some { mainPackage := some "root" } }

theorem parse_malformed : (parse "[analysis\n").toOption = none := by decide +kernel

theorem parse_root :
    (parse "[analysis]\nmain_module = \"root\"\n").toOption = some rootConfig := by
  decide +kernel

theorem read_bad : malformedBelow (Path.join "bad" fileName) = .ok "[analysis\n" := by
  rw [malformedBelow, if_neg]
  exact Path.join_ne (by simp) (by simp [Path.isAbsolute, fileName])

theorem read_root :
    malformedBelow (Path.join "" fileName) = .ok "[analysis]\nmain_module = \"root\"\n" := by
  rw [malformedBelow, Path.join, if_pos (Or.inr rfl), if_pos rfl]

theorem nearestFile_malformedBelow : NearestFile malformedBelow "bad" 0 "[analysis\n" :=
  ⟨⟨"bad", rfl, read_bad⟩, by simp⟩

theorem nearestRight_malformedBelow : NearestRight malformedBelow "bad" 1 rootConfig := by
  have habove : Path.above? 1 "bad" = some "" := by decide +kernel
  refine ⟨⟨"", habove, ?_⟩, ?_⟩
  · rw [held?_of_read read_root, parse_root]
  · intro k hk directory hdirectory
    obtain rfl : k = 0 := by omega
    obtain rfl : "bad" = directory := Option.some.inj hdirectory
    rw [held?_of_read read_bad, parse_malformed]

theorem discover_nearest_right_malformedBelow :
    NearestFile malformedBelow "bad" 0 "[analysis\n" ∧
      NearestRight malformedBelow "bad" 1 rootConfig ∧
      Id.run (discover malformedBelow "bad") = rootConfig :=
  ⟨nearestFile_malformedBelow, nearestRight_malformedBelow,
    (discover_nearest_right malformedBelow "bad").1 1 rootConfig (by omega)
      nearestRight_malformedBelow⟩

/-- The nearest file does not always decide: when it is wrong, a right one above it applies. -/
theorem discover_not_nearest_file :
    ¬ ∀ (read : String → Except Fault String) (start : String) (n : Nat) (text : String),
      n < 10 → NearestFile read start n text →
        Id.run (discover read start) = (parse text).toOption.getD {} := by
  intro hnearest
  have hdefault := hnearest malformedBelow "bad" 0 "[analysis\n" (by omega)
    nearestFile_malformedBelow
  rw [parse_malformed, Option.getD_none,
    discover_of_nearestRight (by decide) nearestRight_malformedBelow] at hdefault
  cases congrArg Config.analysis hdefault

end Config

end FunctionalSize
