set_option autoImplicit false

namespace FunctionalSize

namespace Text

def isBlank (c : Char) : Bool :=
  let n := c.toNat
  (0x09 ≤ n && n ≤ 0x0D) || n == 0x20 || n == 0x85 || n == 0xA0 || n == 0x1680
    || (0x2000 ≤ n && n ≤ 0x200A) || n == 0x2028 || n == 0x2029 || n == 0x202F || n == 0x205F
    || n == 0x3000

/-- A line from its characters, last first, when a line feed ended it. -/
def closeLine : List Char → List Char
  | '\r' :: chars => chars.reverse
  | chars => chars.reverse

def linesFrom (chars : List Char) : List Char → List (List Char)
  | [] => if chars.isEmpty then [] else [chars.reverse]
  | c :: rest =>
    if c = '\n' then closeLine chars :: linesFrom [] rest else linesFrom (c :: chars) rest

def lines (text : String) : List (List Char) := linesFrom [] text.toList

def unlines (lines : List String) : String := String.join (lines.map (· ++ "\n"))

theorem toList_unlines_cons (line : String) (lines : List String) :
    (unlines (line :: lines)).toList = line.toList ++ '\n' :: (unlines lines).toList := by
  simp [unlines, String.toList_join]

def splitOn (mark : Char) (text : String) : List String :=
  (text.toList.splitOn mark).map String.ofList

/-- What stands before and after the leftmost occurrence of `pat`. -/
def splitFirst? (pat : List Char) : List Char → Option (List Char × List Char)
  | [] => if pat.isEmpty then some ([], []) else none
  | c :: s =>
    if pat.isPrefixOf (c :: s) then some ([], (c :: s).drop pat.length)
    else (splitFirst? pat s).map fun cut => (c :: cut.1, cut.2)

theorem splitFirst?_append {pat s before after : List Char}
    (h : splitFirst? pat s = some (before, after)) : s = before ++ pat ++ after := by
  induction s generalizing before after with
  | nil =>
    rw [splitFirst?] at h
    split at h
    · obtain ⟨rfl, rfl⟩ := Prod.mk.inj (Option.some.inj h)
      simp_all
    · exact absurd h (by simp)
  | cons c s ih =>
    rw [splitFirst?] at h
    split at h
    · next hp =>
      obtain ⟨rfl, rfl⟩ := Prod.mk.inj (Option.some.inj h)
      obtain ⟨t, ht⟩ := List.isPrefixOf_iff_prefix.1 hp
      rw [← ht]
      simp
    · obtain ⟨⟨b, a⟩, hcut, he⟩ := Option.map_eq_some_iff.1 h
      obtain ⟨rfl, rfl⟩ := Prod.mk.inj he
      simp [ih hcut]

theorem length_after_splitFirst? {pat s before after : List Char}
    (h : splitFirst? pat s = some (before, after)) :
    after.length + pat.length ≤ s.length := by
  rw [splitFirst?_append h]
  simp only [List.length_append]
  omega

def occursIn (fragment text : String) : Bool :=
  (splitFirst? fragment.toList text.toList).isSome

def endsWith (fragment text : String) : Bool :=
  fragment.toList.isSuffixOf text.toList

end Text

end FunctionalSize
