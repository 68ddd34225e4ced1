import FunctionalSize.Text

set_option autoImplicit false

namespace FunctionalSize

structure LineCount where
  physical : Nat := 0
  code : Nat := 0
  comment : Nat := 0
  blank : Nat := 0
  files : Nat := 0
deriving DecidableEq, Repr, Inhabited

inductive LineKind where
  | blank
  | comment
  | code
deriving DecidableEq, Repr, Inhabited

namespace LineCount

open Text

instance : Zero LineCount := ⟨{}⟩

instance : Add LineCount :=
  ⟨fun a b => ⟨a.physical + b.physical, a.code + b.code, a.comment + b.comment,
    a.blank + b.blank, a.files + b.files⟩⟩

/-- The nearest comment mark of a line, outside comments. -/
inductive Mark where
  | none
  | line (before : List Char)
  | block (before after : List Char)

def lineMark : List Char := ['/', '/']

def blockMark : List Char := ['/', '*']

def blockEnd : List Char := ['*', '/']

def nearestMark (text : List Char) : Mark :=
  match splitFirst? lineMark text, splitFirst? blockMark text with
  | some (beforeLine, _), some (before, after) =>
    if beforeLine.length < before.length then .line beforeLine else .block before after
  | some (beforeLine, _), none => .line beforeLine
  | none, some (before, after) => .block before after
  | none, none => .none

def hasText (text : List Char) : Bool := text.any (!isBlank ·)

theorem length_lt_of_nearestMark {text before after : List Char}
    (h : nearestMark text = .block before after) : after.length < text.length := by
  have key : ∀ cut, splitFirst? blockMark text = some cut → cut.2.length < text.length := by
    intro cut hcut
    have := length_after_splitFirst? hcut
    simp only [blockMark, List.length_cons, List.length_nil] at this
    omega
  unfold nearestMark at h
  split at h
  · next hb =>
    split at h
    · cases h
    · cases h
      exact key _ hb
  · cases h
  · next hb =>
    cases h
    exact key _ hb
  · cases h

/-- Whether the rest of a line has code, and whether a block comment is open at its end. -/
def scan (inBlock : Bool) (text : List Char) : Bool × Bool :=
  if inBlock then
    match _h : splitFirst? blockEnd text with
    | none => (false, true)
    | some (_, after) => scan false after
  else
    match _h : nearestMark text with
    | .none => (hasText text, false)
    | .line before => (hasText before, false)
    | .block before after =>
      let (code, last) := scan true after
      (hasText before || code, last)
termination_by text.length
decreasing_by
  · have := length_after_splitFirst? _h
    simp only [blockEnd, List.length_cons, List.length_nil] at this
    omega
  · exact length_lt_of_nearestMark _h

def classify (inBlock : Bool) (line : List Char) : LineKind × Bool :=
  if hasText line then
    let (code, last) := scan inBlock line
    (if code then .code else .comment, last)
  else (.blank, inBlock)

def kinds (inBlock : Bool) : List (List Char) → List LineKind
  | [] => []
  | line :: rest =>
    let (kind, last) := classify inBlock line
    kind :: kinds last rest

def ofSource (text : String) : LineCount :=
  let kinds := kinds false (lines text)
  { physical := kinds.length
    code := kinds.count .code
    comment := kinds.count .comment
    blank := kinds.count .blank
    files := 1 }

end LineCount

end FunctionalSize
