import FunctionalSize.LineCount

set_option autoImplicit false

/-!
# Line counts and a lexer

The lines of a source are told apart by a lexer that reads the whole text one character after
another. The count instead searches each line for comment marks and carries one flag from line to
line. Both give every line the same kind.
-/

namespace FunctionalSize

namespace Text

variable {α : Type}

def closeLineBy (char : α → Char) : List α → List α
  | [] => []
  | c :: chars => if char c = '\r' then chars.reverse else (c :: chars).reverse

def linesBy (char : α → Char) (chars : List α) : List α → List (List α)
  | [] => if chars.isEmpty then [] else [chars.reverse]
  | c :: rest =>
    if char c = '\n' then closeLineBy char chars :: linesBy char [] rest
    else linesBy char (c :: chars) rest

theorem mem_of_mem_closeLine {c : Char} {chars : List Char} (h : c ∈ closeLine chars) :
    c ∈ chars := by
  unfold closeLine at h
  split at h <;> simp_all

theorem map_closeLineBy (char : α → Char) (chars : List α) :
    (closeLineBy char chars).map char = closeLine (chars.map char) := by
  cases chars with
  | nil => rfl
  | cons c chars =>
    by_cases hc : char c = '\r'
    · simp [closeLineBy, closeLine, hc]
    · rw [closeLineBy, if_neg hc, List.map_cons, closeLine]
      · simp
      · simpa using hc

theorem closeLineBy_of_map {char : α → Char} {chars : List α} {c : Char} {before : List Char}
    (h : chars.map char = c :: before) (hc : c ≠ '\r') :
    closeLineBy char chars = chars.reverse := by
  cases chars with
  | nil => cases h
  | cons d chars =>
    obtain ⟨rfl, -⟩ := List.cons.inj h
    rw [closeLineBy, if_neg hc]

theorem map_linesBy (char : α → Char) (chars text : List α) :
    (linesBy char chars text).map (·.map char) = linesFrom (chars.map char) (text.map char) := by
  induction text generalizing chars with
  | nil => cases chars <;> simp [linesBy, linesFrom]
  | cons c rest ih =>
    rw [List.map_cons, linesBy, linesFrom]
    split
    · rw [List.map_cons, map_closeLineBy, ih, List.map_nil]
    · rw [ih, List.map_cons]

theorem linesBy_line {char : α → Char} {line : List α} (h : ∀ c ∈ line, char c ≠ '\n')
    (chars : List α) (e : α) (rest : List α) (he : char e = '\n') :
    linesBy char chars (line ++ e :: rest) =
      closeLineBy char (line.reverse ++ chars) :: linesBy char [] rest := by
  induction line generalizing chars with
  | nil => simp [linesBy, he]
  | cons c line ih =>
    rw [List.cons_append, linesBy, if_neg (h c List.mem_cons_self),
      ih (fun d hd => h d (List.mem_cons_of_mem c hd))]
    simp

theorem linesBy_last {char : α → Char} {line : List α} (h : ∀ c ∈ line, char c ≠ '\n')
    (chars : List α) : linesBy char chars line = linesBy char (line.reverse ++ chars) [] := by
  induction line generalizing chars with
  | nil => rfl
  | cons c line ih =>
    calc
      linesBy char chars (c :: line) = linesBy char (c :: chars) line :=
        if_neg (h c List.mem_cons_self)
      _ = linesBy char (line.reverse ++ c :: chars) [] :=
        ih (fun d hd => h d (List.mem_cons_of_mem c hd)) _
      _ = linesBy char ((c :: line).reverse ++ chars) [] := by
        rw [List.reverse_cons, List.append_assoc, List.singleton_append]

end Text

namespace LineCount

open Text

inductive Mode where
  | normal
  | lineComment
  | blockComment
deriving DecidableEq

def Mode.mark? : Mode → Char → Char → Option Mode
  | normal, '/', '/' => some lineComment
  | normal, '/', '*' => some blockComment
  | blockComment, '*', '/' => some normal
  | _, _, _ => none

def Mode.past (c : Char) : Mode → Mode
  | lineComment => if c = '\n' then normal else lineComment
  | mode => mode

structure Lexed where
  char : Char
  plain : Bool

/-- Reads a text from left to right; the characters, and the mode at the end. -/
def lex (mode : Mode) : List Char → List Lexed × Mode
  | [] => ([], mode)
  | [c] => ([⟨c, mode = .normal⟩], mode.past c)
  | c :: d :: rest =>
    match mode.mark? c d with
    | some next =>
      let (chars, last) := lex next rest
      (⟨c, false⟩ :: ⟨d, false⟩ :: chars, last)
    | none =>
      let (chars, last) := lex (mode.past c) (d :: rest)
      (⟨c, mode = .normal⟩ :: chars, last)

theorem map_char_lex (mode : Mode) (text : List Char) :
    (lex mode text).1.map Lexed.char = text := by
  fun_induction lex mode text <;> simp_all

theorem lex_cons {mode : Mode} {c : Char} {rest : List Char}
    (h : ∀ d ∈ rest.head?, mode.mark? c d = none) :
    lex mode (c :: rest) =
      (⟨c, mode = .normal⟩ :: (lex (mode.past c) rest).1, (lex (mode.past c) rest).2) := by
  cases rest with
  | nil => rfl
  | cons d rest => rw [lex, h d (by simp)]

theorem mark?_of_right {mode : Mode} {c d : Char} (h : d ≠ '/' ∧ d ≠ '*') :
    mode.mark? c d = none := by
  unfold Mode.mark?
  split <;> simp_all

theorem mark?_of_left {mode : Mode} {c d : Char} (h : c ≠ '/' ∧ c ≠ '*') :
    mode.mark? c d = none := by
  unfold Mode.mark?
  split <;> simp_all

theorem lex_append (mode : Mode) (left : List Char) {right : List Char}
    (h : ∀ c ∈ right.head?, c ≠ '/' ∧ c ≠ '*') :
    lex mode (left ++ right) =
      ((lex mode left).1 ++ (lex (lex mode left).2 right).1, (lex (lex mode left).2 right).2) := by
  fun_induction lex mode left with
  | case1 mode => rfl
  | case2 mode c => exact lex_cons fun d hd => mark?_of_right (h d hd)
  | case3 mode c d rest next hmark chars last hrest ih =>
    rw [hrest] at ih
    rw [List.cons_append, List.cons_append, lex, hmark]
    simp only [ih, List.cons_append]
  | case4 mode c d rest hmark chars last hrest ih =>
    rw [hrest] at ih
    rw [List.cons_append, lex_cons (by simpa using hmark), ih]
    rfl

theorem splitFirst?_cons {pat text : List Char} {c : Char}
    (h : ¬ pat.isPrefixOf (c :: text)) :
    splitFirst? pat (c :: text) = (splitFirst? pat text).map fun cut => (c :: cut.1, cut.2) := by
  rw [splitFirst?, if_neg h]

theorem scan_inBlock (text : List Char) :
    scan true text =
      match splitFirst? blockEnd text with
      | none => (false, true)
      | some cut => scan false cut.2 := by
  rw [scan, if_pos rfl]
  split <;> simp [*]

theorem scan_outside (text : List Char) :
    scan false text =
      match nearestMark text with
      | .none => (hasText text, false)
      | .line before => (hasText before, false)
      | .block before after => (hasText before || (scan true after).1, (scan true after).2) := by
  rw [scan, if_neg (by simp)]
  split <;> simp [*]

def Mark.after (c : Char) : Mark → Mark
  | none => none
  | line before => line (c :: before)
  | block before after => block (c :: before) after

theorem nearestMark_cons {c : Char} {text : List Char} (hline : ¬ lineMark.isPrefixOf (c :: text))
    (hblock : ¬ blockMark.isPrefixOf (c :: text)) :
    nearestMark (c :: text) = (nearestMark text).after c := by
  rw [nearestMark, nearestMark, splitFirst?_cons hline, splitFirst?_cons hblock]
  cases splitFirst? lineMark text with
  | none =>
    cases splitFirst? blockMark text with
    | none => rfl
    | some cut => rfl
  | some cutLine =>
    cases splitFirst? blockMark text with
    | none => rfl
    | some cut =>
      simp only [Option.map_some, List.length_cons, Nat.add_lt_add_iff_right]
      split <;> rfl

theorem nearestMark_line (rest : List Char) : nearestMark ('/' :: '/' :: rest) = .line [] := by
  have hline : splitFirst? lineMark ('/' :: '/' :: rest) = some ([], rest) := by
    simp [splitFirst?, lineMark]
  rw [nearestMark, hline, splitFirst?_cons (by simp [blockMark])]
  cases splitFirst? blockMark ('/' :: rest) <;> simp

theorem nearestMark_block (rest : List Char) :
    nearestMark ('/' :: '*' :: rest) = .block [] rest := by
  have hblock : splitFirst? blockMark ('/' :: '*' :: rest) = some ([], rest) := by
    simp [splitFirst?, blockMark]
  rw [nearestMark, hblock, splitFirst?_cons (by simp [lineMark])]
  cases splitFirst? lineMark ('*' :: rest) <;> simp

def scanIn : Mode → List Char → Bool × Bool
  | .normal, text => scan false text
  | .lineComment, _ => (false, false)
  | .blockComment, text => scan true text

theorem scanIn_nil (mode : Mode) : scanIn mode [] = (false, decide (mode = .blockComment)) := by
  cases mode with
  | normal => simp [scanIn, scan_outside, nearestMark, splitFirst?, lineMark, blockMark, hasText]
  | lineComment => rfl
  | blockComment => simp [scanIn, scan_inBlock, splitFirst?, blockEnd]

theorem scanIn_mark {mode next : Mode} {c d : Char} (h : mode.mark? c d = some next)
    (rest : List Char) : scanIn mode (c :: d :: rest) = scanIn next rest := by
  unfold Mode.mark? at h
  split at h
  · cases h
    simp [scanIn, scan_outside, nearestMark_line, hasText]
  · cases h
    simp [scanIn, scan_outside, nearestMark_block, hasText]
  · cases h
    simp [scanIn, scan_inBlock, splitFirst?, blockEnd]
  · cases h

theorem not_isPrefixOf_of_mark? {mode : Mode} {a b c : Char} {rest : List Char}
    (hmark : (mode.mark? a b).isSome) (h : ∀ d ∈ rest.head?, mode.mark? c d = none) :
    ¬ [a, b].isPrefixOf (c :: rest) := by
  intro hpre
  cases rest with
  | nil => simp at hpre
  | cons d rest =>
    obtain ⟨rfl, rfl⟩ : a = c ∧ b = d := by simpa using hpre
    rw [h b rfl] at hmark
    cases hmark

theorem scanIn_cons {mode : Mode} {c : Char} {rest : List Char}
    (h : ∀ d ∈ rest.head?, mode.mark? c d = none) :
    scanIn mode (c :: rest) =
      (decide (mode = .normal) && !isBlank c || (scanIn mode rest).1, (scanIn mode rest).2) := by
  cases mode with
  | normal =>
    have hline : ¬ lineMark.isPrefixOf (c :: rest) := not_isPrefixOf_of_mark? rfl h
    have hblock : ¬ blockMark.isPrefixOf (c :: rest) := not_isPrefixOf_of_mark? rfl h
    simp only [scanIn]
    rw [scan_outside, scan_outside, nearestMark_cons hline hblock]
    cases nearestMark rest with
    | none => simp [Mark.after, hasText]
    | line before => simp [Mark.after, hasText]
    | block before after => simp [Mark.after, hasText, Bool.or_assoc]
  | lineComment => simp [scanIn]
  | blockComment =>
    have hend : ¬ blockEnd.isPrefixOf (c :: rest) := not_isPrefixOf_of_mark? rfl h
    simp only [scanIn]
    rw [scan_inBlock, scan_inBlock, splitFirst?_cons hend]
    cases splitFirst? blockEnd rest <;> simp

theorem Mode.past_of_ne {c : Char} (h : c ≠ '\n') (mode : Mode) : mode.past c = mode := by
  cases mode <;> simp [past, h]

def Lexed.isCode (c : Lexed) : Bool := c.plain && !isBlank c.char

/-- On one line, jumping from mark to mark finds what the lexer finds. -/
theorem scanIn_eq_lex {mode : Mode} {line : List Char} (h : '\n' ∉ line) :
    scanIn mode line =
      ((lex mode line).1.any Lexed.isCode, decide ((lex mode line).2 = .blockComment)) := by
  fun_induction lex mode line with
  | case1 mode => exact scanIn_nil mode
  | case2 mode c =>
    have hc : c ≠ '\n' := (List.ne_of_not_mem_cons h).symm
    rw [scanIn_cons (by simp), scanIn_nil, Mode.past_of_ne hc]
    simp [Lexed.isCode]
  | case3 mode c d rest next hmark chars last hrest ih =>
    have htail : '\n' ∉ rest := List.not_mem_of_not_mem_cons (List.not_mem_of_not_mem_cons h)
    rw [scanIn_mark hmark, ih htail, hrest]
    simp [Lexed.isCode]
  | case4 mode c d rest hmark chars last hrest ih =>
    have hc : c ≠ '\n' := (List.ne_of_not_mem_cons h).symm
    rw [Mode.past_of_ne hc] at ih hrest
    rw [scanIn_cons (by simpa using hmark), ih (List.not_mem_of_not_mem_cons h), hrest]
    simp [Lexed.isCode]

def kindOf (line : List Lexed) : LineKind :=
  if line.all fun c => isBlank c.char then .blank
  else if line.any Lexed.isCode then .code
  else .comment

theorem lex_blank {mode : Mode} {line : List Char} (h : '\n' ∉ line)
    (hblank : ∀ c ∈ line, isBlank c) : (lex mode line).2 = mode := by
  induction line with
  | nil => rfl
  | cons c line ih =>
    have hc : c ≠ '/' ∧ c ≠ '*' := by
      constructor <;> (rintro rfl; exact absurd (hblank _ List.mem_cons_self) (by decide))
    rw [lex_cons fun d _ => mark?_of_left hc, Mode.past_of_ne (List.ne_of_not_mem_cons h).symm]
    exact ih (List.not_mem_of_not_mem_cons h) fun d hd => hblank d (List.mem_cons_of_mem c hd)

theorem classify_eq_lex {mode : Mode} {line : List Char} (h : '\n' ∉ line)
    (hmode : mode ≠ .lineComment) :
    classify (decide (mode = .blockComment)) line =
      (kindOf (lex mode line).1, decide ((lex mode line).2 = .blockComment)) := by
  have hscan : scan (decide (mode = .blockComment)) line = scanIn mode line := by
    cases mode with
    | normal => rfl
    | lineComment => exact absurd rfl hmode
    | blockComment => rfl
  have htext : ((lex mode line).1.all fun c => isBlank c.char) = !hasText line := by
    conv => rhs; rw [← map_char_lex mode line]
    simp [hasText, List.any_map, List.all_eq_not_any_not, Function.comp_def]
  unfold classify kindOf
  rw [htext]
  cases hline : hasText line with
  | true => simp [hscan, scanIn_eq_lex h]
  | false =>
    have hblank : ∀ c ∈ line, isBlank c := by simpa [hasText] using hline
    simp [lex_blank h hblank]

def lexedLines (text : String) : List (List Lexed) :=
  linesBy Lexed.char [] (lex .normal text.toList).1

theorem closeLine_lex (mode : Mode) (line : List Char) :
    closeLineBy Lexed.char (lex mode line).1.reverse = (lex mode (closeLine line.reverse)).1 ∧
      (lex mode line).2 = (lex mode (closeLine line.reverse)).2 := by
  rcases List.eq_nil_or_concat line with rfl | ⟨init, c, rfl⟩
  · exact ⟨rfl, rfl⟩
  rw [List.concat_eq_append]
  by_cases hc : c = '\r'
  · -- a carriage return is no part of a mark, so reading without it ends in the same mode
    subst hc
    rw [lex_append mode init (by simp)]
    simp [closeLine, closeLineBy, lex, Mode.past_of_ne]
  · have hkept : closeLine (init ++ [c]).reverse = init ++ [c] := by
      simp [closeLine, hc]
    have hread : (lex mode (init ++ [c])).1.reverse.map Lexed.char = c :: init.reverse := by
      simp [map_char_lex]
    rw [hkept, closeLineBy_of_map hread hc, List.reverse_reverse]
    exact ⟨rfl, rfl⟩

theorem Mode.past_newline (mode : Mode) :
    mode.past '\n' ≠ .lineComment ∧
      decide (mode.past '\n' = .blockComment) = decide (mode = .blockComment) := by
  cases mode <;> simp [past]

theorem char_ne_of_not_mem {mode : Mode} {line : List Char} (h : '\n' ∉ line) :
    ∀ c ∈ (lex mode line).1, c.char ≠ '\n' := by
  intro c hc he
  apply h
  rw [← map_char_lex mode line, ← he]
  exact List.mem_map_of_mem hc

theorem map_char_lines (mode : Mode) (text : List Char) :
    (linesBy Lexed.char [] (lex mode text).1).map (·.map Lexed.char) = linesFrom [] text := by
  rw [map_linesBy, map_char_lex, List.map_nil]

theorem lines_lex_line (mode : Mode) {line : List Char} (h : '\n' ∉ line) (rest : List Char) :
    linesBy Lexed.char [] (lex mode (line ++ '\n' :: rest)).1 =
      (lex mode (closeLine line.reverse)).1 ::
        linesBy Lexed.char [] (lex ((lex mode line).2.past '\n') rest).1 := by
  have hread : (lex mode (line ++ '\n' :: rest)).1 = (lex mode line).1 ++
      ⟨'\n', (lex mode line).2 = .normal⟩ :: (lex ((lex mode line).2.past '\n') rest).1 := by
    rw [lex_append mode line (by simp), lex_cons fun d _ => mark?_of_left (by simp)]
  rw [hread, linesBy_line (char_ne_of_not_mem h) _ _ _ rfl, List.append_nil,
    (closeLine_lex mode line).1]

theorem lines_lex_last (mode : Mode) {line : List Char} (h : '\n' ∉ line) (hne : line ≠ []) :
    linesBy Lexed.char [] (lex mode line).1 = [(lex mode line).1] := by
  have hread : (lex mode line).1 ≠ [] := by
    intro he
    rw [← map_char_lex mode line, he] at hne
    exact hne rfl
  rw [linesBy_last (char_ne_of_not_mem h)]
  simp [linesBy, hread]

/-- A text that starts outside line comments: its lines have the kinds that the lexer finds, and
whether a block comment is open is all that one line needs to know of those before it. -/
theorem kinds_eq_lex (mode : Mode) (text : List Char) (hmode : mode ≠ .lineComment) :
    kinds (decide (mode = .blockComment)) (linesFrom [] text) =
      (linesBy Lexed.char [] (lex mode text).1).map kindOf := by
  by_cases hend : '\n' ∈ text
  · obtain ⟨line, rest, rfl, hline⟩ := List.eq_append_cons_of_mem hend
    obtain ⟨hnext, hflag⟩ := Mode.past_newline (lex mode line).2
    -- a line comment ends here, so the rest of the text is again one that this lemma is about
    have hrest := kinds_eq_lex ((lex mode line).2.past '\n') rest hnext
    have hfrom : linesFrom [] (line ++ '\n' :: rest) =
        closeLine line.reverse :: linesFrom [] rest := by
      rw [← map_char_lines mode, lines_lex_line mode hline, List.map_cons, map_char_lex,
        map_char_lines]
    have hcontent : '\n' ∉ closeLine line.reverse := fun hmem =>
      hline (List.mem_reverse.1 (mem_of_mem_closeLine hmem))
    rw [hfrom, lines_lex_line mode hline, List.map_cons, kinds, classify_eq_lex hcontent hmode,
      ← (closeLine_lex mode line).2, ← hflag]
    exact congrArg _ hrest
  · by_cases hnil : text = []
    · rw [hnil]
      rfl
    · have hlast := lines_lex_last mode hend hnil
      have hfrom : linesFrom [] text = [text] := by
        rw [← map_char_lines mode, hlast, List.map_singleton, map_char_lex]
      rw [hfrom, hlast, kinds, classify_eq_lex hend hmode]
      rfl
termination_by text.length
decreasing_by
  subst_vars
  simp
  omega

theorem count_kinds (kinds : List LineKind) :
    kinds.count .code + kinds.count .comment + kinds.count .blank = kinds.length := by
  induction kinds with
  | nil => rfl
  | cons kind kinds ih => cases kind <;> simp <;> omega

/-- Every line of a source has the kind that the lexer finds, and is counted once. -/
theorem ofSource_eq_lexed (text : String) :
    (lexedLines text).map (·.map Lexed.char) = lines text ∧
      kinds false (lines text) = (lexedLines text).map kindOf ∧
      ofSource text =
        { physical := (lines text).length
          code := (lexedLines text).countP fun line => kindOf line = .code
          comment := (lexedLines text).countP fun line => kindOf line = .comment
          blank := (lexedLines text).countP fun line => kindOf line = .blank
          files := 1 } ∧
      (ofSource text).code + (ofSource text).comment + (ofSource text).blank =
        (ofSource text).physical := by
  have hlines : (lexedLines text).map (·.map Lexed.char) = lines text := map_char_lines .normal _
  have hkinds : kinds false (lines text) = (lexedLines text).map kindOf :=
    kinds_eq_lex .normal text.toList (by simp)
  have hcount : ∀ kind, ((lexedLines text).map kindOf).count kind =
      (lexedLines text).countP fun line => kindOf line = kind := by
    intro kind
    rw [List.count_eq_countP, List.countP_map]
    rfl
  refine ⟨hlines, hkinds, ?_, count_kinds _⟩
  rw [ofSource, hkinds]
  simp only [hcount, List.length_map, ← hlines]

example : (lexedLines "/*/ a\n*// b\n//* c */ d\n\n").map kindOf =
    [.comment, .code, .comment, .blank] := by decide

end LineCount

end FunctionalSize
