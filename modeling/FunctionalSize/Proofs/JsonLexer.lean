import FunctionalSize.Json.Token
import Mathlib.Tactic.IntervalCases

set_option autoImplicit false

namespace FunctionalSize

namespace Json

def codeUnit? (digits : List Char) : Option Nat :=
  (digits.mapM hexDigit?).map fun values => values.foldl (fun unit d => unit * 16 + d) 0

inductive CharText : Char → List Char → Prop where
  | plain {c : Char} (hquote : c ≠ '"') (hslash : c ≠ '\\') (hcontrol : ' ' ≤ c) :
      CharText c [c]
  | letter {l c : Char} (hl : escaped? l = some c) : CharText c ['\\', l]
  | unit {a b c d : Char} {unit : Nat} (hunit : codeUnit? [a, b, c, d] = some unit)
      (hscalar : unit < 0xD800 ∨ 0xDFFF < unit) :
      CharText (Char.ofNat unit) ['\\', 'u', a, b, c, d]
  | pair {a b c d a' b' c' d' : Char} {high low : Nat}
      (hhigh : codeUnit? [a, b, c, d] = some high) (hh : 0xD800 ≤ high ∧ high ≤ 0xDBFF)
      (hlow : codeUnit? [a', b', c', d'] = some low) (hl : 0xDC00 ≤ low ∧ low ≤ 0xDFFF) :
      CharText (Char.ofNat (0x10000 + (high - 0xD800) * 0x400 + (low - 0xDC00)))
        (['\\', 'u', a, b, c, d] ++ ['\\', 'u', a', b', c', d'])

inductive Quoted : List Char → List Char → Prop where
  | nil : Quoted [] []
  | cons {c : Char} {own text chars : List Char} (hown : CharText c own)
      (rest : Quoted chars text) : Quoted (c :: chars) (own ++ text)

inductive TokenText : Token → List Char → Prop where
  | arrayOpen : TokenText .arrayOpen ['[']
  | arrayClose : TokenText .arrayClose [']']
  | objectOpen : TokenText .objectOpen ['\x7b']
  | objectClose : TokenText .objectClose ['\x7d']
  | comma : TokenText .comma [',']
  | colon : TokenText .colon [':']
  | null : TokenText .null ['n', 'u', 'l', 'l']
  | yes : TokenText (.bool true) ['t', 'r', 'u', 'e']
  | no : TokenText (.bool false) ['f', 'a', 'l', 's', 'e']
  | string {text chars : List Char} (h : Quoted chars text) :
      TokenText (.string (String.ofList chars)) ('"' :: (text ++ ['"']))
  | natural {n : Nat} (h : n < UInt64.size) :
      TokenText (.number (.integer n)) (Nat.toDigits 10 n)

/-- A text that does not go on with a number that stands before it. -/
def EndsNumber : List Char → Prop
  | [] => True
  | c :: _ => digit? c = none ∧ c ≠ '.' ∧ c ≠ 'e' ∧ c ≠ 'E'

inductive Spells : List Token → List Char → Prop where
  | nil : Spells [] []
  | blank {c : Char} {ts : List Token} {text : List Char} (hc : isBlank c = true)
      (rest : Spells ts text) : Spells ts (c :: text)
  | token {t : Token} {own text : List Char} {ts : List Token} (hown : TokenText t own)
      (hend : ∀ n, t = .number n → EndsNumber text) (rest : Spells ts text) :
      Spells (t :: ts) (own ++ text)

namespace Lexer

variable (before : List Token)

theorem step_blank {c : Char} (hc : isBlank c = true) :
    step ⟨.between, before⟩ c = ⟨.between, before⟩ := by
  simp [step, begin, hc, enter]

theorem foldl_unit {a b c d : Char} {unit : Nat} (h : codeUnit? [a, b, c, d] = some unit)
    (chars : List Char) (high : Option Nat) :
    [a, b, c, d].foldl step ⟨.unit chars high 4 0, before⟩ =
      endUnit ⟨.between, before⟩ chars high unit := by
  obtain ⟨va, ha, vb, vc, vd, ⟨hb, hc, hd⟩, rfl⟩ : ∃ va, hexDigit? a = some va ∧ ∃ vb vc vd,
      (hexDigit? b = some vb ∧ hexDigit? c = some vc ∧ hexDigit? d = some vd) ∧
        ((va * 16 + vb) * 16 + vc) * 16 + vd = unit := by
    simpa [codeUnit?, Option.bind_eq_some_iff] using h
  simp [step, enter, ha, hb, hc, hd, endUnit, stop]

theorem foldl_charText {c : Char} {own : List Char} (h : CharText c own) (chars : List Char) :
    own.foldl step ⟨.text chars, before⟩ = ⟨.text (c :: chars), before⟩ := by
  cases h with
  | plain hquote hslash hcontrol =>
    simp [step, enter, hquote, hslash, Char.not_lt.2 hcontrol]
  | @letter l _ hl =>
    have hu : l ≠ 'u' := by
      rintro rfl
      simp [escaped?] at hl
    simp [step, enter, hu, hl]
  | @unit a b c d unit hunit hscalar =>
    have hhigh : ¬ (0xD800 ≤ unit ∧ unit ≤ 0xDBFF) := by omega
    have hlow : ¬ (0xDC00 ≤ unit ∧ unit ≤ 0xDFFF) := by omega
    change [a, b, c, d].foldl step ⟨.unit chars none 4 0, before⟩ = _
    rw [foldl_unit before hunit]
    simp [endUnit, enter, hhigh, hlow]
  | @pair a b c d a' b' c' d' high low hhigh hh hlow hl =>
    have hfirst : ['\\', 'u', a, b, c, d].foldl step ⟨.text chars, before⟩
        = ⟨.pairSlash chars high, before⟩ := by
      change [a, b, c, d].foldl step ⟨.unit chars none 4 0, before⟩ = _
      rw [foldl_unit before hhigh]
      simp [endUnit, enter, hh]
    rw [List.foldl_append, hfirst]
    change [a', b', c', d'].foldl step ⟨.unit chars (some high) 4 0, before⟩ = _
    rw [foldl_unit before hlow]
    simp [endUnit, enter, hl]

theorem foldl_quoted {chars text : List Char} (h : Quoted chars text) (read : List Char) :
    text.foldl step ⟨.text read, before⟩ = ⟨.text (chars.reverse ++ read), before⟩ := by
  induction h generalizing read with
  | nil => rfl
  | cons hown _ ih =>
    rw [List.foldl_append, foldl_charText before hown, ih, List.reverse_cons, List.append_assoc,
      List.singleton_append]

theorem foldl_string {chars text : List Char} (h : Quoted chars text) :
    ('"' :: (text ++ ['"'])).foldl step ⟨.between, before⟩ =
      ⟨.between, .string (String.ofList chars) :: before⟩ := by
  have hopen : step ⟨.between, before⟩ '"' = ⟨.text [], before⟩ := rfl
  rw [List.foldl_cons, hopen, List.foldl_append, foldl_quoted before h]
  simp [step, emit]

theorem digit?_digitChar {d : Nat} (hd : d < 10) : digit? d.digitChar = some d := by
  interval_cases d <;> rfl

theorem foldl_toDigits {n : Nat} (hn : 0 < n) :
    (Nat.toDigits 10 n).foldl step ⟨.between, before⟩ =
      ⟨.whole { significand := n }, before⟩ := by
  induction n using Nat.strongRecOn with
  | ind n ih =>
    by_cases hsmall : n < 10
    · rw [Nat.toDigits_of_lt_base hsmall]
      interval_cases n <;> rfl
    · have hlast : n % 10 < 10 := by omega
      rw [Nat.toDigits_of_base_le (by omega) (by omega), List.foldl_append,
        ih (n / 10) (by omega) (by omega)]
      have hvalue : n / 10 * 10 + n % 10 = n := by omega
      simp [step, digit?_digitChar hlast, enter, Numeral.digit, hvalue]

theorem toInteger?_natural {n : Nat} (h : n < UInt64.size) :
    Numeral.toInteger? { significand := n } = some (.integer n) := by
  simp [Numeral.toInteger?, h]

theorem finish_foldl_number {n : Nat} (h : n < UInt64.size) {text : List Char}
    (hend : EndsNumber text) {l : Lexer} (hl : l = ⟨.zero { significand := n }, before⟩ ∨
      l = ⟨.whole { significand := n }, before⟩) :
    (text.foldl step l).finish =
      (text.foldl step ⟨.between, .number (.integer n) :: before⟩).finish := by
  cases text with
  | nil => rcases hl with rfl | rfl <;> simp [finish, emitNumber, toInteger?_natural h, emit]
  | cons c text =>
    obtain ⟨hdigit, hpoint, he, hE⟩ := hend
    have hstep : step l c = step ⟨.between, .number (.integer n) :: before⟩ c := by
      rcases hl with rfl | rfl <;>
        simp [step, hdigit, hpoint, he, hE, toInteger?_natural h, endNumber, emit]
    rw [List.foldl_cons, List.foldl_cons, hstep]

/-- After the text of a token the lexer goes on as if it had just put that token out. -/
theorem finish_foldl_token {t : Token} {own text : List Char} (hown : TokenText t own)
    (hend : ∀ n, t = .number n → EndsNumber text) :
    ((own ++ text).foldl step ⟨.between, before⟩).finish =
      (text.foldl step ⟨.between, t :: before⟩).finish := by
  rw [List.foldl_append]
  cases hown with
  | @natural n h =>
    apply finish_foldl_number before h (hend _ rfl)
    -- a zero in front is a number of its own, so only positive numbers are read digit by digit
    rcases Nat.eq_zero_or_pos n with rfl | hn
    · exact Or.inl rfl
    · exact Or.inr (foldl_toDigits before hn)
  | string h => rw [foldl_string before h]
  | arrayOpen | arrayClose | objectOpen | objectClose | comma | colon | null | yes | no => rfl

theorem finish_foldl_spells {ts : List Token} {text : List Char} (h : Spells ts text) :
    (text.foldl step ⟨.between, before⟩).finish = before.reverse ++ ts := by
  induction h generalizing before with
  | nil => simp [finish]
  | blank hc _ ih => rw [List.foldl_cons, step_blank before hc, ih]
  | token hown hend _ ih =>
    rw [finish_foldl_token before hown hend, ih, List.reverse_cons, List.append_assoc,
      List.singleton_append]

end Lexer

theorem tokens_of_spells {ts : List Token} {text : String} (h : Spells ts text.toList) :
    tokens text = ts :=
  Lexer.finish_foldl_spells [] h

end Json

end FunctionalSize
