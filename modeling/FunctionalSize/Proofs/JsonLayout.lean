import FunctionalSize.Json.Value
import FunctionalSize.Proofs.JsonParser
import Mathlib.Tactic.FinCases
import Mathlib.Tactic.SplitIfs

set_option autoImplicit false

namespace FunctionalSize

namespace Json

/-- A piece of a text that stands for some tokens wherever a number may end after it. -/
def Segment (ts : List Token) (text : List Char) : Prop :=
  ∀ later rest, Spells later rest → EndsNumber rest → Spells (ts ++ later) (text ++ rest)

namespace Segment

variable {t : Token} {ts us : List Token} {own text more : List Char}

theorem nil : Segment [] [] := fun _ _ hlater _ => hlater

theorem token (hown : TokenText t own) : Segment [t] own :=
  fun _ _ hlater hend => .token hown (fun _ _ => hend) hlater

theorem cons (hown : TokenText t own) (ht : ∀ n, t ≠ .number n) (h : Segment ts text) :
    Segment (t :: ts) (own ++ text) := by
  intro later rest hlater hend
  rw [List.cons_append, List.append_assoc]
  exact .token hown (fun n hn => absurd hn (ht n)) (h later rest hlater hend)

theorem append (h : Segment ts text) (hmore : Segment us more) (hend : EndsNumber more) :
    Segment (ts ++ us) (text ++ more) := by
  intro later rest hlater hrest
  have hends : EndsNumber (more ++ rest) := by
    cases more with
    | nil => exact hrest
    | cons c more => exact hend
  rw [List.append_assoc, List.append_assoc]
  exact h _ _ (hmore later rest hlater hrest) hends

theorem blanks (hown : ∀ c ∈ own, isBlank c = true) (h : Segment ts text) :
    Segment ts (own ++ text) := by
  intro later rest hlater hend
  induction own with
  | nil => exact h later rest hlater hend
  | cons c own ih =>
    exact .blank (hown c List.mem_cons_self) (ih fun c' hc' => hown c' (List.mem_cons_of_mem c hc'))

theorem spells (h : Segment ts text) : Spells ts text := by
  have hspells := h [] [] .nil trivial
  rwa [List.append_nil, List.append_nil] at hspells

end Segment

theorem hexDigit?_hexDigit {d : Nat} (hd : d < 16) : hexDigit? (hexDigit d) = some d := by
  interval_cases d <;> rfl

theorem charText_escapeChar (c : Char) : CharText c (escapeChar c) := by
  unfold escapeChar
  split_ifs with hquote hslash hb ht hn hf hr hcontrol
  · exact .letter (by rw [hquote]; rfl)
  · exact .letter (by rw [hslash]; rfl)
  · exact .letter (by rw [hb]; rfl)
  · exact .letter (by rw [ht]; rfl)
  · exact .letter (by rw [hn]; rfl)
  · exact .letter (by rw [hf]; rfl)
  · exact .letter (by rw [hr]; rfl)
  · have hlt : c.toNat < 32 := hcontrol
    have hunit : codeUnit? ['0', '0', hexDigit (c.toNat / 16), hexDigit (c.toNat % 16)]
        = some c.toNat := by
      have hzero : hexDigit? '0' = some 0 := rfl
      have hhigh := hexDigit?_hexDigit (d := c.toNat / 16) (by omega)
      have hlow := hexDigit?_hexDigit (d := c.toNat % 16) (by omega)
      simp [codeUnit?, hzero, hhigh, hlow]
      omega
    have htext := CharText.unit hunit (by omega)
    rwa [Char.ofNat_toNat] at htext
  · exact .plain hquote hslash (Char.not_lt.1 hcontrol)

theorem quoted_flatMap (chars : List Char) : Quoted chars (chars.flatMap escapeChar) := by
  induction chars with
  | nil => exact .nil
  | cons c chars ih =>
    rw [List.flatMap_cons]
    exact .cons (charText_escapeChar c) ih

theorem tokenText_quote (s : String) : TokenText (.string s) (quote s).toList := by
  have hquote := TokenText.string (quoted_flatMap s.toList)
  rw [String.ofList_toList] at hquote
  simpa [quote] using hquote

theorem tokenText_natural {n : Nat} (h : n < UInt64.size) :
    TokenText (.number (.integer n)) (Number.integer n).toText.toList := by
  have htext : (Number.integer n).toText.toList = Nat.toDigits 10 n := Nat.toList_repr
  rw [htext]
  exact .natural h

theorem tokenText_bool (b : Bool) :
    TokenText (.bool b) (if b then "true" else "false").toList := by
  cases b with
  | true => exact .yes
  | false => exact .no

theorem endsNumber_of_mark {c : Char} (hc : c ∈ [',', ']', '\x7d', ' ', '\n', '\t', '\r'])
    (text : List Char) : EndsNumber (c :: text) := by
  fin_cases hc <;> exact ⟨rfl, by decide, by decide, by decide⟩

theorem endsNumber_blanks {own text : List Char} (hown : ∀ c ∈ own, isBlank c = true)
    (h : EndsNumber text) : EndsNumber (own ++ text) := by
  cases own with
  | nil => exact h
  | cons c own =>
    have hc : c = ' ' ∨ c = '\n' ∨ c = '\t' ∨ c = '\r' := by
      simpa [isBlank, or_assoc] using hown c List.mem_cons_self
    exact endsNumber_of_mark (by simp [hc]) _

structure Layout.Blank (layout : Layout) : Prop where
  indent : ∀ level, ∀ c ∈ (layout.indent level).toList, isBlank c = true
  colon : ∃ gap, layout.colon.toList = ':' :: gap ∧ ∀ c ∈ gap, isBlank c = true

theorem Layout.compact_blank : Layout.compact.Blank where
  indent level c hc := by simp [Layout.compact] at hc
  colon := ⟨[], rfl, by simp⟩

theorem Layout.pretty_blank : Layout.pretty.Blank where
  indent level c hc := by
    have hnewline : c = '\n' ∨ level ≠ 0 ∧ c = ' ' := by simpa [Layout.pretty, newline] using hc
    rcases hnewline with rfl | ⟨-, rfl⟩ <;> rfl
  colon := ⟨[' '], rfl, by simp [isBlank]⟩

section Render

variable {layout : Layout} (hblank : layout.Blank) (level : Nat)

include hblank

theorem segment_member (k : String) {ts : List Token} {text : List Char} (h : Segment ts text) :
    Segment (.string k :: .colon :: ts)
      ((layout.indent level).toList ++ ((quote k).toList ++ (layout.colon.toList ++ text))) := by
  obtain ⟨gap, hcolon, hgap⟩ := hblank.colon
  have hvalue := (h.blanks hgap).cons .colon (by simp)
  rw [hcolon]
  exact (hvalue.cons (tokenText_quote k) (by simp)).blanks (hblank.indent level)

theorem segment_renderItems {items : List Json}
    (h : ∀ j ∈ items, Segment j.spelling (j.render layout level).toList) :
    Segment (itemsSpelling items) (renderItems layout level items).toList := by
  induction items with
  | nil =>
    rw [itemsSpelling, renderItems]
    exact .nil
  | cons j rest ih =>
    have hj := h j List.mem_cons_self
    cases rest with
    | nil =>
      rw [itemsSpelling, renderItems, String.toList_append]
      exact hj.blanks (hblank.indent level)
    | cons k rest =>
      have hrest := ih fun j' hj' => h j' (List.mem_cons_of_mem j hj')
      have hmore := hrest.cons .comma (by simp)
      have htext : (renderItems layout level (j :: k :: rest)).toList
          = (layout.indent level).toList ++ ((j.render layout level).toList
            ++ (',' :: (renderItems layout level (k :: rest)).toList)) := by
        rw [renderItems.eq_3 layout level j (k :: rest) (by simp)]
        simp
      rw [itemsSpelling_cons, htext]
      exact (hj.append hmore (endsNumber_of_mark (by simp) _)).blanks (hblank.indent level)

theorem segment_renderMembers {members : List (String × Json)}
    (h : ∀ m ∈ members, Segment m.2.spelling (m.2.render layout level).toList) :
    Segment (membersSpelling members) (renderMembers layout level members).toList := by
  induction members with
  | nil =>
    rw [membersSpelling, renderMembers]
    exact .nil
  | cons m rest ih =>
    have hm := h m List.mem_cons_self
    cases rest with
    | nil =>
      have htext : (renderMembers layout level [m]).toList
          = (layout.indent level).toList ++ ((quote m.1).toList ++ (layout.colon.toList
            ++ (m.2.render layout level).toList)) := by
        rw [renderMembers]
        simp
      rw [membersSpelling, htext]
      exact segment_member hblank level m.1 hm
    | cons m' rest =>
      have hrest := ih fun n hn => h n (List.mem_cons_of_mem m hn)
      have hmore := hrest.cons .comma (by simp)
      have htext : (renderMembers layout level (m :: m' :: rest)).toList
          = (layout.indent level).toList ++ ((quote m.1).toList ++ (layout.colon.toList
            ++ ((m.2.render layout level).toList
              ++ (',' :: (renderMembers layout level (m' :: rest)).toList)))) := by
        rw [renderMembers.eq_3 layout level m.1 m.2 (m' :: rest) (by simp)]
        simp
      rw [membersSpelling_cons, htext]
      exact segment_member hblank level m.1 (hm.append hmore (endsNumber_of_mark (by simp) _))

theorem segment_close {ts : List Token} {text : List Char} {t : Token} {c : Char}
    (h : Segment ts text) (ht : TokenText t [c]) (hc : EndsNumber [c]) :
    Segment (ts ++ [t]) (text ++ ((layout.indent level).toList ++ [c])) :=
  h.append ((Segment.token ht).blanks (hblank.indent level))
    (endsNumber_blanks (hblank.indent level) hc)

theorem segment_render {depth : Nat} {j : Json} (h : Plain depth j) :
    Segment j.spelling (j.render layout level).toList := by
  induction h generalizing level with
  | null =>
    rw [spelling, render]
    exact .token .null
  | bool b =>
    rw [spelling, render]
    exact .token (tokenText_bool b)
  | natural hn =>
    rw [spelling, render]
    exact .token (tokenText_natural hn)
  | string s =>
    rw [spelling, render]
    exact .token (tokenText_quote s)
  | @array depth items _ ih =>
    cases items with
    | nil =>
      have hclose : Segment [.arrayClose] [']'] := .token .arrayClose
      rw [spelling, itemsSpelling, render]
      exact hclose.cons .arrayOpen (by simp)
    | cons j rest =>
      have hitems := segment_renderItems hblank (level + 1) fun j' hj' => ih j' hj' (level + 1)
      have hclosed := segment_close hblank level hitems .arrayClose (endsNumber_of_mark (by simp) _)
      have htext : ((array (j :: rest)).render layout level).toList
          = '[' :: ((renderItems layout (level + 1) (j :: rest)).toList
            ++ ((layout.indent level).toList ++ [']'])) := by
        rw [render]
        · simp
        · simp
      rw [spelling, htext]
      exact hclosed.cons .arrayOpen (by simp)
  | @object depth members _ ih =>
    cases members with
    | nil =>
      have hclose : Segment [.objectClose] ['\x7d'] := .token .objectClose
      rw [spelling, membersSpelling, render]
      exact hclose.cons .objectOpen (by simp)
    | cons m rest =>
      have hmembers := segment_renderMembers hblank (level + 1) fun m' hm' => ih m' hm' (level + 1)
      have hclosed := segment_close hblank level hmembers .objectClose
        (endsNumber_of_mark (by simp) _)
      have htext : ((object (m :: rest)).render layout level).toList
          = '\x7b' :: ((renderMembers layout (level + 1) (m :: rest)).toList
            ++ ((layout.indent level).toList ++ ['\x7d'])) := by
        rw [render]
        · simp
        · simp
      rw [spelling, htext]
      exact hclosed.cons .objectOpen (by simp)

end Render

end Json

end FunctionalSize
