import FunctionalSize.Report.Format
import FunctionalSize.Proofs.LineLexer
import Mathlib.Algebra.Ring.Nat
import Mathlib.Data.List.Forall2

set_option autoImplicit false

namespace FunctionalSize

namespace Text

/-- A text that is one line when a line feed is put after it. -/
def OneLine (s : String) : Prop := '\n' ∉ s.toList ∧ s.toList.getLast? ≠ some '\r'

theorem closeLine_of_head? {chars : List Char} (h : chars.head? ≠ some '\r') :
    closeLine chars = chars.reverse := by
  fun_cases closeLine chars with
  | case1 chars => simp at h
  | case2 chars _ => rfl

theorem linesFrom_line {line : List Char} (h : '\n' ∉ line) (rest : List Char) :
    linesFrom [] (line ++ '\n' :: rest) = closeLine line.reverse :: linesFrom [] rest := by
  have hlines : ∀ text, linesBy id [] text = linesFrom [] text := by
    intro text
    simpa using map_linesBy id [] text
  have hclose : closeLineBy id line.reverse = closeLine line.reverse := by
    simpa using map_closeLineBy id line.reverse
  have hfeed : ∀ c ∈ line, id c ≠ '\n' := fun c hc => ne_of_mem_of_not_mem hc h
  rw [← hlines, ← hlines, linesBy_line hfeed [] '\n' rest rfl, List.append_nil, hclose]

theorem lines_unlines_append {plain : List String} (h : ∀ line ∈ plain, OneLine line)
    (rest : List String) :
    lines (unlines (plain ++ rest)) = plain.map String.toList ++ lines (unlines rest) := by
  induction plain with
  | nil => rfl
  | cons line plain ih =>
    obtain ⟨⟨hfeed, hreturn⟩, hplain⟩ := List.forall_mem_cons.1 h
    rw [← List.head?_reverse] at hreturn
    rw [List.cons_append, lines, toList_unlines_cons, linesFrom_line hfeed,
      closeLine_of_head? hreturn, List.reverse_reverse, List.map_cons, List.cons_append,
      ← ih hplain]
    rfl

theorem length_linesFrom (chars line rest : List Char) :
    (linesFrom chars (line ++ '\n' :: rest)).length =
      line.count '\n' + 1 + (linesFrom [] rest).length := by
  induction line generalizing chars with
  | nil => simp [linesFrom, Nat.add_comm]
  | cons c line ih =>
    rw [List.cons_append, linesFrom]
    split
    · next hc =>
      rw [List.length_cons, ih, hc, List.count_cons_self]
      omega
    · next hc => rw [ih, List.count_cons_of_ne hc]

theorem length_lines_unlines (rows : List String) :
    (lines (unlines rows)).length =
      rows.length + (rows.map fun row => row.toList.count '\n').sum := by
  induction rows with
  | nil => rfl
  | cons row rows ih =>
    rw [lines] at ih
    rw [lines, toList_unlines_cons, length_linesFrom, ih, List.length_cons, List.map_cons,
      List.sum_cons]
    omega

end Text

namespace Markdown

/-- What stands between the column bars of a line. A bar after a backslash is part of the text. -/
def columns : List Char → List (List Char)
  | [] => [[]]
  | '\\' :: '|' :: rest => (columns rest).modifyHead ('|' :: ·)
  | '|' :: rest => [] :: columns rest
  | c :: rest => (columns rest).modifyHead (c :: ·)

def padded (cell : String) : List Char := ' ' :: (cell.toList ++ [' '])

def IsRow (cells : List String) (line : List Char) : Prop :=
  columns line = [] :: cells.map padded ++ [[]]

instance (cells : List String) (line : List Char) : Decidable (IsRow cells line) :=
  inferInstanceAs (Decidable (_ = _))

def rule : String := "|---------|--------|---|---|---|---|------|-----------|"

def rowLines (text : String) : List (List Char) :=
  ((Text.lines text).dropWhile (· ≠ rule.toList)).tail

theorem columns_ne_nil (line : List Char) : columns line ≠ [] := by
  fun_induction columns line <;> simp_all

theorem flatten_modifyHead {pieces : List (List Char)} (h : pieces ≠ []) (c : Char) :
    (pieces.modifyHead (c :: ·)).flatten = c :: pieces.flatten := by
  cases pieces with
  | nil => contradiction
  | cons piece pieces => rfl

/-- A bar that is text costs the line a backslash that no cell shows. -/
theorem count_backslash (line : List Char) :
    line.count '\\' = (columns line).flatten.count '\\' + (columns line).flatten.count '|' := by
  fun_induction columns line with
  | case1 => rfl
  | case2 rest ih =>
    rw [flatten_modifyHead (columns_ne_nil rest), List.count_cons_self, List.count_cons_self,
      List.count_cons_of_ne (by decide), List.count_cons_of_ne (by decide), ih]
    omega
  | case3 rest ih => rw [List.count_cons_of_ne (by decide), ih, List.flatten_cons, List.nil_append]
  | case4 c rest _ hbar ih =>
    rw [flatten_modifyHead (columns_ne_nil rest), List.count_cons, List.count_cons,
      List.count_cons_of_ne hbar, ih]
    omega

theorem columns_cons {c : Char} {rest : List Char} (hc : c ≠ '|') (hrest : rest.head? ≠ some '|') :
    columns (c :: rest) = (columns rest).modifyHead (c :: ·) := by
  rw [columns]
  · rintro after - rfl
    exact hrest rfl
  · exact hc

theorem columns_cell {cell : List Char} (h : '|' ∉ cell) (rest : List Char) :
    columns (cell ++ ' ' :: '|' :: rest) = (cell ++ [' ']) :: columns rest := by
  induction cell with
  | nil => simp [columns]
  | cons c cell ih =>
    rw [List.mem_cons, not_or] at h
    have hnext : (cell ++ ' ' :: '|' :: rest).head? ≠ some '|' := by
      cases cell with
      | nil => simp
      | cons d cell =>
        rw [List.mem_cons, not_or] at h
        simpa using Ne.symm h.2.1
    rw [List.cons_append, columns_cons (Ne.symm h.1) hnext, ih h.2, List.modifyHead_cons,
      List.cons_append]

theorem toList_markdownRow {cells : List String} (h : cells ≠ []) :
    (markdownRow cells).toList = '|' :: cells.flatMap fun cell => padded cell ++ ['|'] := by
  induction cells with
  | nil => contradiction
  | cons cell cells ih =>
    cases cells with
    | nil => simp [markdownRow, padded]
    | cons cell' cells =>
      have hrest := ih (by simp)
      simpa [markdownRow, padded, String.intercalate_cons_cons] using hrest

theorem columns_cells {cells : List String} (h : ∀ cell ∈ cells, '|' ∉ cell.toList) :
    columns (cells.flatMap fun cell => padded cell ++ ['|']) = cells.map padded ++ [[]] := by
  induction cells with
  | nil => rfl
  | cons cell cells ih =>
    obtain ⟨hcell, hcells⟩ := List.forall_mem_cons.1 h
    have hpadded : '|' ∉ ' ' :: cell.toList := by simpa using hcell
    have hline : ((cell :: cells).flatMap fun cell => padded cell ++ ['|']) =
        (' ' :: cell.toList) ++ ' ' :: '|' :: cells.flatMap fun cell => padded cell ++ ['|'] := by
      simp [padded]
    rw [hline, columns_cell hpadded, ih hcells]
    rfl

theorem isRow_markdownRow_iff {cells : List String} (h : cells ≠ []) :
    IsRow cells (markdownRow cells).toList ↔ ∀ cell ∈ cells, '|' ∉ cell.toList := by
  rw [IsRow, toList_markdownRow h]
  constructor
  · intro hrow
    -- the line has as many backslashes as the cells, so none of them stands before a bar
    have hcount := count_backslash ('|' :: cells.flatMap fun cell => padded cell ++ ['|'])
    have hline : ('|' :: cells.flatMap fun cell => padded cell ++ ['|']).count '\\' =
        (cells.flatMap padded).count '\\' := by
      simp [List.count_flatMap, Function.comp_def]
    have hcells : ([] :: cells.map padded ++ [[]]).flatten = cells.flatMap padded := by
      simp [List.flatMap_def]
    rw [hrow, hcells, hline] at hcount
    have hbars : '|' ∉ cells.flatMap padded := List.count_eq_zero.1 (by omega)
    intro cell hcell hbar
    exact hbars (List.mem_flatMap.2 ⟨cell, hcell, by simp [padded, hbar]⟩)
  · intro hbars
    rw [columns, columns_cells hbars]
    rfl

-- written with a backslash, a bar stays in its cell
example : IsRow ["a|b", "c"] "| a\\|b | c |".toList := by decide

theorem getLast?_markdownRow (cells : List String) :
    (markdownRow cells).toList.getLast? = some '|' := by
  rw [markdownRow, String.toList_append, List.getLast?_append]
  rfl

theorem notMem_markdownRow_iff {cells : List String} (h : cells ≠ []) :
    '\n' ∉ (markdownRow cells).toList ↔ ∀ cell ∈ cells, '\n' ∉ cell.toList := by
  rw [toList_markdownRow h]
  simp [padded]

theorem markdownRow_ne_rule (cells : List String) : markdownRow cells ≠ rule := by
  intro heq
  have hchars := congrArg String.toList heq
  simp [markdownRow, rule] at hchars

theorem oneLine_markdownRow {cells : List String} (h : '\n' ∉ (markdownRow cells).toList) :
    Text.OneLine (markdownRow cells) := by
  refine ⟨h, ?_⟩
  rw [getLast?_markdownRow]
  decide

theorem notMem_toDigits {c : Char} (hc : c.isDigit = false) (n : Nat) :
    c ∉ Nat.toDigits 10 n := by
  intro hmem
  have hdigit : c.isDigit = true := Nat.isDigit_of_mem_toDigits (by decide) (by decide) hmem
  rw [hc] at hdigit
  contradiction

end Markdown

namespace FunctionalProcess

theorem notMem_markdownCells_iff {p : FunctionalProcess} {c : Char} (hdigit : c.isDigit = false)
    (hquote : c ∉ "`".toList) :
    (∀ cell ∈ p.markdownCells, c ∉ cell.toList) ↔ c ∉ p.name.toList ∧ c ∉ p.source.toList := by
  have hends : ∀ s : String, c ∉ ("`" ++ s ++ "`").toList ↔ c ∉ s.toList := by
    intro s
    simp only [String.toList_append, List.mem_append, hquote, false_or, or_false]
  simp only [markdownCells, List.forall_mem_cons, hends]
  simp [Markdown.notMem_toDigits hdigit]

theorem markdownCells_ne_nil (p : FunctionalProcess) : p.markdownCells ≠ [] :=
  List.cons_ne_nil _ _

theorem isRow_markdownCells_iff {p : FunctionalProcess} :
    Markdown.IsRow p.markdownCells (markdownRow p.markdownCells).toList ↔
      '|' ∉ p.name.toList ∧ '|' ∉ p.source.toList := by
  rw [Markdown.isRow_markdownRow_iff p.markdownCells_ne_nil]
  exact notMem_markdownCells_iff (by decide) (by decide)

theorem oneLine_markdownCells_iff {p : FunctionalProcess} :
    '\n' ∉ (markdownRow p.markdownCells).toList ↔
      '\n' ∉ p.name.toList ∧ '\n' ∉ p.source.toList := by
  rw [Markdown.notMem_markdownRow_iff p.markdownCells_ne_nil]
  exact notMem_markdownCells_iff (by decide) (by decide)

end FunctionalProcess

namespace Report

open Markdown

/-- The lines after the rule are one row for each process, in order. Its cells are the name in back
quotes, the source, the four counts, the size and the number of routines. -/
def IsTabledIn (r : Report) (text : String) : Prop :=
  List.Forall₂ (fun p line => IsRow
      ["`" ++ p.name ++ "`", p.source, p.movements.entries.repr, p.movements.exits.repr,
        p.movements.reads.repr, p.movements.writes.repr, p.size.repr, p.routines.repr] line)
    r.processes (rowLines text)

def markdownHead (r : Report) : List String :=
  ["# COSMIC Functional Size Report", ""] ++ r.markdownSummary ++
    ["## Functional Processes", "", "| Process | Source | E | X | R | W | Size | Functions |"]

def markdownRows (r : Report) : List String :=
  r.processes.map fun p => markdownRow p.markdownCells

theorem markdownText_eq {r : Report} (h : r.processes ≠ []) :
    r.markdownText = Text.unlines (r.markdownHead ++ [rule] ++ r.markdownRows) := by
  have hempty : r.processes.isEmpty = false := by simpa using h
  rw [markdownText, markdownProcesses, hempty]
  simp [markdownHead, markdownRows, rule]

theorem markdownHead_lines (r : Report) :
    ∀ line ∈ r.markdownHead, Text.OneLine line ∧ line ≠ rule := by
  have htotal : ∀ label n, '\n' ∉ label.toList →
      Text.OneLine (markdownRow [label, Nat.repr n]) ∧ markdownRow [label, Nat.repr n] ≠ rule := by
    intro label n hlabel
    have hdigits : '\n' ∉ Nat.toDigits 10 n := notMem_toDigits (by decide) n
    refine ⟨oneLine_markdownRow ((notMem_markdownRow_iff (by simp)).2 ?_), markdownRow_ne_rule _⟩
    simp [hlabel, hdigits]
  simp only [markdownHead, markdownSummary, List.cons_append, List.nil_append,
    List.forall_mem_cons]
  refine ⟨?_, ?_, ?_, ?_, ?_, ?_, htotal _ _ ?_, htotal _ _ ?_, htotal _ _ ?_, htotal _ _ ?_,
    htotal _ _ ?_, htotal _ _ ?_, ?_, ?_, ?_, ?_⟩ <;> simp [Text.OneLine, rule]

theorem rowLines_markdownText {r : Report} (h : r.processes ≠ []) :
    rowLines r.markdownText = Text.lines (Text.unlines r.markdownRows) := by
  have hhead := r.markdownHead_lines
  have hplain : ∀ line ∈ r.markdownHead ++ [rule], Text.OneLine line := by
    intro line hline
    rcases List.mem_append.1 hline with hline | hline
    · exact (hhead line hline).1
    · rw [List.mem_singleton.1 hline]
      simp [Text.OneLine, rule]
  have hskip : ∀ line ∈ r.markdownHead.map String.toList, decide (line ≠ rule.toList) = true := by
    simp only [List.mem_map, decide_eq_true_eq]
    rintro line ⟨text, htext, rfl⟩
    exact fun heq => (hhead text htext).2 (String.toList_inj.1 heq)
  rw [rowLines, markdownText_eq h, Text.lines_unlines_append hplain, List.map_append,
    List.append_assoc, List.dropWhile_append_of_pos hskip]
  simp

theorem length_rows_iff {r : Report} :
    (Text.lines (Text.unlines r.markdownRows)).length = r.processes.length ↔
      ∀ p ∈ r.processes, '\n' ∉ p.name.toList ∧ '\n' ∉ p.source.toList := by
  have hfeeds : (r.markdownRows.map fun row => row.toList.count '\n').sum = 0 ↔
      ∀ p ∈ r.processes, '\n' ∉ (markdownRow p.markdownCells).toList := by
    simp [List.sum_eq_zero_iff_forall_eq_nat, markdownRows, List.count_eq_zero]
  simp only [FunctionalProcess.oneLine_markdownCells_iff] at hfeeds
  rw [Text.length_lines_unlines, ← hfeeds, markdownRows, List.length_map]
  omega

theorem lines_rows {r : Report}
    (h : ∀ p ∈ r.processes, '\n' ∉ p.name.toList ∧ '\n' ∉ p.source.toList) :
    Text.lines (Text.unlines r.markdownRows) =
      r.processes.map fun p => (markdownRow p.markdownCells).toList := by
  have hplain : ∀ line ∈ r.markdownRows, Text.OneLine line := by
    intro line hline
    obtain ⟨p, hp, rfl⟩ := List.mem_map.1 hline
    exact oneLine_markdownRow (FunctionalProcess.oneLine_markdownCells_iff.2 (h p hp))
  have hlines := Text.lines_unlines_append hplain []
  rw [List.append_nil] at hlines
  rw [hlines, markdownRows, List.map_map]
  exact List.append_nil _

theorem isTabledIn_iff_of_lines {r : Report} (h : r.processes ≠ [])
    (hfeeds : ∀ p ∈ r.processes, '\n' ∉ p.name.toList ∧ '\n' ∉ p.source.toList) :
    r.IsTabledIn r.markdownText ↔
      ∀ p ∈ r.processes, '|' ∉ p.name.toList ∧ '|' ∉ p.source.toList := by
  rw [IsTabledIn, rowLines_markdownText h, lines_rows hfeeds, List.forall₂_map_right_iff,
    List.forall₂_same]
  exact forall₂_congr fun p _ => FunctionalProcess.isRow_markdownCells_iff

/-- The Markdown text has a row of eight cells for each process exactly when no name and no source
has a bar or a line feed in it. -/
theorem markdownText_rows_iff {r : Report} (h : r.processes ≠ []) :
    r.IsTabledIn r.markdownText ↔
      ∀ p ∈ r.processes, ('|' ∉ p.name.toList ∧ '|' ∉ p.source.toList) ∧
        '\n' ∉ p.name.toList ∧ '\n' ∉ p.source.toList := by
  rw [forall₂_and]
  constructor
  · intro hshape
    -- there is a line for each process, so no line is left for what follows a line feed
    have hlength : (rowLines r.markdownText).length = r.processes.length :=
      hshape.length_eq.symm
    rw [rowLines_markdownText h, length_rows_iff] at hlength
    exact ⟨(isTabledIn_iff_of_lines h hlength).1 hshape, hlength⟩
  · rintro ⟨hbars, hfeeds⟩
    exact (isTabledIn_iff_of_lines h hfeeds).2 hbars

def escapedReport : Report :=
  ⟨⟨2, 0, 1, 0⟩, [⟨"main.(*T[string]).Serve`\\", "C:\\src\\main.go:3 ", ⟨1, 0, 1, 0⟩, 2⟩,
    ⟨"main.main", "", ⟨1, 0, 0, 0⟩, 1⟩]⟩

theorem markdownText_rows_iff_escapedReport :
    escapedReport.processes ≠ [] ∧ escapedReport.IsTabledIn escapedReport.markdownText := by
  have hne : escapedReport.processes ≠ [] := List.cons_ne_nil _ _
  exact ⟨hne, (markdownText_rows_iff hne).2 (by decide)⟩

def barredReport : Report :=
  ⟨⟨1, 0, 1, 0⟩, [⟨"main.main", "cmd|api/main.go:3", ⟨1, 0, 1, 0⟩, 2⟩]⟩

/-- Its row has nine cells, so names and sources do not always keep the shape of the table. -/
theorem markdownText_rows_not_kept :
    ¬ ∀ r : Report, r.processes ≠ [] → r.IsTabledIn r.markdownText := by
  intro hall
  have hne : barredReport.processes ≠ [] := List.cons_ne_nil _ _
  have hshape := hall barredReport hne
  rw [IsTabledIn, rowLines_markdownText hne, lines_rows (by decide)] at hshape
  cases hshape with
  | cons hrow _ => exact absurd hrow (by decide +kernel)

end Report

end FunctionalSize
