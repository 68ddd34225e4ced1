import FunctionalSize.Survey

set_option autoImplicit false

/-!
# The table of a survey read back

A reader of comma-separated values: records end with a line feed, and a field stands either as it is
or in quotes, with the quotes inside it doubled. Only a field in quotes may hold commas, quotes and
line ends, so that a record may go over several lines. The reader gives back the fields of every
record that is written in this way, and a survey is: the header and one record for each target.
-/

namespace FunctionalSize

namespace Csv

inductive Place where
  | start
  | plain
  | quoted
  | closed
  | broken
deriving DecidableEq, Repr, Inhabited

/-- What was read: the characters of a field, the fields of its record and the records before it,
all last first. -/
structure Reader where
  place : Place := .start
  field : List Char := []
  fields : List String := []
  records : List (List String) := []
deriving DecidableEq, Repr, Inhabited

def isPlain (c : Char) : Bool := c != ',' && c != '"' && c != '\n' && c != '\r'

def Plain (s : String) : Prop := ∀ c ∈ s.toList, isPlain c = true

theorem needsQuotes_eq_false_iff {s : String} : Survey.needsQuotes s = false ↔ Plain s := by
  rw [Survey.needsQuotes, List.any_eq_false]
  simp [Plain, isPlain, and_assoc]

namespace Reader

def take (r : Reader) (place : Place) (c : Char) : Reader :=
  { r with place, field := c :: r.field }

def endField (r : Reader) : Reader :=
  { r with place := .start, field := [], fields := String.ofList r.field.reverse :: r.fields }

def endRecord (r : Reader) : Reader :=
  { records := r.endField.fields.reverse :: r.records }

def delimit (r : Reader) (c : Char) : Reader :=
  if c = ',' then r.endField else if c = '\n' then r.endRecord else { r with place := .broken }

def step (r : Reader) (c : Char) : Reader :=
  match r.place with
  | .start =>
    if c = '"' then { r with place := .quoted }
    else if isPlain c then r.take .plain c else r.delimit c
  | .plain => if isPlain c then r.take .plain c else r.delimit c
  | .quoted => if c = '"' then { r with place := .closed } else r.take .quoted c
  | .closed => if c = '"' then r.take .quoted c else r.delimit c
  | .broken => r

def finish (r : Reader) : Option (List (List String)) :=
  match r.place with
  | .start => some (if r.fields.isEmpty then r.records else r.endRecord.records).reverse
  | .plain | .closed => some r.endRecord.records.reverse
  | .quoted | .broken => none

end Reader

def read? (text : String) : Option (List (List String)) :=
  (text.toList.foldl Reader.step {}).finish

namespace Reader

variable (fields : List String) (records : List (List String))

theorem foldl_plain {chars : List Char} (h : ∀ c ∈ chars, isPlain c = true) (field : List Char) :
    chars.foldl step ⟨.plain, field, fields, records⟩ =
      ⟨.plain, chars.reverse ++ field, fields, records⟩ := by
  induction chars generalizing field with
  | nil => rfl
  | cons c chars ih =>
    have hc := h c List.mem_cons_self
    have hstep : step ⟨.plain, field, fields, records⟩ c
        = ⟨.plain, c :: field, fields, records⟩ := by
      simp [step, hc, take]
    rw [List.foldl_cons, hstep, ih fun c' hc' => h c' (List.mem_cons_of_mem c hc')]
    simp

theorem foldl_doubleQuotes (chars field : List Char) :
    (Survey.doubleQuotes chars).foldl step ⟨.quoted, field, fields, records⟩ =
      ⟨.quoted, chars.reverse ++ field, fields, records⟩ := by
  induction chars generalizing field with
  | nil => rfl
  | cons c chars ih =>
    by_cases hc : c = '"' <;> simp [Survey.doubleQuotes, hc, step, take, ih]

theorem foldl_start {chars : List Char} (h : ∀ c ∈ chars, isPlain c = true) :
    ∃ place, (place = .start ∨ place = .plain) ∧
      chars.foldl step ⟨.start, [], fields, records⟩ =
        ⟨place, chars.reverse, fields, records⟩ := by
  cases chars with
  | nil => exact ⟨.start, .inl rfl, rfl⟩
  | cons c chars =>
    have hc := h c List.mem_cons_self
    have hquote : c ≠ '"' := by
      rintro rfl
      cases hc
    have hstep : step ⟨.start, [], fields, records⟩ c = ⟨.plain, [c], fields, records⟩ := by
      simp [step, hquote, hc, take]
    refine ⟨.plain, .inr rfl, ?_⟩
    rw [List.foldl_cons, hstep,
      foldl_plain fields records fun c' hc' => h c' (List.mem_cons_of_mem c hc')]
    simp

theorem foldl_csvField (s : String) {c : Char} (hc : c = ',' ∨ c = '\n') :
    ((Survey.csvField s).toList ++ [c]).foldl step ⟨.start, [], fields, records⟩ =
      delimit ⟨.start, s.toList.reverse, fields, records⟩ c := by
  have hquote : c ≠ '"' := by
    rintro rfl
    simp at hc
  have hplain : isPlain c = false := by rcases hc with rfl | rfl <;> rfl
  -- the place a field was read in is forgotten where the field ends
  have hdelimit : ∀ place, delimit ⟨place, s.toList.reverse, fields, records⟩ c
      = delimit ⟨.start, s.toList.reverse, fields, records⟩ c := by
    intro place
    rcases hc with rfl | rfl <;> rfl
  unfold Survey.csvField
  split
  · have hfield := foldl_doubleQuotes fields records s.toList []
    simp only [List.append_nil] at hfield
    simp [step, hfield, hquote, hdelimit]
  · next hneeds =>
    have hs : Plain s := needsQuotes_eq_false_iff.1 (Bool.not_eq_true _ ▸ hneeds)
    obtain ⟨place, hplace, hfield⟩ := foldl_start fields records hs
    rw [List.foldl_append, hfield]
    rcases hplace with rfl | rfl <;> simp [step, hquote, hplain, hdelimit]

theorem foldl_record {record : List String} (hne : record ≠ []) :
    ((",".intercalate (record.map Survey.csvField)).toList ++ ['\n']).foldl step
        ⟨.start, [], fields, records⟩ =
      ⟨.start, [], [], (fields.reverse ++ record) :: records⟩ := by
  induction record generalizing fields with
  | nil => contradiction
  | cons s rest ih =>
    cases rest with
    | nil =>
      have hfield := foldl_csvField fields records s (.inr rfl)
      rw [List.map_singleton, String.intercalate_singleton, hfield]
      simp [delimit, endRecord, endField]
    | cons s' rest =>
      have hfield := foldl_csvField fields records s (.inl rfl)
      have hcomma : delimit ⟨.start, s.toList.reverse, fields, records⟩ ','
          = ⟨.start, [], s :: fields, records⟩ := by
        simp [delimit, endField]
      have htext : (",".intercalate ((s :: s' :: rest).map Survey.csvField)).toList ++ ['\n']
          = ((Survey.csvField s).toList ++ [','])
            ++ ((",".intercalate ((s' :: rest).map Survey.csvField)).toList ++ ['\n']) := by
        simp [String.intercalate_cons_cons]
      rw [htext, List.foldl_append, hfield, hcomma, ih (s :: fields) (by simp)]
      simp

theorem foldl_unlines {table : List (List String)} (hne : ∀ record ∈ table, record ≠ []) :
    (Text.unlines (table.map fun record =>
        ",".intercalate (record.map Survey.csvField))).toList.foldl step ⟨.start, [], [], records⟩ =
      ⟨.start, [], [], table.reverse ++ records⟩ := by
  induction table generalizing records with
  | nil => rfl
  | cons record table ih =>
    have hrecord := foldl_record [] records (hne record List.mem_cons_self)
    have hrest := ih (record :: records) fun r hr => hne r (List.mem_cons_of_mem record hr)
    rw [List.map_cons, Text.toList_unlines_cons, List.append_cons, List.foldl_append, hrecord,
      List.reverse_nil, List.nil_append, hrest]
    simp

end Reader

theorem read?_unlines {table : List (List String)} (hne : ∀ record ∈ table, record ≠ []) :
    read? (Text.unlines (table.map fun record => ",".intercalate (record.map Survey.csvField)))
      = some table := by
  have hread := Reader.foldl_unlines [] hne
  change (List.foldl Reader.step ⟨.start, [], [], []⟩ _).finish = _
  rw [hread]
  simp [Reader.finish]

example : read? "a,\"say \"\"hi\"\"\n\"\n,b" = some [["a", "say \"hi\"\n"], ["", "b"]] := by decide

-- a quote outside of quotes, and quotes that stay open
example : read? "a\"b\n" = none ∧ read? "\"a,b\n" = none := by decide

theorem isPlain_of_mem_toDigits {n : Nat} {c : Char} (h : c ∈ Nat.toDigits 10 n) :
    isPlain c = true := by
  have hdigit : c.isDigit = true := Nat.isDigit_of_mem_toDigits (by decide) (by decide) h
  simp only [isPlain, Bool.and_eq_true, bne_iff_ne]
  refine ⟨⟨⟨?_, ?_⟩, ?_⟩, ?_⟩ <;>
    · rintro rfl
      exact absurd hdigit (by decide)

theorem plain_repr (n : Nat) : Plain n.repr := by
  intro c hc
  rw [Nat.toList_repr] at hc
  exact isPlain_of_mem_toDigits hc

theorem plain_withPoint (n places : Nat) : Plain (Decimal.withPoint n places) := by
  have hpadded : ∀ c ∈ List.replicate (places + 1 - (Nat.toDigits 10 n).length) '0'
      ++ Nat.toDigits 10 n, isPlain c = true := by
    intro c hc
    rcases List.mem_append.1 hc with hzero | hdigit
    · rw [(List.mem_replicate.1 hzero).2]
      rfl
    · exact isPlain_of_mem_toDigits hdigit
  intro c hc
  unfold Decimal.withPoint at hc
  split at hc
  · rw [String.toList_ofList] at hc
    exact hpadded c hc
  · rw [String.toList_ofList, List.mem_append, List.mem_cons] at hc
    rcases hc with hwhole | rfl | hplaces
    · exact hpadded c (List.mem_of_mem_take hwhole)
    · rfl
    · exact hpadded c (List.mem_of_mem_drop hplaces)

theorem plain_positional (digits : Nat) (power : Int) :
    Plain (Decimal.positional digits power) := by
  unfold Decimal.positional
  split
  · exact plain_repr _
  · exact plain_withPoint digits _

theorem plain_shortest (x : Float) : Plain (Decimal.shortest x) := by
  unfold Decimal.shortest
  split
  · next negative d _ =>
    have hpositional := plain_positional d.shortest.1 d.shortest.2
    cases negative with
    | false => exact hpositional
    | true =>
      intro c hc
      have hminus : c = '-' ∨ c ∈ (Decimal.positional d.shortest.1 d.shortest.2).toList := by
        simpa [Decimal.signed] using hc
      rcases hminus with rfl | hc
      · rfl
      · exact hpositional c hc
  · unfold Decimal.unbounded
    split
    · simp [Plain, isPlain]
    · split <;> simp [Plain, isPlain]

end Csv

namespace Survey

theorem csvField_of_plain {s : String} (h : Csv.Plain s) : csvField s = s := by
  simp [csvField, Csv.needsQuotes_eq_false_iff.2 h]

def Row.values (r : Row) : List String :=
  [r.target, r.lines.repr, r.movements.entries.repr, r.movements.exits.repr,
    r.movements.reads.repr, r.movements.writes.repr, r.size.repr, Decimal.shortest r.ratio]

def columns : List String :=
  ["repo", "total_loc", "entries", "exits", "reads", "writes", "cosmic_fp", "eloc_per_fp"]

theorem Row.fields_eq (r : Row) : r.fields = r.values.map csvField := by
  simp [fields, values, csvField_of_plain (Csv.plain_repr _),
    csvField_of_plain (Csv.plain_shortest r.ratio)]

theorem csvHeader_eq : csvHeader = ",".intercalate (columns.map csvField) := by decide

theorem csv_eq_unlines (s : Survey) :
    s.csv = Text.unlines ((columns :: s.rows.map Row.values).map fun record =>
      ",".intercalate (record.map csvField)) := by
  have hline : s.rows.map Row.csvLine
      = (s.rows.map Row.values).map fun record => ",".intercalate (record.map csvField) := by
    rw [List.map_map]
    apply List.map_congr_left
    intro r _
    rw [Row.csvLine, Row.fields_eq]
    rfl
  rw [csv, csvHeader_eq, hline, List.map_cons]

/-- The text of a survey holds the header and then, in order, one record for each target, whatever
its name. Every record has eight fields: the name, six numbers in decimal and the ratio. -/
theorem read?_csv (s : Survey) :
    Csv.read? s.csv = some
      (["repo", "total_loc", "entries", "exits", "reads", "writes", "cosmic_fp", "eloc_per_fp"] ::
        s.rows.map fun r =>
          [r.target, r.lines.repr, r.movements.entries.repr, r.movements.exits.repr,
            r.movements.reads.repr, r.movements.writes.repr, r.size.repr,
            Decimal.shortest r.ratio]) := by
  have hne : ∀ record ∈ columns :: s.rows.map Row.values, record ≠ [] := by
    simp [columns, Row.values]
  rw [csv_eq_unlines]
  exact Csv.read?_unlines hne

end Survey

end FunctionalSize
