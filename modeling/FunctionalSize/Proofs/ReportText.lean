import FunctionalSize.Proofs.JsonFields
import FunctionalSize.Proofs.JsonLayout
import FunctionalSize.Report

set_option autoImplicit false

namespace FunctionalSize

theorem Json.asCount?_ofNat {n : Nat} (h : n < UInt64.size) : asCount? (ofNat n) = some n := by
  have hnat : (ofNat n).asNat? = some n := by simp [ofNat, asNat?]
  simp [asCount?, hnat, h]

namespace Movements

variable {m : Movements}

theorem Fits.entries (h : m.Fits) : Json.asCount? (.ofNat m.entries) = some m.entries :=
  Json.asCount?_ofNat (h .registration)

theorem Fits.exits (h : m.Fits) : Json.asCount? (.ofNat m.exits) = some m.exits :=
  Json.asCount?_ofNat (h .exit)

theorem Fits.reads (h : m.Fits) : Json.asCount? (.ofNat m.reads) = some m.reads :=
  Json.asCount?_ofNat (h .read)

theorem Fits.writes (h : m.Fits) : Json.asCount? (.ofNat m.writes) = some m.writes :=
  Json.asCount?_ofNat (h .write)

end Movements

namespace FunctionalProcess

def Fits (p : FunctionalProcess) : Prop := p.movements.Fits ∧ p.routines < UInt64.size

def jsonFields (p : FunctionalProcess) : List (String × Option Json) :=
  [("name", some (.string p.name)),
    ("source", if p.source.isEmpty then none else some (.string p.source)),
    ("entries", some (.ofNat p.movements.entries)), ("exits", some (.ofNat p.movements.exits)),
    ("reads", some (.ofNat p.movements.reads)), ("writes", some (.ofNat p.movements.writes)),
    ("functions_included", some (.ofNat p.routines))]

variable {p : FunctionalProcess}

theorem toJson_eq_object (p : FunctionalProcess) :
    p.toJson = .object (Json.present p.jsonFields) := by
  unfold toJson jsonFields
  cases p.source.isEmpty <;> rfl

theorem plain_toJson (h : p.Fits) : Json.Plain 1 p.toJson := by
  have hsource : ∀ j ∈ (if p.source.isEmpty then none else some (Json.string p.source)),
      Json.Plain 0 j := by
    intro j hj
    split at hj
    · cases hj
    · cases hj
      exact .string p.source
  rw [toJson_eq_object]
  apply Json.plain_present
  simp only [jsonFields, List.forall_mem_cons]
  refine ⟨?_, hsource, ?_, ?_, ?_, ?_, ?_, by simp⟩ <;> rintro j ⟨⟩
  · exact .string p.name
  · exact .natural (h.1 .registration)
  · exact .natural (h.1 .exit)
  · exact .natural (h.1 .read)
  · exact .natural (h.1 .write)
  · exact .natural h.2

theorem ofJson?_toJson (h : p.Fits) : ofJson? p.toJson = some p := by
  have hfields : p.toJson.fields? ["name", "source", "entries", "exits", "reads", "writes",
      "functions_included"] = some (p.jsonFields.map Prod.snd) := by
    rw [toJson_eq_object]
    exact Json.fields?_present p.jsonFields (by simp [jsonFields])
  have hsource : Json.withDefault "" Json.asString?
      (if p.source = "" then none else some (.string p.source)) = some p.source := by
    by_cases hempty : p.source = "" <;> simp [hempty, Json.withDefault, Json.asString?]
  rw [ofJson?, hfields]
  simp [jsonFields, Json.required, Json.asString?, hsource, h.1.entries, h.1.exits, h.1.reads,
    h.1.writes, Json.asCount?_ofNat h.2]

end FunctionalProcess

namespace Report

def Fits (r : Report) : Prop := r.totals.Fits ∧ ∀ p ∈ r.processes, p.Fits

variable {r : Report}

theorem plain_toJson (h : r.Fits) : Json.Plain 3 r.toJson := by
  have hprocesses : Json.Plain 2 (.array (r.processes.map FunctionalProcess.toJson)) := by
    apply Json.Plain.array
    intro j hj
    obtain ⟨p, hp, rfl⟩ := List.mem_map.1 hj
    exact FunctionalProcess.plain_toJson (h.2 p hp)
  apply Json.Plain.object
  simp only [List.forall_mem_cons]
  exact ⟨.natural (h.1 .registration), .natural (h.1 .exit), .natural (h.1 .read),
    .natural (h.1 .write), hprocesses, by simp⟩

def jsonFields (r : Report) : List (String × Option Json) :=
  [("total_entries", some (.ofNat r.totals.entries)), ("total_exits", some (.ofNat r.totals.exits)),
    ("total_reads", some (.ofNat r.totals.reads)), ("total_writes", some (.ofNat r.totals.writes)),
    ("processes", some (.array (r.processes.map FunctionalProcess.toJson)))]

theorem ofJson?_toJson (h : r.Fits) : ofJson? r.toJson = some r := by
  have hfields : r.toJson.fields? ["total_entries", "total_exits", "total_reads", "total_writes",
      "processes"] = some (r.jsonFields.map Prod.snd) :=
    Json.fields?_present r.jsonFields (by simp [jsonFields])
  have hprocesses := Json.asList?_map fun p hp => FunctionalProcess.ofJson?_toJson (h.2 p hp)
  rw [ofJson?, hfields]
  simp [jsonFields, Json.required, h.1.entries, h.1.exits, h.1.reads, h.1.writes, hprocesses]

/-- The text is one JSON value and a line end, and reads back as the report. -/
theorem jsonText_lossless (r : Report) (h : r.Fits) :
    ∃ value, r.jsonText = value ++ "\n" ∧ Json.Writes r.toJson value ∧
      Report.parse? r.jsonText = some r := by
  have hplain := plain_toJson h
  have hvalue := Json.segment_render Json.Layout.pretty_blank 0 hplain
  -- the line end belongs to the text that is read, as a blank after the value
  have hblank : Json.Spells [] ['\n'] := .blank rfl .nil
  have htext : Json.Writes r.toJson r.jsonText := by
    have hspells := hvalue [] ['\n'] hblank (Json.endsNumber_of_mark (by simp) _)
    rw [List.append_nil] at hspells
    simpa [Json.Writes, jsonText, Json.pretty] using hspells
  refine ⟨r.toJson.pretty 0, rfl, hvalue.spells, ?_⟩
  rw [Report.parse?, Json.parse?, Json.readFirst_of_writes hplain (by decide) htext]
  exact ofJson?_toJson h

def edgeReport : Report where
  totals := { entries := 2 ^ 64 - 1, reads := 7 }
  processes :=
    [{ name := "a\"b\\c\n\u0001/é😀", movements := { entries := 2 ^ 64 - 2 }, routines := 3 },
     { name := "", source := "main.go:9", movements := { entries := 1, reads := 7 },
       routines := 1 }]

theorem jsonText_lossless_edgeReport :
    edgeReport.Fits ∧
    ∃ value, edgeReport.jsonText = value ++ "\n" ∧ Json.Writes edgeReport.toJson value ∧
      Report.parse? edgeReport.jsonText = some edgeReport := by
  have hfits : edgeReport.Fits := by
    refine ⟨fun c => by cases c <;> decide, ?_⟩
    simp only [edgeReport, List.forall_mem_cons]
    exact ⟨⟨fun c => by cases c <;> decide, by decide⟩, ⟨fun c => by cases c <;> decide, by decide⟩,
      by simp⟩
  exact ⟨hfits, jsonText_lossless edgeReport hfits⟩

end Report

end FunctionalSize
