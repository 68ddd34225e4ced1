import FunctionalSize.Proofs.Intake
import FunctionalSize.Proofs.JsonFields
import FunctionalSize.Proofs.JsonLayout

set_option autoImplicit false

namespace FunctionalSize

namespace RoutineId

theorem plain_toJson {depth : Nat} (id : RoutineId) : Json.Plain (depth + 1) id.toJson := by
  apply Json.Plain.object
  simp only [List.forall_mem_cons]
  exact ⟨.string id.package, .string id.name, by simp⟩

theorem ofJson?_toJson (id : RoutineId) : ofJson? id.toJson = some id := by
  have hfields : id.toJson.fields? ["module", "name"]
      = some [some (.string id.package), some (.string id.name)] :=
    Json.fields?_present
      [("module", some (.string id.package)), ("name", some (.string id.name))] (by simp)
  rw [ofJson?, hfields]
  rfl

end RoutineId

theorem CallKind.ofJson?_toJson (kind : CallKind) : ofJson? kind.toJson = some kind := by
  cases kind <;> rfl

namespace Argument

theorem plain_toJson {depth : Nat} (a : Argument) : Json.Plain (depth + 2) a.toJson := by
  cases a with
  | routine id =>
    apply Json.Plain.object
    simp only [List.forall_mem_cons]
    exact ⟨.string _, .string id.package, .string id.name, by simp⟩
  | closure id captures =>
    have hcaptures : Json.Plain (depth + 1) (.array (captures.map .string)) :=
      Json.plain_array fun s _ => .string s
    apply Json.Plain.object
    simp only [List.forall_mem_cons]
    exact ⟨.string _, id.plain_toJson, hcaptures, by simp⟩
  | other =>
    apply Json.Plain.object
    simp only [List.forall_mem_cons]
    exact ⟨.string _, by simp⟩

theorem closureOfJson?_object (id : RoutineId) (captures : List String) :
    closureOfJson? (.object [("function", id.toJson),
      ("captures", .array (captures.map .string))]) = some (.closure id captures) := by
  have hfields : (Json.object [("function", id.toJson),
      ("captures", .array (captures.map .string))]).fields? ["function", "captures"]
        = some [some id.toJson, some (.array (captures.map .string))] :=
    Json.fields?_present [("function", some id.toJson),
      ("captures", some (.array (captures.map .string)))] (by simp)
  have hcaptures : Json.asList? Json.asString? (.array (captures.map .string)) = some captures :=
    Json.asList?_map fun s _ => rfl
  rw [closureOfJson?, hfields]
  simp [Json.required, Json.withDefault, id.ofJson?_toJson, hcaptures]

theorem ofJson?_toJson (a : Argument) : ofJson? a.toJson = some a := by
  cases a with
  | routine id =>
    change (RoutineId.ofJson? id.toJson).map routine = _
    rw [id.ofJson?_toJson]
    rfl
  | closure id captures => exact closureOfJson?_object id captures
  | other => rfl

end Argument

namespace CallSite

def jsonFields (site : CallSite) : List (String × Option Json) :=
  [("kind", some site.kind.toJson), ("callee", site.callee.map RoutineId.toJson),
    ("method", site.method.map .string),
    ("args", if site.args.isEmpty then none else some (.array (site.args.map Argument.toJson))),
    ("points_to", site.pointsTo.map fun ids => .array (ids.map RoutineId.toJson))]

theorem toJson_eq_object (site : CallSite) :
    site.toJson = .object (Json.present site.jsonFields) := by
  unfold toJson jsonFields
  cases site.args.isEmpty <;> simp [Json.present, Function.comp_def]

theorem plain_toJson {depth : Nat} (site : CallSite) : Json.Plain (depth + 4) site.toJson := by
  rw [toJson_eq_object]
  apply Json.plain_present
  simp only [jsonFields, List.forall_mem_cons]
  refine ⟨?_, ?_, ?_, ?_, ?_, by simp⟩ <;> intro j hj
  · cases hj
    exact .string _
  · obtain ⟨id, -, rfl⟩ := Option.map_eq_some_iff.1 hj
    exact id.plain_toJson
  · obtain ⟨m, -, rfl⟩ := Option.map_eq_some_iff.1 hj
    exact .string m
  · split at hj
    · cases hj
    · cases hj
      exact Json.plain_array fun a _ => a.plain_toJson
  · obtain ⟨ids, -, rfl⟩ := Option.map_eq_some_iff.1 hj
    exact Json.plain_array fun id _ => id.plain_toJson

theorem ofJson?_toJson (site : CallSite) : ofJson? site.toJson = some site := by
  have hfields : site.toJson.fields? ["kind", "callee", "method", "args", "points_to"]
      = some (site.jsonFields.map Prod.snd) := by
    rw [toJson_eq_object]
    exact Json.fields?_present site.jsonFields (by simp [jsonFields])
  have hkind : Json.withDefault .call CallKind.ofJson? (some site.kind.toJson) = some site.kind :=
    CallKind.ofJson?_toJson site.kind
  have hcallee := Json.withDefault_asOption? RoutineId.ofJson?_toJson (by simp [RoutineId.toJson])
    site.callee
  have hstring : ∀ s, Json.asString? (.string s) = some s := fun _ => rfl
  have hmethod := Json.withDefault_asOption? hstring (by simp) site.method
  have hargs : Json.withDefault [] (Json.asList? Argument.ofJson?)
      (if site.args = [] then none else some (.array (site.args.map Argument.toJson)))
        = some site.args := by
    by_cases hempty : site.args = []
    · simp [hempty, Json.withDefault]
    · rw [if_neg hempty]
      exact Json.asList?_map fun a _ => a.ofJson?_toJson
  have hpointsTo : Json.withDefault none (Json.asOption? (Json.asList? RoutineId.ofJson?))
      (site.pointsTo.map fun ids => .array (ids.map RoutineId.toJson)) = some site.pointsTo :=
    Json.withDefault_asOption? (fun _ => Json.asList?_map fun id _ => id.ofJson?_toJson) (by simp)
      site.pointsTo
  rw [ofJson?, hfields]
  simp [jsonFields, hkind, hcallee, hmethod, hargs, hpointsTo]

end CallSite

namespace Model

namespace Record

theorem plain_toJson {depth : Nat} (r : Record) : Json.Plain (depth + 6) r.toJson := by
  apply Json.Plain.object
  simp only [List.forall_mem_cons]
  exact ⟨.string r.name, .string r.source, .bool r.entry,
    Json.plain_array fun site _ => site.plain_toJson, by simp⟩

theorem ofJson?_toJson (r : Record) : ofJson? r.toJson = some r := by
  have hfields : r.toJson.fields? ["name", "source", "entry", "calls"]
      = some [some (.string r.name), some (.string r.source), some (.bool r.entry),
        some (.array (r.calls.map CallSite.toJson))] :=
    Json.fields?_present [("name", some (.string r.name)), ("source", some (.string r.source)),
      ("entry", some (.bool r.entry)), ("calls", some (.array (r.calls.map CallSite.toJson)))]
      (by simp)
  have hcalls := Json.asList?_map fun site (_ : site ∈ r.calls) => site.ofJson?_toJson
  rw [ofJson?, hfields]
  simp [Json.required, Json.withDefault, Json.asString?, Json.asBool?, hcalls]

end Record

namespace Package

theorem plain_toJson (p : Package) : Json.Plain 8 p.toJson := by
  apply Json.Plain.object
  simp only [List.forall_mem_cons]
  exact ⟨.string p.path, Json.plain_array fun r _ => r.plain_toJson, by simp⟩

theorem ofJson?_toJson (p : Package) : ofJson? p.toJson = some p := by
  have hfields : p.toJson.fields? ["path", "functions"]
      = some [some (.string p.path), some (.array (p.records.map Record.toJson))] :=
    Json.fields?_present [("path", some (.string p.path)),
      ("functions", some (.array (p.records.map Record.toJson)))] (by simp)
  have hrecords := Json.asList?_map fun r (_ : r ∈ p.records) => r.ofJson?_toJson
  rw [ofJson?, hfields]
  simp [Json.required, Json.withDefault, Json.asString?, hrecords]

theorem writes_compact (p : Package) : Json.Writes p.toJson p.toJson.compact :=
  (Json.segment_render Json.Layout.compact_blank 0 p.plain_toJson).spells

theorem writes_pretty (p : Package) : Json.Writes p.toJson (p.toJson.pretty 0) :=
  (Json.segment_render Json.Layout.pretty_blank 0 p.plain_toJson).spells

end Package

/-- An object is never a list of packages, so it is read as one. -/
theorem decode_of_writes {p : Package} {text : String} (h : Json.Writes p.toJson text) :
    decode text = .ok [p] := by
  have hpackages : packagesOfJson? p.toJson = some [p] := by
    have hlist : Json.asList? Package.ofJson? p.toJson = none := rfl
    rw [packagesOfJson?, hlist, p.ofJson?_toJson]
    rfl
  simp [decode, Json.readFirst_of_writes p.plain_toJson (by decide) h, hpackages]

theorem account_of_nodup (origin path : String) {records : List Record}
    (h : (records.map Record.name).Nodup) :
    keptRecords (records.map (.record origin path)) = records.map (fun r => (path, r)) ∧
      warningsOf (records.map (.record origin path)) = [] := by
  -- from the end, since an item is kept or not by the items before it
  induction records using List.reverseRecOn with
  | nil => exact ⟨rfl, rfl⟩
  | append_singleton records r ih =>
    rw [List.map_append, List.nodup_append] at h
    obtain ⟨hnodup, -, hdisjoint⟩ := h
    obtain ⟨hkept, hwarnings⟩ := ih hnodup
    have hnew : some ⟨path, r.name⟩ ∉ (records.map (Item.record origin path)).map Item.id? := by
      intro hmem
      rw [List.map_map, List.mem_map] at hmem
      obtain ⟨earlier, hearlier, hid⟩ := hmem
      have hname : earlier.name = r.name := (RoutineId.mk.inj (Option.some.inj hid)).2
      exact hdisjoint _ (List.mem_map_of_mem hearlier) r.name (by simp) hname
    rw [List.map_append, List.map_singleton, keptRecords_concat, warningsOf_concat, hkept,
      hwarnings, Item.kept?, Item.warning?, if_neg hnew, if_neg hnew]
    simp

/-- A package whose records have different names is loaded without a warning from every text that
is JSON for it, and every record becomes the routine with its fields. Both layouts are such
texts. -/
theorem loadText_of_package (main : RoutineId) (origin : String) (p : Package)
    (h : (p.records.map Record.name).Nodup) :
    (∀ text, Json.Writes p.toJson text →
      ∃ program, loadText main origin text = .ok ⟨program, []⟩ ∧
        program.routines = p.records.map (Record.loadedAs main p.path)) ∧
    Json.Writes p.toJson p.toJson.compact ∧ Json.Writes p.toJson (p.toJson.pretty 0) := by
  refine ⟨?_, p.writes_compact, p.writes_pretty⟩
  intro text htext
  obtain ⟨hkept, hwarnings⟩ := account_of_nodup origin p.path h
  have haccount := (Taken.ofItems (p.items origin)).account main
  generalize hloaded : ((p.items origin).foldl Loaded.addItem .empty).markMain main = loaded
    at haccount
  obtain ⟨program, warnings⟩ := loaded
  obtain rfl : warnings = [] := haccount.warnings.trans hwarnings
  refine ⟨program, ?_, ?_⟩
  · simp [loadText, decode_of_writes htext, Loaded.addPackages_eq_items, hloaded]
  · have hroutines := haccount.routines
    rw [Package.items, hkept, List.map_map] at hroutines
    exact hroutines

def dispatchPackage : Package where
  path := "app/\"v2\""
  records :=
    [{ name := "main", source := "C:\\app\n\u0001é😀",
       calls :=
        [{ callee := some ⟨"net/http", "HandleFunc"⟩,
           args := [.other, .routine ⟨"app", ""⟩, .closure ⟨"app", "main$1"⟩ ["db", "\t"]] },
         { kind := .go, method := some "Serve", pointsTo := some [] },
         { kind := .defer, pointsTo := some [⟨"app", "(*Server).Close"⟩] }] },
     { name := "run", entry := true }]

theorem loadText_of_package_dispatch :
    (dispatchPackage.records.map Record.name).Nodup ∧
    (∃ program,
      loadText ⟨"app/\"v2\"", "main"⟩ "m.json" dispatchPackage.toJson.compact
        = .ok ⟨program, []⟩ ∧
      program.routines = dispatchPackage.records.map fun r =>
        { id := ⟨"app/\"v2\"", r.name⟩, source := r.source, isMain := true, calls := r.calls }) ∧
    ∃ program,
      loadText defaultMain "m.json" (dispatchPackage.toJson.pretty 0) = .ok ⟨program, []⟩ ∧
      program.routines = dispatchPackage.routines := by
  have hnodup : (dispatchPackage.records.map Record.name).Nodup := by decide
  obtain ⟨hnamed, hcompact, -⟩ :=
    loadText_of_package ⟨"app/\"v2\"", "main"⟩ "m.json" dispatchPackage hnodup
  obtain ⟨hdefault, -, hpretty⟩ :=
    loadText_of_package defaultMain "m.json" dispatchPackage hnodup
  refine ⟨hnodup, ?_, ?_⟩
  · obtain ⟨program, hload, hroutines⟩ := hnamed _ hcompact
    exact ⟨program, hload, hroutines.trans (by decide)⟩
  · obtain ⟨program, hload, hroutines⟩ := hdefault _ hpretty
    exact ⟨program, hload, hroutines.trans (by decide)⟩

end Model

end FunctionalSize
