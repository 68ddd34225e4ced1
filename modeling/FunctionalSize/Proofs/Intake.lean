import FunctionalSize.Model.Intake
import FunctionalSize.Proofs.Program
import Mathlib.Data.List.Induction

set_option autoImplicit false

/-!
# What a sequence of documents loads

Documents are read as one sequence of items: the records of those that can be decoded, and the
others as what is wrong with them. A record is kept when no record before it has the same
identity, wherever that one stands: in the same package, in another package of the document or in
an earlier document. Any other item leaves a warning at its place. `Taken` says this of the state
after some items, and every item keeps it.
-/

namespace FunctionalSize

open Std

namespace Model

inductive Item where
  | record (origin package : String) (record : Record)
  | unreadable (origin message : String)
  | malformed (origin message : String)
deriving DecidableEq, Repr, Inhabited

def Package.items (origin : String) (package : Package) : List Item :=
  package.records.map (.record origin package.path)

def Document.items (d : Document) : List Item :=
  match d.text with
  | .error message => [.unreadable d.path message]
  | .ok text =>
    match decode text with
    | .error e => [.malformed d.path e.message]
    | .ok packages => packages.flatMap (Package.items d.path)

def Warning.isDuplicate : Warning → Bool
  | duplicate .. => true
  | _ => false

namespace Item

def id? : Item → Option RoutineId
  | record _ package r => some ⟨package, r.name⟩
  | _ => none

def isRecord (item : Item) : Bool := item.id?.isSome

def kept? (earlier : List Item) : Item → Option (String × Record)
  | record _ package r =>
    if some ⟨package, r.name⟩ ∈ earlier.map id? then none else some (package, r)
  | _ => none

def warning? (earlier : List Item) : Item → Option Warning
  | record origin package r =>
    if some ⟨package, r.name⟩ ∈ earlier.map id? then some (.duplicate origin ⟨package, r.name⟩)
    else none
  | unreadable origin message => some (.unreadable origin message)
  | malformed origin message => some (.malformed origin message)

end Item

def withEarlier (items : List Item) : List (List Item × Item) :=
  items.zipIdx.map fun x => (items.take x.2, x.1)

def keptRecords (items : List Item) : List (String × Record) :=
  (withEarlier items).filterMap fun x => x.2.kept? x.1

def warningsOf (items : List Item) : List Warning :=
  (withEarlier items).filterMap fun x => x.2.warning? x.1

theorem withEarlier_concat (items : List Item) (item : Item) :
    withEarlier (items ++ [item]) = withEarlier items ++ [(items, item)] := by
  have hearlier : (items.zipIdx.map fun x => ((items ++ [item]).take x.2, x.1))
      = withEarlier items := by
    apply List.map_congr_left
    intro x hx
    have hlt := List.snd_lt_of_mem_zipIdx hx
    rw [List.take_append_of_le_length (by omega)]
  have hlast : (items ++ [item]).take (0 + items.length) = items := by
    rw [Nat.zero_add, List.take_left]
  rw [← hearlier, withEarlier, List.zipIdx_append, List.map_append, List.zipIdx_singleton,
    List.map_singleton, hlast]

theorem filterMap_withEarlier_concat {β : Type} (f : List Item × Item → Option β)
    (items : List Item) (item : Item) :
    (withEarlier (items ++ [item])).filterMap f
      = (withEarlier items).filterMap f ++ (f (items, item)).toList := by
  rw [withEarlier_concat, List.filterMap_append, List.filterMap_cons]
  cases f (items, item) <;> rfl

theorem keptRecords_concat (items : List Item) (item : Item) :
    keptRecords (items ++ [item]) = keptRecords items ++ (item.kept? items).toList :=
  filterMap_withEarlier_concat _ items item

theorem warningsOf_concat (items : List Item) (item : Item) :
    warningsOf (items ++ [item]) = warningsOf items ++ (item.warning? items).toList :=
  filterMap_withEarlier_concat _ items item

namespace Loaded

def addItem (l : Loaded) : Item → Loaded
  | .record origin package r => l.addRoutine origin (r.toRoutine package)
  | .unreadable origin message => l.warn (.unreadable origin message)
  | .malformed origin message => l.warn (.malformed origin message)

theorem addPackages_eq_items (origin : String) (l : Loaded) (packages : List Package) :
    l.addPackages origin packages = (packages.flatMap (Package.items origin)).foldl addItem l := by
  rw [addPackages, List.foldl_flatMap, List.foldl_flatMap]
  congr 1
  funext l package
  rw [Package.routines, Package.items, List.foldl_map, List.foldl_map]
  rfl

theorem addDocument_eq_items (l : Loaded) (d : Document) :
    l.addDocument d = d.items.foldl addItem l := by
  cases htext : d.text with
  | error message =>
    simp only [addDocument, Document.items, htext]
    rfl
  | ok text =>
    cases hdecode : decode text with
    | error e =>
      simp only [addDocument, Document.items, htext, hdecode]
      rfl
    | ok packages =>
      simp only [addDocument, Document.items, htext, hdecode]
      exact addPackages_eq_items d.path l packages

theorem addDocuments_eq_items (l : Loaded) (documents : List Document) :
    documents.foldl addDocument l = (documents.flatMap Document.items).foldl addItem l := by
  rw [List.foldl_flatMap]
  congr 1
  funext l d
  exact addDocument_eq_items l d

/-- An item is taken in without a look at the warnings, and only adds to them. -/
theorem addItem_frame (program : Program) (item : Item) :
    ∃ program' added, ∀ warnings,
      addItem ⟨program, warnings⟩ item = ⟨program', warnings ++ added⟩ := by
  cases item with
  | record origin package r =>
    cases hadd : program.add (r.toRoutine package) with
    | ok program' =>
      refine ⟨program', [], fun warnings => ?_⟩
      rw [addItem, addRoutine, hadd, List.append_nil]
    | error rejected =>
      refine ⟨program, [.duplicate origin rejected.id], fun warnings => ?_⟩
      rw [addItem, addRoutine, hadd]
      rfl
  | unreadable origin message => exact ⟨program, _, fun warnings => rfl⟩
  | malformed origin message => exact ⟨program, _, fun warnings => rfl⟩

theorem addItems_frame (program : Program) (items : List Item) :
    ∃ program' added, ∀ warnings,
      items.foldl addItem ⟨program, warnings⟩ = ⟨program', warnings ++ added⟩ := by
  induction items generalizing program with
  | nil => exact ⟨program, [], fun warnings => by rw [List.foldl_nil, List.append_nil]⟩
  | cons item items ih =>
    obtain ⟨middle, first, hfirst⟩ := addItem_frame program item
    obtain ⟨last, rest, hrest⟩ := ih middle
    refine ⟨last, first ++ rest, fun warnings => ?_⟩
    rw [List.foldl_cons, hfirst, hrest, List.append_assoc]

end Loaded

structure Taken (items : List Item) (l : Loaded) : Prop where
  defined : ∀ id, l.program.contains id = true ↔ some id ∈ items.map Item.id?
  routines : l.program.routines = (keptRecords items).map fun kept => kept.2.toRoutine kept.1
  warnings : l.warnings = warningsOf items
  balance : l.program.routines.length + l.warnings.countP Warning.isDuplicate
    = items.countP Item.isRecord

namespace Taken

variable {items : List Item} {l : Loaded}

theorem empty : Taken [] .empty where
  defined id := by
    rw [Program.contains_iff]
    change id ∈ ([] : List RoutineId) ↔ some id ∈ ([] : List (Option RoutineId))
    simp
  routines := rfl
  warnings := rfl
  balance := rfl

theorem warn (h : Taken items l) {item : Item} {w : Warning}
    (hdefined : ∀ id, item.id? = some id → some id ∈ items.map Item.id?)
    (hkept : item.kept? items = none) (hw : item.warning? items = some w)
    (hduplicate : w.isDuplicate = item.isRecord) : Taken (items ++ [item]) (l.warn w) where
  defined id := by
    change l.program.contains id = true ↔ _
    rw [h.defined id, List.map_append, List.mem_append, List.map_singleton, List.mem_singleton]
    constructor
    · exact Or.inl
    · rintro (hmem | heq)
      · exact hmem
      · exact hdefined id heq.symm
  routines := by
    rw [keptRecords_concat, hkept, Option.toList_none, List.append_nil]
    exact h.routines
  warnings := by
    rw [warningsOf_concat, hw, Option.toList_some, ← h.warnings]
    rfl
  balance := by
    have hbalance := h.balance
    change l.program.routines.length + (l.warnings ++ [w]).countP Warning.isDuplicate = _
    rw [List.countP_append, List.countP_append, List.countP_singleton, List.countP_singleton,
      hduplicate]
    omega

theorem define (h : Taken items l) (origin : String) {package : String} {r : Record}
    {program : Program} (hnew : some ⟨package, r.name⟩ ∉ items.map Item.id?)
    (hroutines : program.routines = l.program.routines ++ [r.toRoutine package]) :
    Taken (items ++ [.record origin package r]) { l with program } where
  defined id := by
    have hid : (Item.record origin package r).id? = some ⟨package, r.name⟩ := rfl
    have hids : program.ids = l.program.ids ++ [⟨package, r.name⟩] := by
      rw [Program.ids, hroutines, List.map_append]
      rfl
    rw [Program.contains_iff, hids, List.mem_append, ← Program.contains_iff, h.defined id,
      List.mem_singleton, List.map_append, List.mem_append, List.map_singleton,
      List.mem_singleton, hid, Option.some.injEq]
  routines := by
    rw [keptRecords_concat, Item.kept?, if_neg hnew, Option.toList_some, List.map_append,
      ← h.routines]
    exact hroutines
  warnings := by
    rw [warningsOf_concat, Item.warning?, if_neg hnew, Option.toList_none, List.append_nil]
    exact h.warnings
  balance := by
    have hbalance := h.balance
    have hrecord : [Item.record origin package r].countP Item.isRecord = 1 := rfl
    change program.routines.length + l.warnings.countP Warning.isDuplicate = _
    rw [hroutines, List.length_append, List.length_singleton, List.countP_append, hrecord]
    omega

theorem step (h : Taken items l) (item : Item) : Taken (items ++ [item]) (l.addItem item) := by
  cases item with
  | unreadable origin message => exact h.warn (fun id hid => by cases hid) rfl rfl rfl
  | malformed origin message => exact h.warn (fun id hid => by cases hid) rfl rfl rfl
  | record origin package r =>
    rw [Loaded.addItem, Loaded.addRoutine]
    by_cases hdefined : some ⟨package, r.name⟩ ∈ items.map Item.id?
    · have hcontains : l.program.contains (r.toRoutine package).id = true :=
        (h.defined _).2 hdefined
      rw [Program.add_of_contains hcontains]
      exact h.warn (fun id hid => hid ▸ hdefined) (if_pos hdefined) (if_pos hdefined) rfl
    · have hcontains : l.program.contains (r.toRoutine package).id = false := by
        rw [← Bool.not_eq_true, h.defined]
        exact hdefined
      obtain ⟨program, hadd, hroutines⟩ := Program.add_of_not_contains hcontains
      rw [hadd]
      exact h.define origin hdefined hroutines

theorem ofItems (items : List Item) : Taken items (items.foldl Loaded.addItem .empty) := by
  induction items using List.reverseRecOn with
  | nil => exact empty
  | append_singleton items item ih =>
    rw [List.foldl_append, List.foldl_cons, List.foldl_nil]
    exact ih.step item

theorem ofDocuments (documents : List Document) :
    Taken (documents.flatMap Document.items) (documents.foldl Loaded.addDocument .empty) := by
  rw [Loaded.addDocuments_eq_items]
  exact ofItems _

theorem isEmpty_iff (h : Taken items l) :
    l.program.isEmpty = true ↔ ∀ item ∈ items, item.isRecord = false := by
  have hids : l.program.isEmpty = true ↔ ∀ id, some id ∉ items.map Item.id? := by
    rw [Program.isEmpty_iff, ← List.map_eq_nil_iff (f := Routine.id),
      List.eq_nil_iff_forall_not_mem]
    simp only [← h.defined, Program.contains_iff]
    rfl
  simp only [hids, List.mem_map, not_exists, not_and]
  constructor
  · intro hnone item hitem
    cases hid : item.id? with
    | none => rw [Item.isRecord, hid, Option.isSome_none]
    | some id => exact absurd hid (hnone id item hitem)
  · intro hnone id item hitem hid
    have hrecord := hnone item hitem
    rw [Item.isRecord, hid] at hrecord
    contradiction

end Taken

def Record.loadedAs (main : RoutineId) (package : String) (r : Record) : Routine where
  id := ⟨package, r.name⟩
  source := r.source
  isMain := r.entry || decide (⟨package, r.name⟩ = main)
  calls := r.calls

theorem Record.markMain_toRoutine (main : RoutineId) (package : String) (r : Record) :
    (if (r.toRoutine package).id = main then (r.toRoutine package).asMain else r.toRoutine package)
      = r.loadedAs main package := by
  unfold loadedAs
  by_cases hmain : (⟨package, r.name⟩ : RoutineId) = main
  · rw [decide_eq_true hmain, Bool.or_true]
    exact if_pos hmain
  · rw [decide_eq_false hmain, Bool.or_false]
    exact if_neg hmain

/-- What is loaded from a sequence of items: the first record of each identity, the warnings in
order, and every record either as a routine or as a duplicate. -/
structure Account (main : RoutineId) (items : List Item) (l : Loaded) : Prop where
  routines : l.program.routines =
    (keptRecords items).map fun kept => kept.2.loadedAs main kept.1
  warnings : l.warnings = warningsOf items
  balance : l.program.size + l.warnings.countP Warning.isDuplicate = items.countP Item.isRecord

theorem Taken.account {items : List Item} {l : Loaded} (h : Taken items l) (main : RoutineId) :
    Account main items (l.markMain main) where
  routines := by
    change (l.program.markMain main).1.routines = _
    rw [Program.routines_markMain, h.routines, List.map_map]
    apply List.map_congr_left
    intro kept _
    exact kept.2.markMain_toRoutine main kept.1
  warnings := h.warnings
  balance := by
    change (l.program.markMain main).1.size + _ = _
    rw [← Program.length_routines, Program.routines_markMain, List.length_map]
    exact h.balance

section Load

variable (main : RoutineId) (path : String)

theorem load_eq_error_iff (documents : List Document) :
    load main path documents = .error (.emptyProgram path) ↔
      ∀ item ∈ documents.flatMap Document.items, item.isRecord = false := by
  rw [← (Taken.ofDocuments documents).isEmpty_iff, load]
  split <;> simp_all

theorem exists_load (documents : List Document)
    (h : ∃ item ∈ documents.flatMap Document.items, item.isRecord = true) :
    ∃ loaded, load main path documents = .ok loaded ∧
      Account main (documents.flatMap Document.items) loaded := by
  have htaken := Taken.ofDocuments documents
  have hdefined : ¬ (documents.foldl Loaded.addDocument .empty).program.isEmpty = true := by
    obtain ⟨item, hitem, hrecord⟩ := h
    rw [htaken.isEmpty_iff]
    intro hnone
    rw [hnone item hitem] at hrecord
    contradiction
  exact ⟨_, if_neg hdefined, htaken.account main⟩

theorem load_insert_malformed (before after : List Document) (origin : String) {text : String}
    {e : DocumentError} (h : decode text = .error e) :
    (load main path (before ++ after) = .error (.emptyProgram path) ∧
      load main path (before ++ ⟨origin, .ok text⟩ :: after) = .error (.emptyProgram path)) ∨
    ∃ program later,
      load main path (before ++ after)
        = .ok ⟨program, warningsOf (before.flatMap Document.items) ++ later⟩ ∧
      load main path (before ++ ⟨origin, .ok text⟩ :: after)
        = .ok ⟨program, warningsOf (before.flatMap Document.items)
            ++ .malformed origin e.message :: later⟩ := by
  have hwarnings := (Taken.ofDocuments before).warnings
  generalize hstate : before.foldl Loaded.addDocument .empty = l at hwarnings
  obtain ⟨program, warnings⟩ := l
  change warnings = _ at hwarnings
  -- what follows is taken in alike, whatever warnings stand before it
  obtain ⟨program', later, hlater⟩ :=
    Loaded.addItems_frame program (after.flatMap Document.items)
  have hbad : Loaded.addDocument ⟨program, warnings⟩ ⟨origin, .ok text⟩
      = ⟨program, warnings ++ [.malformed origin e.message]⟩ := by
    simp only [Loaded.addDocument, h]
    rfl
  have hwithout : (before ++ after).foldl Loaded.addDocument .empty
      = ⟨program', warnings ++ later⟩ := by
    rw [List.foldl_append, hstate, Loaded.addDocuments_eq_items, hlater]
  have hwith : (before ++ ⟨origin, .ok text⟩ :: after).foldl Loaded.addDocument .empty
      = ⟨program', warnings ++ .malformed origin e.message :: later⟩ := by
    rw [List.foldl_append, hstate, List.foldl_cons, hbad, Loaded.addDocuments_eq_items, hlater,
      List.append_assoc, List.singleton_append]
  rw [load, load, hwithout, hwith, ← hwarnings]
  cases hempty : program'.isEmpty with
  | true => exact Or.inl ⟨rfl, rfl⟩
  | false => exact Or.inr ⟨(program'.markMain main).1, later, rfl, rfl⟩

theorem load_eq_loadText (origin : String) {text : String} {packages : List Package}
    (h : decode text = .ok packages) (hrecord : ∃ package ∈ packages, package.records ≠ []) :
    load main path [⟨origin, .ok text⟩] = loadText main origin text := by
  have hadd : [(⟨origin, .ok text⟩ : Document)].foldl Loaded.addDocument .empty
      = Loaded.empty.addPackages origin packages := by
    simp only [List.foldl_cons, List.foldl_nil, Loaded.addDocument, h]
  have hdefined : ¬ (Loaded.empty.addPackages origin packages).program.isEmpty = true := by
    rw [Loaded.addPackages_eq_items, (Taken.ofItems _).isEmpty_iff]
    intro hnone
    obtain ⟨package, hpackage, hne⟩ := hrecord
    obtain ⟨r, hr⟩ := List.exists_mem_of_ne_nil _ hne
    have hitem : Item.record origin package.path r ∈ packages.flatMap (Package.items origin) :=
      List.mem_flatMap.2 ⟨package, hpackage, List.mem_map_of_mem hr⟩
    exact absurd (hnone _ hitem) (by simp [Item.isRecord, Item.id?])
  rw [load, loadText, h, hadd, if_neg hdefined]

end Load

/-- Loading fails exactly when no document has a record. Otherwise the program holds the first
record of each identity and the warnings tell of every other record and document, in order. A
document that cannot be decoded leaves no trace but its warning, wherever it stands. One document
that defines something is loaded as its text is. -/
theorem load_exact (main : RoutineId) (path : String) :
    (∀ documents, load main path documents = .error (.emptyProgram path) ↔
      ∀ item ∈ documents.flatMap Document.items, item.isRecord = false) ∧
    (∀ documents, (∃ item ∈ documents.flatMap Document.items, item.isRecord = true) →
      ∃ loaded, load main path documents = .ok loaded ∧
        Account main (documents.flatMap Document.items) loaded) ∧
    (∀ before after origin text e, decode text = .error e →
      (load main path (before ++ after) = .error (.emptyProgram path) ∧
        load main path (before ++ ⟨origin, .ok text⟩ :: after) = .error (.emptyProgram path)) ∨
      ∃ program later,
        load main path (before ++ after)
          = .ok ⟨program, warningsOf (before.flatMap Document.items) ++ later⟩ ∧
        load main path (before ++ ⟨origin, .ok text⟩ :: after)
          = .ok ⟨program, warningsOf (before.flatMap Document.items)
              ++ .malformed origin e.message :: later⟩) ∧
    (∀ origin text packages, decode text = .ok packages →
      (∃ package ∈ packages, package.records ≠ []) →
        load main path [⟨origin, .ok text⟩] = loadText main origin text) := by
  refine ⟨load_eq_error_iff main path, exists_load main path, ?_, ?_⟩
  · intro before after origin text e h
    exact load_insert_malformed main path before after origin h
  · intro origin text packages h hrecord
    exact load_eq_loadText main path origin h hrecord

def mainText : String :=
  "[\"main\", [[\"run\", \"a.go:3\", true], [\"run\"], [\"main\"]]]"

def mainDocument : Document := ⟨"a.json", .ok mainText⟩

def brokenDocument : Document := ⟨"b.json", .ok "[["⟩

def laterDocument : Document :=
  ⟨"c.json", .ok "[[\"util\", [[\"run\"]]], [\"main\", [[\"main\", \"c.go:7\"]]]]"⟩

theorem load_exact_conflicts :
    (∃ item ∈ [mainDocument, brokenDocument, laterDocument].flatMap Document.items,
      item.isRecord = true) ∧
    (∃ loaded,
      load defaultMain "models" [mainDocument, brokenDocument, laterDocument] = .ok loaded ∧
      loaded.program.routines =
        [{ id := ⟨"main", "run"⟩, source := "a.go:3", isMain := true },
         { id := ⟨"main", "main"⟩, isMain := true },
         { id := ⟨"util", "run"⟩ }] ∧
      loaded.warnings =
        [.duplicate "a.json" ⟨"main", "run"⟩,
         .malformed "b.json" "JSON syntax error",
         .duplicate "c.json" ⟨"main", "main"⟩]) ∧
    decode "[[" = .error (.syntaxError Json.syntaxMessage) ∧
    (∃ program later,
      load defaultMain "models" [mainDocument, laterDocument]
        = .ok ⟨program, warningsOf mainDocument.items ++ later⟩ ∧
      load defaultMain "models" [mainDocument, brokenDocument, laterDocument]
        = .ok ⟨program, warningsOf mainDocument.items
            ++ .malformed "b.json" "JSON syntax error" :: later⟩) ∧
    load defaultMain "a.json" [mainDocument] = loadText defaultMain "a.json" mainText := by
  have hitems : [mainDocument, brokenDocument, laterDocument].flatMap Document.items =
      [.record "a.json" "main" { name := "run", source := "a.go:3", entry := true },
       .record "a.json" "main" { name := "run" },
       .record "a.json" "main" { name := "main" },
       .malformed "b.json" "JSON syntax error",
       .record "c.json" "util" { name := "run" },
       .record "c.json" "main" { name := "main", source := "c.go:7" }] := by
    decide +kernel
  have hrecord : ∃ item ∈ [mainDocument, brokenDocument, laterDocument].flatMap Document.items,
      item.isRecord = true := by
    rw [hitems]
    exact ⟨_, List.mem_cons_self, rfl⟩
  have hbroken : decode "[[" = .error (.syntaxError Json.syntaxMessage) := by decide +kernel
  have hmain : decode mainText
      = .ok [⟨"main", [{ name := "run", source := "a.go:3", entry := true }, { name := "run" },
          { name := "main" }]⟩] := by
    decide +kernel
  obtain ⟨-, hload, hmalformed, -⟩ := load_exact defaultMain "models"
  obtain ⟨loaded, hloaded, haccount⟩ := hload _ hrecord
  refine ⟨hrecord, ⟨loaded, hloaded, ?_, ?_⟩, hbroken, ?_, ?_⟩
  · rw [haccount.routines, hitems]
    decide
  · rw [haccount.warnings, hitems]
    decide
  · rcases hmalformed [mainDocument] [laterDocument] "b.json" "[[" _ hbroken with h | h
    · have hfails : load defaultMain "models" [mainDocument, brokenDocument, laterDocument]
          = .error (.emptyProgram "models") := h.2
      cases hfails.symm.trans hloaded
    · exact h
  · exact (load_exact defaultMain "a.json").2.2.2 "a.json" _ _ hmain
      ⟨_, List.mem_singleton_self _, by simp⟩

end Model

end FunctionalSize
