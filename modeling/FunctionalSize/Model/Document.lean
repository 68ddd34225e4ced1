import FunctionalSize.Routine
import FunctionalSize.Json.Parser
import FunctionalSize.Json.Value

set_option autoImplicit false

namespace FunctionalSize

namespace RoutineId

def ofFields? : List (Option Json) → Option RoutineId
  | [package, name] => do
    return ⟨← Json.required Json.asString? package, ← Json.required Json.asString? name⟩
  | _ => none

def ofJson? (j : Json) : Option RoutineId := do ofFields? (← j.fields? ["module", "name"])

def toJson (id : RoutineId) : Json :=
  .object [("module", .string id.package), ("name", .string id.name)]

end RoutineId

namespace CallKind

def name : CallKind → String
  | call => "call"
  | defer => "defer"
  | go => "go"

def ofName? : String → Option CallKind
  | "call" => some call
  | "defer" => some defer
  | "go" => some go
  | _ => none

def ofJson? : Json → Option CallKind
  | .string s => ofName? s
  | .object [(s, .null)] => ofName? s
  | _ => none

def toJson (kind : CallKind) : Json := .string kind.name

end CallKind

namespace Argument

inductive Shape where
  | routine
  | closure
  | other
deriving DecidableEq, Repr, Inhabited

/-- Unknown names stand for other arguments. A tag may also be a number of 64 bits. -/
def Shape.ofJson? : Json → Option Shape
  | .string "function" => some routine
  | .string "closure" => some closure
  | .string _ => some other
  | j => do
    let n ← j.asNat?
    if n < UInt64.size then return if n = 0 then routine else if n = 1 then closure else other
    none

def closureOfJson? (j : Json) : Option Argument := do
  match ← j.fields? ["function", "captures"] with
  | [function, captures] =>
    let id ← Json.required RoutineId.ofJson? function
    let captures ← Json.withDefault [] (Json.asList? Json.asString?) captures
    return .closure id captures
  | _ => none

def ofTagged? (tag rest : Json) : Option Argument := do
  match ← Shape.ofJson? tag with
  | .routine => (RoutineId.ofJson? rest).map routine
  | .closure => closureOfJson? rest
  | .other =>
    match rest with
    | .array (_ :: _) => none
    | _ => some other

/-- An object with exactly one tag, at any place, or an array that starts with the tag. -/
def ofJson? : Json → Option Argument
  | .object members => do
    match ← Json.member? "kind" members with
    | some tag => ofTagged? tag (.object (members.filter (·.1 != "kind")))
    | none => none
  | .array (tag :: rest) => ofTagged? tag (.array rest)
  | _ => none

def toJson : Argument → Json
  | routine id =>
    .object [("kind", .string "function"), ("module", .string id.package),
      ("name", .string id.name)]
  | closure id captures =>
    .object [("kind", .string "closure"), ("function", id.toJson),
      ("captures", .array (captures.map .string))]
  | other => .object [("kind", .string "other")]

end Argument

namespace CallSite

def ofJson? (j : Json) : Option CallSite := do
  match ← j.fields? ["kind", "callee", "method", "args", "points_to"] with
  | [kind, callee, method, args, pointsTo] =>
    return {
      kind := ← Json.withDefault .call CallKind.ofJson? kind
      callee := ← Json.withDefault none (Json.asOption? RoutineId.ofJson?) callee
      method := ← Json.withDefault none (Json.asOption? Json.asString?) method
      args := ← Json.withDefault [] (Json.asList? Argument.ofJson?) args
      pointsTo := ← Json.withDefault none
        (Json.asOption? (Json.asList? RoutineId.ofJson?)) pointsTo }
  | _ => none

/-- Fields without a value are left out, but not an empty list of recorded callees. -/
def toJson (site : CallSite) : Json :=
  .object ([("kind", site.kind.toJson)]
    ++ (site.callee.map fun id => ("callee", id.toJson)).toList
    ++ (site.method.map fun m => ("method", .string m)).toList
    ++ (if site.args.isEmpty then [] else [("args", .array (site.args.map Argument.toJson))])
    ++ (site.pointsTo.map fun ids => ("points_to", .array (ids.map RoutineId.toJson))).toList)

end CallSite

namespace Model

structure Record where
  name : String
  source : String := ""
  entry : Bool := false
  calls : List CallSite := []
deriving DecidableEq, Repr, Inhabited

namespace Record

def ofJson? (j : Json) : Option Record := do
  match ← j.fields? ["name", "source", "entry", "calls"] with
  | [name, source, entry, calls] =>
    return {
      name := ← Json.required Json.asString? name
      source := ← Json.withDefault "" Json.asString? source
      entry := ← Json.withDefault false Json.asBool? entry
      calls := ← Json.withDefault [] (Json.asList? CallSite.ofJson?) calls }
  | _ => none

def toJson (r : Record) : Json :=
  .object [("name", .string r.name), ("source", .string r.source), ("entry", .bool r.entry),
    ("calls", .array (r.calls.map CallSite.toJson))]

def toRoutine (path : String) (r : Record) : Routine where
  id := ⟨path, r.name⟩
  source := r.source
  isMain := r.entry
  calls := r.calls

end Record

structure Package where
  path : String
  records : List Record := []
deriving DecidableEq, Repr, Inhabited

namespace Package

def ofJson? (j : Json) : Option Package := do
  match ← j.fields? ["path", "functions"] with
  | [path, records] =>
    return {
      path := ← Json.required Json.asString? path
      records := ← Json.withDefault [] (Json.asList? Record.ofJson?) records }
  | _ => none

def toJson (p : Package) : Json :=
  .object [("path", .string p.path), ("functions", .array (p.records.map Record.toJson))]

def routines (p : Package) : List Routine := p.records.map (Record.toRoutine p.path)

end Package

inductive DocumentError where
  /-- The text is not one JSON value; the message is that of the JSON reader. -/
  | syntaxError (message : String)
  | shape
deriving DecidableEq, Repr, Inhabited

def DocumentError.message : DocumentError → String
  | syntaxError message => message
  | shape => "data did not match any variant of untagged enum ModelDocument"

def packagesOfJson? (j : Json) : Option (List Package) :=
  (Json.asList? Package.ofJson? j).or ((Package.ofJson? j).map ([·]))

/-- The packages of a document. A wrong shape is reported before text that follows the value. -/
def decode (text : String) : Except DocumentError (List Package) :=
  match Json.readFirst text with
  | none => .error (.syntaxError Json.syntaxMessage)
  | some (j, clean) =>
    match packagesOfJson? j with
    | none => .error .shape
    | some packages => if clean then .ok packages else .error (.syntaxError Json.syntaxMessage)

end Model

end FunctionalSize
