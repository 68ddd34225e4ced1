set_option autoImplicit false

namespace FunctionalSize

namespace Json

/-- A number as it is written: an integer without point and exponent, or a decimal, whose value
is `significand * 10 ^ exponent`. Minus zero is a decimal. -/
inductive Number where
  | integer (value : Int)
  | decimal (negative : Bool) (significand : Nat) (exponent : Int)
deriving DecidableEq, Repr, Inhabited

end Json

inductive Json where
  | null
  | bool (value : Bool)
  | number (value : Json.Number)
  | string (value : String)
  | array (items : List Json)
  | object (members : List (String × Json))
deriving Repr, Inhabited

namespace Json

def ofNat (n : Nat) : Json := .number (.integer n)

def asBool? : Json → Option Bool
  | bool b => some b
  | _ => none

def asString? : Json → Option String
  | string s => some s
  | _ => none

def asNat? : Json → Option Nat
  | number (.integer n) => if n < 0 then none else some n.toNat
  | _ => none

def asList? {α : Type} (read? : Json → Option α) : Json → Option (List α)
  | array items => items.mapM read?
  | _ => none

def asOption? {α : Type} (read? : Json → Option α) : Json → Option (Option α)
  | null => some none
  | j => (read? j).map some

/-- The value of a key in a list of members: absent, given once, or refused when repeated. -/
def member? (key : String) (members : List (String × Json)) : Option (Option Json) :=
  match members.filter (·.1 == key) with
  | [] => some none
  | [(_, value)] => some (some value)
  | _ => none

/-- The named fields of a record. An object may hold other keys too but no named one twice. An
array gives the fields in order and may stop early, but holds no more than there are names. -/
def fields? (names : List String) : Json → Option (List (Option Json))
  | object members => names.mapM (member? · members)
  | array items =>
    if items.length ≤ names.length then
      some (items.map some ++ List.replicate (names.length - items.length) none)
    else none
  | _ => none

def required {α : Type} (read? : Json → Option α) (field : Option Json) : Option α :=
  field.bind read?

def withDefault {α : Type} (value : α) (read? : Json → Option α) : Option Json → Option α
  | none => some value
  | some j => read? j

def hexDigit (n : Nat) : Char := if n < 10 then Char.ofNat (48 + n) else Char.ofNat (87 + n)

def escapeChar (c : Char) : List Char :=
  if c = '"' then ['\\', '"']
  else if c = '\\' then ['\\', '\\']
  else if c = '\x08' then ['\\', 'b']
  else if c = '\t' then ['\\', 't']
  else if c = '\n' then ['\\', 'n']
  else if c = '\x0c' then ['\\', 'f']
  else if c = '\r' then ['\\', 'r']
  else if c < ' ' then ['\\', 'u', '0', '0', hexDigit (c.toNat / 16), hexDigit (c.toNat % 16)]
  else [c]

def quote (s : String) : String :=
  "\"" ++ String.ofList (s.toList.flatMap escapeChar) ++ "\""

def Number.toText : Number → String
  | integer n => n.repr
  | decimal negative significand exponent =>
    (if negative then "-" else "") ++ significand.repr ++ "e" ++ exponent.repr

def newline (level : Nat) : String := "\n" ++ String.ofList (List.replicate (2 * level) ' ')

/-- What stands in front of an item or of a closing bracket at a level, and between a key and its
value. -/
structure Layout where
  indent : Nat → String
  colon : String

def Layout.compact : Layout := ⟨fun _ => "", ":"⟩

def Layout.pretty : Layout := ⟨newline, ": "⟩

mutual

def render (layout : Layout) (level : Nat) : Json → String
  | null => "null"
  | bool b => if b then "true" else "false"
  | number n => n.toText
  | string s => quote s
  | array [] => "[]"
  | array items =>
    "[" ++ renderItems layout (level + 1) items ++ layout.indent level ++ "]"
  | object [] => "\x7b\x7d"
  | object members =>
    "\x7b" ++ renderMembers layout (level + 1) members ++ layout.indent level ++ "\x7d"

def renderItems (layout : Layout) (level : Nat) : List Json → String
  | [] => ""
  | [j] => layout.indent level ++ render layout level j
  | j :: rest =>
    layout.indent level ++ render layout level j ++ "," ++ renderItems layout level rest

def renderMembers (layout : Layout) (level : Nat) : List (String × Json) → String
  | [] => ""
  | [(k, j)] => layout.indent level ++ quote k ++ layout.colon ++ render layout level j
  | (k, j) :: rest =>
    layout.indent level ++ quote k ++ layout.colon ++ render layout level j ++ ","
      ++ renderMembers layout level rest

end

def compact (j : Json) : String := j.render .compact 0

def pretty (level : Nat) (j : Json) : String := j.render .pretty level

end Json

end FunctionalSize
