import FunctionalSize.Toml.Quoted
import FunctionalSize.Toml.Tree

set_option autoImplicit false

namespace FunctionalSize

namespace Toml

def maxDepth : Nat := 80

def isBlank (c : Char) : Bool := c == ' ' || c == '\t'

def isBareKeyChar (c : Char) : Bool := c.isAlphanum || c == '_' || c == '-'

def skipComment? : List Char → Option (List Char)
  | '#' :: text =>
    match text.dropWhile isPrintable with
    | [] => some []
    | '\n' :: rest => some ('\n' :: rest)
    | '\r' :: '\n' :: rest => some ('\n' :: rest)
    | _ => none
  | text => some text

def endLine? (text : List Char) : Option (List Char) := do
  match ← skipComment? (text.dropWhile isBlank) with
  | [] => some []
  | '\n' :: rest => some rest
  | '\r' :: '\n' :: rest => some rest
  | _ => none

def skipLines? (fuel : Nat) (text : List Char) : Option (List Char) :=
  match fuel, text.dropWhile isBlank with
  | fuel + 1, '\n' :: rest => skipLines? fuel rest
  | fuel + 1, '\r' :: '\n' :: rest => skipLines? fuel rest
  | fuel + 1, '#' :: rest => (skipComment? ('#' :: rest)).bind (skipLines? fuel)
  | _, rest => some rest

def keyPart? (text : List Char) : Option (String × List Char) :=
  let bare := text.takeWhile isBareKeyChar
  if bare.isEmpty then Quoted.line? text
  else some (String.ofList bare, text.dropWhile isBareKeyChar)

/-- A key: the parts before its last dot, its last part, and what follows with blanks dropped. -/
def key? (fuel : Nat) (path : List String) (text : List Char) :
    Option (List String × String × List Char) := do
  let (part, rest) ← keyPart? (text.dropWhile isBlank)
  match fuel, rest.dropWhile isBlank with
  | fuel + 1, '.' :: rest => key? fuel (path ++ [part]) rest
  | 0, '.' :: _ => none
  | _, rest => some (path, part, rest)

mutual

def value? (fuel depth : Nat) (text : List Char) : Option (Value × List Char) :=
  match fuel, text with
  | _, '"' :: _ | _, '\'' :: _ => (Quoted.read? text).map fun (s, rest) => (.string s, rest)
  | fuel + 1, '[' :: rest => if depth = 0 then none else items? fuel (depth - 1) [] rest
  | fuel + 1, '\x7b' :: rest => if depth = 0 then none else members? fuel (depth - 1) [] rest
  | _, _ => Scalar.read? text

def items? (fuel depth : Nat) (items : List Value) (text : List Char) :
    Option (Value × List Char) :=
  match fuel with
  | 0 => none
  | fuel + 1 => do
    let text ← skipLines? text.length text
    if let ']' :: rest := text then return (.array items.reverse, rest)
    let (item, rest) ← value? fuel depth text
    match ← skipLines? rest.length rest with
    | ',' :: rest => items? fuel depth (item :: items) rest
    | ']' :: rest => some (.array (item :: items).reverse, rest)
    | _ => none

def members? (fuel depth : Nat) (children : Children) (text : List Char) :
    Option (Value × List Char) :=
  match fuel with
  | 0 => none
  | fuel + 1 => do
    let text ← skipLines? text.length text
    if let '\x7d' :: rest := text then return (.table (toMembers children), rest)
    let (path, key, rest) ← key? text.length [] text
    let '=' :: rest := rest | none
    let (v, rest) ← value? fuel depth (rest.dropWhile isBlank)
    let children ← children.insert path key v
    match ← skipLines? rest.length rest with
    | ',' :: rest => members? fuel depth children rest
    | '\x7d' :: rest => some (.table (toMembers children), rest)
    | _ => none

end

structure Draft where
  root : Children := []
  header : List String := []

namespace Draft

def header? (d : Draft) (text : List Char) : Option (Draft × List Char) :=
  match text with
  | '[' :: rest => do
    let (path, key, rest) ← key? rest.length [] rest
    let ']' :: ']' :: rest := rest | none
    return (⟨← d.root.openElement path key, path ++ [key]⟩, rest)
  | _ => do
    let (path, key, rest) ← key? text.length [] text
    let ']' :: rest := rest | none
    return (⟨← d.root.openTable path key, path ++ [key]⟩, rest)

def member? (d : Draft) (text : List Char) : Option (Draft × List Char) := do
  let (path, key, rest) ← key? text.length [] text
  let '=' :: rest := rest | none
  let (v, rest) ← value? (2 * rest.length + 2) maxDepth (rest.dropWhile isBlank)
  return ({ d with root := ← d.root.insertBelow d.header path key v }, rest)

def line? (d : Draft) (text : List Char) : Option (Draft × List Char) := do
  let (d, rest) ← match text.dropWhile isBlank with
    | [] => some (d, [])
    | '\n' :: rest => some (d, '\n' :: rest)
    | '\r' :: rest => some (d, '\r' :: rest)
    | '#' :: rest => some (d, '#' :: rest)
    | '[' :: rest => d.header? rest
    | rest => d.member? rest
  return (d, ← endLine? rest)

def lines? (fuel : Nat) (d : Draft) (text : List Char) : Option Draft :=
  match fuel, text with
  | _, [] => some d
  | fuel + 1, text => (d.line? text).bind fun (d, rest) => lines? fuel d rest
  | 0, _ => none

end Draft

def syntaxMessage : String := "TOML parse error"

/-- The table that a document describes. A byte order mark in front is skipped. -/
def parse? (text : String) : Option Value :=
  let chars := match text.toList with
    | '\ufeff' :: rest => rest
    | chars => chars
  (Draft.lines? chars.length {} chars).map fun d => .table (toMembers d.root)

end Toml

end FunctionalSize
