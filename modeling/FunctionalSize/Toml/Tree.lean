import FunctionalSize.Toml.Value

set_option autoImplicit false

/-!
# Tables in the making

While a document is read, each table remembers how it came about, because that decides what may
still be added. A table that only stands on the way to a longer header can be given a header of
its own once. A table that dotted keys made gets keys from dotted keys only, and no header. Values
in braces and brackets are closed.
-/

namespace FunctionalSize

namespace Toml

inductive Origin where
  | header
  | implied
  | dotted
deriving DecidableEq, Repr, Inhabited

inductive Node where
  | leaf (value : Value)
  | table (origin : Origin) (children : List (String × Node))
  /-- Tables that headers in double brackets made; new keys go to the last one. -/
  | tables (elements : List (List (String × Node)))
deriving Inhabited

abbrev Children := List (String × Node)

mutual

def Node.toValue : Node → Value
  | .leaf v => v
  | .table _ children => .table (toMembers children)
  | .tables elements => .array (toTables elements)

def toMembers : List (String × Node) → List (String × Value)
  | [] => []
  | (key, node) :: rest => (key, node.toValue) :: toMembers rest

def toTables : List (List (String × Node)) → List Value
  | [] => []
  | children :: rest => .table (toMembers children) :: toTables rest

end

namespace Children

def replace (children : Children) (key : String) (node : Node) : Children :=
  children.map fun (k, old) => if k = key then (k, node) else (k, old)

def add (children : Children) (key : String) (node : Node) : Children := children ++ [(key, node)]

/-- Changes the table at the end of a path by `change`, which is told how that table came about.
Tables that are missing on the way are made. -/
def descend (dotted : Bool) (change : Origin → Children → Option Children) :
    List String → Origin → Children → Option Children
  | [], origin, children => change origin children
  | key :: path, _, children =>
    match children.lookup key with
    | none => do
      let origin := if dotted then Origin.dotted else .implied
      return children.add key (.table origin (← descend dotted change path origin []))
    | some (.table origin inner) =>
      if dotted ∧ origin = .header then none
      else do
        return children.replace key (.table origin (← descend dotted change path origin inner))
    | some (.tables elements) => do
      let last ← elements.getLast?
      let changed ← descend dotted change path .header last
      return children.replace key (.tables (elements.dropLast ++ [changed]))
    | some (.leaf _) => none

/-- Adds a value at a key that must be new, below tables that the dots in the key make. -/
def insert (children : Children) (path : List String) (key : String) (v : Value) :
    Option Children :=
  descend true (fun origin inner =>
    if (origin = .dotted) ≠ (path ≠ []) then none
    else if (inner.lookup key).isSome then none
    else some (inner.add key (.leaf v))) path .header children

def openTable (children : Children) (path : List String) (key : String) : Option Children :=
  descend false (fun _ inner =>
    match inner.lookup key with
    | none => some (inner.add key (.table .header []))
    | some (.table .implied old) => some (inner.replace key (.table .header old))
    | some _ => none) path .header children

def openElement (children : Children) (path : List String) (key : String) : Option Children :=
  descend false (fun _ inner =>
    match inner.lookup key with
    | none => some (inner.add key (.tables [[]]))
    | some (.tables elements) => some (inner.replace key (.tables (elements ++ [[]])))
    | some _ => none) path .header children

def insertBelow (children : Children) (header path : List String) (key : String) (v : Value) :
    Option Children :=
  descend false (fun _ inner => inner.insert path key v) header .header children

end Children

end Toml

end FunctionalSize
