import FunctionalSize.Files

set_option autoImplicit false

namespace FunctionalSize

inductive FileNode where
  | file (bytes : ByteArray)
  | directory (entries : List (String × FileNode))
deriving Inhabited

namespace FileNode

def kind : FileNode → FileKind
  | file _ => .file
  | directory _ => .directory

def at? (node : FileNode) : List String → Option FileNode
  | [] => some node
  | name :: rest =>
    match node with
    | file _ => none
    | directory entries => (entries.lookup name).bind (·.at? rest)

def put (node : FileNode) (place : List String) (new : FileNode) : FileNode :=
  match place, node with
  | [], _ => new
  | _, file bytes => .file bytes
  | name :: rest, directory entries =>
    match entries.lookup name with
    | some inner =>
      .directory (entries.map fun (k, old) =>
        if k = name then (k, inner.put rest new) else (k, old))
    | none => if rest.isEmpty then .directory (entries ++ [(name, new)]) else .directory entries

mutual

def files (skip : String → Bool) (path : String) : FileNode → List String
  | file _ => [path]
  | directory entries => filesIn skip path entries

def filesIn (skip : String → Bool) (path : String) : List (String × FileNode) → List String
  | [] => []
  | (name, node) :: rest =>
    (if skip name then [] else files skip (Path.join path name) node) ++ filesIn skip path rest

end

end FileNode

structure FileTree where
  root : FileNode := .directory []
  current : List String := []
deriving Inhabited

namespace FileTree

/-- Follows segments from a place. Every place on the way must be a directory. -/
def follow (root : FileNode) : List String → List String → Except Fault (List String)
  | place, [] => .ok place
  | place, segment :: rest =>
    match root.at? place with
    | none => .error .notFound
    | some (.file _) => .error .notDirectory
    | some (.directory entries) =>
      if segment = "" ∨ segment = "." then follow root place rest
      else if segment = ".." then follow root place.dropLast rest
      else if (entries.lookup segment).isSome then follow root (place ++ [segment]) rest
      else .error .notFound

def origin (t : FileTree) (path : String) : List String :=
  if Path.isAbsolute path then [] else t.current

def locate (t : FileTree) (path : String) : Except Fault (List String) :=
  if path = "" then .error .notFound
  else follow t.root (t.origin path) (Path.segments path)

/-- The directory in which the last segment of a path stands, and that segment. Slashes at the end
do not count. -/
def locateNew (t : FileTree) (path : String) : Except Fault (List String × String) := do
  let segments := ((Path.segments path).reverse.dropWhile (· = "")).reverse
  if path = "" then throw .notFound
  let place ← follow t.root (t.origin path) segments.dropLast
  match t.root.at? place with
  | some (.directory _) => return (place, segments.getLast?.getD "")
  | some (.file _) => throw .notDirectory
  | none => throw .notFound

def node? (t : FileTree) (path : String) : Option FileNode :=
  (t.locate path).toOption.bind t.root.at?

def kind? (t : FileTree) (path : String) : Option FileKind := (t.node? path).map FileNode.kind

def read (t : FileTree) (path : String) : Except Fault ByteArray := do
  match t.root.at? (← t.locate path) with
  | some (.file bytes) => return bytes
  | some (.directory _) => throw .isDirectory
  | none => throw .notFound

def isDots (name : String) : Bool := name == "" || name == "." || name == ".."

/-- Writes a file. A path with a slash at its end can only be a directory. -/
def write (t : FileTree) (path text : String) : Except Fault FileTree := do
  let (place, name) ← t.locateNew path
  if isDots name ∨ path.endsWith "/" then throw .isDirectory
  match t.root.at? (place ++ [name]) with
  | some (.directory _) => throw .isDirectory
  | _ => return { t with root := t.root.put (place ++ [name]) (.file text.toUTF8) }

def makeDirectory (t : FileTree) (path : String) : Except Fault FileTree := do
  let (place, name) ← t.locateNew path
  if isDots name ∨ (t.root.at? (place ++ [name])).isSome then throw .alreadyExists
  return { t with root := t.root.put (place ++ [name]) (.directory []) }

def ensureDirectory (t : FileTree) (path : String) : Except Fault FileTree :=
  match t.makeDirectory path with
  | .ok made => .ok made
  | .error fault => if t.kind? path = some .directory then .ok t else .error fault

/-- Makes missing directories from the outside in. What was made stays, also after a failure. -/
def makeDirectories (t : FileTree) : Nat → String → Except Fault Unit × FileTree
  | 0, _ => (.error .notFound, t)
  | fuel + 1, path =>
    if path = "" then (.ok (), t)
    else match t.ensureDirectory path with
      | .ok made => (.ok (), made)
      | .error .notFound =>
        match Path.parent? path with
        | none => (.error (.other "failed to create whole tree"), t)
        | some parent =>
          match t.makeDirectories fuel parent with
          | (.ok (), t) =>
            match t.ensureDirectory path with
            | .ok made => (.ok (), made)
            | .error fault => (.error fault, t)
          | failed => failed
      | .error fault => (.error fault, t)

def filesBelow (t : FileTree) (skip : String → Bool) (path : String) : List String :=
  match t.node? path with
  | some node => node.files skip path
  | none => []

instance : FileAccess (StateM FileTree) where
  kind? path := return (← get).kind? path
  readBytes path := return (← get).read path
  writeText path text := do
    match (← get).write path text with
    | .ok t => set t; return .ok ()
    | .error fault => return .error fault
  makeDirectories path := do
    let (result, t) := (← get).makeDirectories (path.length + 1) path
    set t
    return result
  filesBelow skip path := return (← get).filesBelow skip path
  currentDirectory? := return some ("/" ++ "/".intercalate (← get).current)

end FileTree

end FunctionalSize
