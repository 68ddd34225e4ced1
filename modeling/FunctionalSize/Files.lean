import FunctionalSize.Text

set_option autoImplicit false

namespace FunctionalSize

namespace Path

/-- A part of a path; roots come before dots, and dots before names. -/
inductive Component where
  | root
  | current
  | parent
  | normal (name : String)
deriving DecidableEq, Repr, Inhabited

def Component.rank : Component → Nat
  | root => 0
  | current => 1
  | parent => 2
  | normal _ => 3

def Component.text : Component → String
  | normal name => name
  | _ => ""

instance : Ord Component :=
  ⟨fun a b => (compare a.rank b.rank).then (compare a.text b.text)⟩

def isAbsolute (path : String) : Bool := path.startsWith "/"

def segments (path : String) : List String :=
  match Text.splitOn '/' path with
  | "" :: rest => rest
  | all => all

/-- Segments that count: not empty, and no dots but one in front of a relative path. -/
def significant (path : String) : List String :=
  match isAbsolute path, segments path with
  | false, "." :: rest => "." :: rest.filter fun s => s ≠ "" ∧ s ≠ "."
  | _, all => all.filter fun s => s ≠ "" ∧ s ≠ "."

def components (path : String) : List Component :=
  (if isAbsolute path then [Component.root] else []) ++ (significant path).map fun
    | "." => .current
    | ".." => .parent
    | name => .normal name

def order (a b : String) : Ordering := compare (components a) (components b)

def fileName? (path : String) : Option String :=
  match (components path).getLast? with
  | some (.normal name) => some name
  | _ => none

/-- What follows the last dot of the file name, unless the name starts with that dot. -/
def extension? (path : String) : Option String := do
  let name ← fileName? path
  match Text.splitOn '.' name with
  | [_] => none
  | ["", _] => none
  | parts => parts.getLast?

def trimEnd (keepDot : Bool) (segments : List String) : List String :=
  match segments with
  | [] => []
  | s :: rest =>
    match trimEnd false rest with
    | [] => if s = "" ∨ (s = "." ∧ !keepDot) then [] else [s]
    | trimmed => s :: trimmed

/-- The text in front of the last component, without slashes and dots at its end. -/
def parent? (path : String) : Option String :=
  let keepDot := !isAbsolute path
  match trimEnd keepDot (segments path) with
  | [] => none
  | counted =>
    let rest := trimEnd keepDot counted.dropLast
    some ((if isAbsolute path then "/" else "") ++ "/".intercalate rest)

def ancestors : Nat → String → List String
  | 0, _ => []
  | count + 1, path =>
    path :: match parent? path with
      | some parent => ancestors count parent
      | none => []

def join (base name : String) : String :=
  if isAbsolute name ∨ base = "" then name
  else if base.endsWith "/" then base ++ name
  else base ++ "/" ++ name

end Path

inductive FileKind where
  | file
  | directory
deriving DecidableEq, Repr, Inhabited

inductive Fault where
  | notFound
  | alreadyExists
  | notDirectory
  | isDirectory
  | notText
  | other (message : String)
deriving DecidableEq, Repr, Inhabited

def Fault.message : Fault → String
  | notFound => "No such file or directory (os error 2)"
  | alreadyExists => "File exists (os error 17)"
  | notDirectory => "Not a directory (os error 20)"
  | isDirectory => "Is a directory (os error 21)"
  | notText => "stream did not contain valid UTF-8"
  | other message => message

class FileAccess (m : Type → Type) where
  kind? : String → m (Option FileKind)
  readBytes : String → m (Except Fault ByteArray)
  writeText : String → String → m (Except Fault Unit)
  makeDirectories : String → m (Except Fault Unit)
  /-- The files at or below a path. Below it, entries whose name satisfies the test are left out
  with everything in them. -/
  filesBelow : (String → Bool) → String → m (List String)
  currentDirectory? : m (Option String)

instance {ε : Type} {m : Type → Type} [Monad m] [FileAccess m] : FileAccess (ExceptT ε m) where
  kind? path := ExceptT.lift (FileAccess.kind? path)
  readBytes path := ExceptT.lift (FileAccess.readBytes path)
  writeText path text := ExceptT.lift (FileAccess.writeText path text)
  makeDirectories path := ExceptT.lift (FileAccess.makeDirectories path)
  filesBelow skip path := ExceptT.lift (FileAccess.filesBelow skip path)
  currentDirectory? := ExceptT.lift FileAccess.currentDirectory?

namespace FileAccess

variable {m : Type → Type} [Monad m] [FileAccess m]

def isFile (path : String) : m Bool := return (← kind? path) == some .file

def readText (path : String) : m (Except Fault String) := do
  match ← readBytes path with
  | .error fault => return .error fault
  | .ok bytes =>
    match String.fromUTF8? bytes with
    | some text => return .ok text
    | none => return .error .notText

def save (path text : String) : m (Except Fault Unit) := do
  match Path.parent? path with
  | none | some "" => writeText path text
  | some parent =>
    match ← makeDirectories parent with
    | .error fault => return .error fault
    | .ok () => writeText path text

end FileAccess

end FunctionalSize
