import FunctionalSize.Error
import FunctionalSize.Files
import FunctionalSize.Model.Document
import FunctionalSize.Program

set_option autoImplicit false

namespace FunctionalSize

namespace Model

inductive Warning where
  | unreadable (path message : String)
  | malformed (path message : String)
  | duplicate (path : String) (id : RoutineId)
deriving DecidableEq, Repr, Inhabited

def Warning.text : Warning → String
  | unreadable path message => path ++ ": unreadable: " ++ message
  | malformed path message => path ++ ": malformed model: " ++ message
  | duplicate path id => path ++ ": duplicate definition of " ++ id.qualified ++ " ignored"

structure Loaded where
  program : Program := .empty
  warnings : List Warning := []

structure Document where
  path : String
  text : Except String String

namespace Loaded

def empty : Loaded := {}

def isComplete (l : Loaded) : Bool := l.warnings.isEmpty

def warn (l : Loaded) (w : Warning) : Loaded := { l with warnings := l.warnings ++ [w] }

def addRoutine (path : String) (l : Loaded) (r : Routine) : Loaded :=
  match l.program.add r with
  | .ok program => { l with program }
  | .error rejected => l.warn (.duplicate path rejected.id)

def addPackages (path : String) (l : Loaded) (packages : List Package) : Loaded :=
  (packages.flatMap Package.routines).foldl (addRoutine path) l

/-- Adds a document; one that cannot be used only leaves a warning. -/
def addDocument (l : Loaded) (d : Document) : Loaded :=
  match d.text with
  | .error message => l.warn (.unreadable d.path message)
  | .ok text =>
    match decode text with
    | .error e => l.warn (.malformed d.path e.message)
    | .ok packages => l.addPackages d.path packages

def markMain (l : Loaded) (main : RoutineId) : Loaded :=
  { l with program := (l.program.markMain main).1 }

end Loaded

def defaultMain : RoutineId := ⟨"main", "main"⟩

/-- Loads documents in order. `path` is what was asked for, and is named when nothing came of
it. -/
def load (main : RoutineId) (path : String) (documents : List Document) : Except Error Loaded :=
  let loaded := documents.foldl Loaded.addDocument .empty
  if loaded.program.isEmpty then .error (.emptyProgram path) else .ok (loaded.markMain main)

/-- Loads one text, which must be a document but may define nothing. -/
def loadText (main : RoutineId) (path text : String) : Except Error Loaded :=
  match decode text with
  | .error e => .error (.modelFormat path e.message)
  | .ok packages => .ok ((Loaded.empty.addPackages path packages).markMain main)

variable {m : Type → Type} [Monad m] [FileAccess m]

def sortPaths (paths : List String) : List String :=
  paths.mergeSort fun a b => (Path.order a b).isLE

def documentPaths (path : String) : m (Except Error (List String)) := do
  match ← FileAccess.kind? path with
  | some .file => return .ok [path]
  | some .directory =>
    let files ← FileAccess.filesBelow (fun _ => false) path
    return .ok (sortPaths (files.filter fun f => Path.extension? f == some "json"))
  | none => return .error (.fileSystem "model path does not exist" path none)

def readDocument (path : String) : m Document := do
  return ⟨path, (← FileAccess.readText path).mapError Fault.message⟩

def loadPath (main : RoutineId) (path : String) : m (Except Error Loaded) := do
  match ← documentPaths path with
  | .error e => return .error e
  | .ok paths => return load main path (← paths.mapM readDocument)

end Model

end FunctionalSize
