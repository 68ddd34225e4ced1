import FunctionalSize.Command

set_option autoImplicit false

namespace FunctionalSize

namespace Machine

def faultOf : IO.Error → Fault
  | .noFileOrDirectory .. => .notFound
  | .alreadyExists .. => .alreadyExists
  | e => .other (toString e)

def attempt {α : Type} (action : IO α) : IO (Except Fault α) := do
  match ← action.toBaseIO with
  | .ok a => return .ok a
  | .error e => return .error (faultOf e)

def kind? (path : String) : IO (Option FileKind) := do
  if path.isEmpty then return none
  let place := (← IO.currentDir) / path
  if ← place.isDir then return some .directory
  if ← place.pathExists then return some .file
  return none

partial def filesBelow (skip : String → Bool) (path : String) : IO (List String) := do
  match ← kind? path with
  | none => return []
  | some .file => return [path]
  | some .directory =>
    match ← attempt (((← IO.currentDir) / path).readDir) with
    | .error _ => return []
    | .ok entries =>
      let names := (entries.toList.map (·.fileName)).filter fun name => !skip name
      return (← names.mapM fun name => filesBelow skip (Path.join path name)).flatten

instance : FileAccess IO where
  kind? := kind?
  readBytes path := do
    if (← kind? path) == some .directory then return .error .isDirectory
    attempt (IO.FS.readBinFile path)
  writeText path text := do
    if (← kind? path) == some .directory then return .error .isDirectory
    attempt (IO.FS.writeFile path text)
  makeDirectories path := do
    if (← kind? path) == some .file then return .error .alreadyExists
    attempt (IO.FS.createDirAll path)
  filesBelow := filesBelow
  currentDirectory? := do
    match ← attempt IO.currentDir with
    | .ok path => return some path.toString
    | .error _ => return none

def showsColor : IO Bool := do
  if (← IO.getEnv "NO_COLOR").isSome then return false
  (← IO.getStdout).isTty

end Machine

end FunctionalSize

open FunctionalSize in
def main (args : List String) : IO UInt32 := do
  let outcome ← Command.run (← Machine.showsColor) args
  IO.print outcome.stdout
  IO.eprint outcome.stderr
  return outcome.code.toUInt32
