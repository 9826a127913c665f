import LineSelect.Program
import Std.Time.Format
import Std.Time.Zoned

/-!
The program on a machine: it takes in the part of the file system that a run depends on, runs, and
carries out what the run changes.
-/

namespace LineSelect.Host

open LineSelect.CommandLine

/-- The paths that are come by when names are followed from a path on. -/
def pathsAlong (path : Path) : List String → List Path
  | [] => [path]
  | name :: rest =>
    let next :=
      if name = "" ∨ name = "." then path
      else if name = ".." then path.dropLast
      else path ++ [name]
    path :: pathsAlong next rest

/-- The paths that the text of a path comes by, seen from a directory. -/
def pathsOf (start : Path) (text : String) : List Path :=
  match text.toList with
  | '/' :: rest => pathsAlong [] (FileTree.namesOf rest)
  | chars => pathsAlong start (FileTree.namesOf chars)

/-- The path that the text of a path leads to, seen from a directory. -/
def pathOf (start : Path) (text : String) : Path :=
  (pathsOf start text).getLast?.getD []

/-- The paths that a run may look at. -/
def watchedPaths (env : Environment) (request? : Option Request) : List Path :=
  let own := match env.home with
    | some home => pathsAlong [] (configPath home) ++ [logPath home]
    | none => []
  let named := match request? with
    | some (.select { file := some name, .. }) =>
      pathsAlong [] env.directory ++ pathsOf env.directory name
    | _ => []
  own ++ named

def probe (path : Path) : IO (Option FileEntry) := do
  let place := (← IO.currentDir) / FileTree.display {} path
  if ← place.isDir then return some .directory
  match ← (IO.FS.readBinFile place).toBaseIO with
  | .ok content => return some (.file content)
  | .error _ => return none

/-- The entries that the machine has at the given paths. -/
def snapshot : List Path → IO FileTree
  | [] => return {}
  | path :: rest => do
    let tree ← snapshot rest
    if path = [] then return tree
    match ← probe path with
    | none => return tree
    | some entry => return tree.set path entry

/-- Makes the machine agree with the entries that differ from those before a run. -/
def carryOut (before : FileTree) : List (Path × FileEntry) → IO Unit
  | [] => return
  | (path, entry) :: rest => do
    if before.get? path ≠ some entry then
      match entry with
      | .directory => IO.FS.createDirAll (before.display path)
      | .file content => IO.FS.writeBinFile (before.display path) content
    carryOut before rest

def timeText : IO String := do
  let now ← Std.Time.Timestamp.now
  let here := Std.Time.PlainDateTime.ofWallTime (now.toWallTime Std.Time.TimeZone.Offset.zero)
  return here.format "uuuu-MM-dd'T'HH:mm:ss.SSSSSS'Z'"

/-- The surroundings of a run. The input is read only where the run needs it, and all notes in the
log bear one time. The home directory is what the environment says it is; users are not looked
up. -/
def environment (request? : Option Request) : IO Environment := do
  let directory := pathOf [] (← IO.currentDir).toString
  let home := match ← IO.getEnv "HOME" with
    | none | some "" => none
    | some text => some (pathOf directory text)
  let time ← timeText
  let input ← match request? with
    | some (.select { file := none, .. }) => (← IO.getStdin).readBinToEnd
    | _ => pure .empty
  let env : Environment := {
    tree := {}
    home
    directory
    input
    logFilter := ← IO.getEnv "EDTEXT_LOG"
    times := fun _ => time }
  return { env with tree := ← snapshot (watchedPaths env request?) }

end LineSelect.Host

open LineSelect in
def main (args : List String) : IO UInt32 := do
  let env ← Host.environment (CommandLine.parse args).toOption
  let outcome := Program.run env args
  Host.carryOut env.tree outcome.tree.entries
  (← IO.getStdout).write outcome.output.toUTF8
  (← IO.getStderr).write outcome.errors.toUTF8
  return outcome.code.toUInt32
