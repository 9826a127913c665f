import LineSelect.Config
import LineSelect.FileTree

/-!
The configuration in a file tree: reading it with and without a fallback, and putting the default
document in the place of one that is missing or cannot be read.
-/

namespace LineSelect

/-- What fails on the way to a configuration; the path is shown as messages show it. -/
inductive ConfigError where
  | createDirectory (path : String) (cause : FileError)
  | writeDefault (path : String) (cause : FileError)
  | read (path : String) (cause : FileError)
  /-- The file is read, but it holds no configuration. -/
  | malformed (path : String)
deriving DecidableEq, Repr

namespace ConfigError

def message : ConfigError → String
  | .createDirectory path _ => "Failed to create config directory: " ++ path
  | .writeDefault path _ => "Failed to write default config file: " ++ path
  | .read path _ => "Failed to read config file: " ++ path
  | .malformed path => "Failed to parse config file: " ++ path

/-- What lies behind the failure, where that is a failure of its own. -/
def cause? : ConfigError → Option FileError
  | .createDirectory _ cause | .writeDefault _ cause | .read _ cause => some cause
  | .malformed _ => none

end ConfigError

namespace Config

/-- Writes the default document, and makes the directories above it first. They stay if the
document cannot be written. -/
def saveDefault (tree : FileTree) (path : Path) : Except ConfigError Unit × FileTree :=
  match tree.makeDirectories path.dropLast with
  | .error cause => (.error (.createDirectory (tree.display path.dropLast) cause), tree)
  | .ok prepared =>
    match prepared.write path defaultText.toUTF8 with
    | .error cause => (.error (.writeDefault (tree.display path) cause), prepared)
    | .ok written => (.ok (), written)

/-- The configuration at a path, without a fallback. -/
def load (tree : FileTree) (path : Path) : Except ConfigError Config :=
  match tree.readText path with
  | .error cause => .error (.read (tree.display path) cause)
  | .ok text =>
    match parse? text with
    | none => .error (.malformed (tree.display path))
    | some config => .ok config

def loadOrDefault (tree : FileTree) (path : Path) : Config :=
  match load tree path with
  | .ok config => config
  | .error _ => {}

/-- The configuration at a path. One that is missing or cannot be read is replaced by the
defaults. -/
def loadOrCreate (tree : FileTree) (path : Path) : Except ConfigError Config × FileTree :=
  match load tree path with
  | .ok config => (.ok config, tree)
  | .error _ =>
    match saveDefault tree path with
    | (.error e, tree) => (.error e, tree)
    | (.ok (), tree) => (.ok {}, tree)

end Config

end LineSelect
