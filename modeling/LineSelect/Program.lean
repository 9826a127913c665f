import LineSelect.CommandLine
import LineSelect.Config.File
import LineSelect.Document
import LineSelect.Log.Filter
import LineSelect.Range.Encoding

/-!
Whole runs of the program: from arguments, input and a file tree to an exit code, what is printed,
and the file tree afterwards.
-/

namespace LineSelect

open LineSelect.CommandLine

/-- The program's own directory in a home directory. -/
def ownDirectory (home : Path) : Path :=
  home ++ [".edtext"]

def configPath (home : Path) : Path :=
  ownDirectory home ++ ["config.toml"]

def logPath (home : Path) : Path :=
  ownDirectory home ++ ["edtext.log"]

/-- What a run depends on besides its arguments. What it prints does not go to a terminal, so line
numbers are never coloured. -/
structure Environment where
  tree : FileTree
  /-- The home directory, if it can be determined. -/
  home : Option Path := some []
  /-- The directory where file names start. -/
  directory : Path := []
  input : ByteArray := .empty
  logFilter : Option String := none
  /-- The times of the notes in the log, by their number. -/
  times : Nat → String := fun _ => ""

/-- What a run leaves behind. All that it prints is taken in: writing to the output never fails. -/
structure Outcome where
  code : Nat
  output : String := ""
  errors : String := ""
  tree : FileTree

inductive Failure where
  | selection (cause : SelectionError)
  | readFile (name : String) (cause : FileError)
  | readInput (cause : FileError)
  | config (cause : ConfigError)
  | unknownHome
  | repeatedSubstitution
deriving DecidableEq, Repr

namespace Failure

def message : Failure → String
  | .selection cause => cause.message
  | .readFile name _ => "Failed to read " ++ name
  | .readInput _ => "Failed to read stdin"
  | .config cause => cause.message
  | .unknownHome => "Cannot determine home directory"
  | .repeatedSubstitution => "--substitute takes PATTERN and REPLACEMENT"

def cause? : Failure → Option FileError
  | .readFile _ cause | .readInput cause => some cause
  | .config cause => cause.cause?
  | _ => none

/-- The report of a failure, with what lies behind it on lines of its own. -/
def report (f : Failure) : String :=
  "Error: " ++ f.message ++ "\n" ++
    match f.cause? with
    | none => ""
    | some cause => "\nCaused by:\n    " ++ cause.message ++ "\n"

end Failure

namespace Environment

/-- The configuration of a run that selects, which reads it and never writes it. Without a home
directory it is the defaults. -/
def config (env : Environment) : Config :=
  match env.home with
  | none => {}
  | some home => Config.loadOrDefault env.tree (configPath home)

def configWarning (env : Environment) : String :=
  match env.home with
  | none => "Warning: Using default configuration: " ++ Failure.unknownHome.message ++ "\n"
  | some _ => ""

end Environment

namespace CommandLine.SelectRequest

/-- Which matches are replaced: every one if the request or the configuration says so. -/
def scope (config : Config) (s : SubstitutionRequest) : Scope :=
  if s.isGlobal || config.substitution.isGlobal then .every else .first

/-- The document to select from: the text after the substitution that is asked for. -/
def document (request : SelectRequest) (config : Config) (text : String) :
    Except SelectionError Document :=
  match request.substitution with
  | none => .ok (.ofText text)
  | some s => (Document.ofText text).substitute s.pattern s.replacement (scope config s)

/-- The places of the selected lines; without a range all lines are selected. -/
def indices (request : SelectRequest) (d : Document) : Except SelectionError (List Nat) :=
  if request.ranges = [] then .ok (List.range d.length) else d.lineNumbers request.ranges

/-- The number of a line, as wide as the number of the last line. -/
def label (total i : Nat) : String :=
  let number := (i + 1).repr
  String.ofList (List.replicate (total.repr.length - number.length) ' ') ++ number

def printedLine (numbered : Bool) (d : Document) (i : Nat) : String :=
  (if numbered then label d.length i ++ " " else "") ++ d.lines[i]?.getD ""

/-- The selected lines, with their numbers if the request or the configuration says so. -/
def printed (request : SelectRequest) (config : Config) (d : Document) (indices : List Nat) :
    String :=
  String.join (indices.map (printedLine (request.number || config.output.numberLines) d))

/-- The report on a selection: the ranges as they were read, and the numbers of the lines. -/
def explanation (ranges : List Range) (indices : List Nat) : Json :=
  .obj [
    ("lines", .arr (indices.map fun i => .int ((i + 1 : Nat) : Int))),
    ("ranges", .arr (ranges.map Range.toJson))]

/-- What a selection prints. -/
def run (request : SelectRequest) (config : Config) (text : String) :
    Except SelectionError String := do
  let d ← request.document config text
  let indices ← request.indices d
  if request.explain then
    let ranges ← request.ranges.mapM Range.parse
    return (explanation ranges indices).pretty 0 ++ "\n"
  else return request.printed config d indices

/-- The note on a substitution, if there is one and it can be made. -/
def substitutionEvents (request : SelectRequest) (config : Config) : List LogEvent :=
  match request.substitution with
  | none => []
  | some s =>
    match Substitution.ofText s.pattern s.replacement (scope config s) with
    | .error _ => []
    | .ok made => [.substituting s.pattern made.template made.scope]

/-- The notes on a selection, in the order in which they are made. -/
def events (request : SelectRequest) (config : Config) (text : String) : List LogEvent :=
  .loadedDocument (Document.ofText text).length request.ranges ::
    substitutionEvents request config ++
      match request.document config text with
      | .error _ => []
      | .ok d =>
        selectionEvents d.lines 0 request.ranges ++
          match request.indices d with
          | .error _ => []
          | .ok _ => if request.explain then request.ranges.flatMap Range.readEvents else []

end CommandLine.SelectRequest

namespace Program

/-- The outcome of making ready for the log: a warning if that fails, and the log file if notes are
kept. -/
structure LogStart where
  warning : String := ""
  log : Option Path := none
  tree : FileTree

/-- Makes the log file and the directory for it. A log that cannot be kept is no failure. -/
def startLog (env : Environment) : LogStart :=
  match env.home with
  | none =>
    { warning := "Warning: Logging disabled: " ++ Failure.unknownHome.message ++ "\n"
      tree := env.tree }
  | some home =>
    let directory := env.tree.display (ownDirectory home)
    match env.tree.makeDirectories (ownDirectory home) with
    | .error cause =>
      { warning := "Warning: Could not create log directory " ++ directory ++ ": " ++
          cause.message ++ "\n"
        tree := env.tree }
    | .ok tree =>
      match tree.append (logPath home) .empty with
      | .error cause =>
        { warning := "Warning: Could not create log file in " ++ directory ++
            ": failed to create log file: " ++ cause.message ++ "\n"
          tree }
      | .ok tree => { log := some (logPath home), tree }

def logLines (times : Nat → String) (number : Nat) : List LogEvent → String
  | [] => ""
  | event :: rest => event.line (times number) ++ logLines times (number + 1) rest

/-- Adds the notes that pass the filter to the log, if notes are kept. -/
def writeLog (env : Environment) (start : LogStart) (events : List LogEvent) : FileTree :=
  match start.log with
  | none => start.tree
  | some path =>
    let filter := LogFilter.ofText env.logFilter
    let lines := logLines env.times 0 (events.filter filter.passes)
    match start.tree.append path lines.toUTF8 with
    | .ok tree => tree
    | .error _ => start.tree

/-- The text to select from: the file that is asked for, or the input. -/
def readText (env : Environment) (tree : FileTree) (file : Option String) :
    Except Failure String :=
  match file with
  | some name =>
    match tree.locate env.directory name with
    | .error cause => .error (.readFile name cause)
    | .ok path =>
      match tree.readText path with
      | .error cause => .error (.readFile name cause)
      | .ok text => .ok text
  | none =>
    match FileTree.decode env.input with
    | .error cause => .error (.readInput cause)
    | .ok text => .ok text

/-- The outcome of a failed run; nothing is printed. -/
def failed (warning : String) (f : Failure) (tree : FileTree) : Outcome :=
  { code := 1, errors := warning ++ f.report, tree }

def select (env : Environment) (request : SelectRequest) : Outcome :=
  let config := env.config
  let start : LogStart :=
    if request.debug || config.logging.debug then startLog env else { tree := env.tree }
  let warnings := env.configWarning ++ start.warning
  match readText env start.tree request.file with
  | .error f => failed warnings f start.tree
  | .ok text =>
    let tree := writeLog env start (request.events config text)
    match request.run config text with
    | .error cause => failed warnings (.selection cause) tree
    | .ok output => { code := 0, output, errors := warnings, tree }

/-- A run that shows the configuration, resets it, or says where it is. -/
def configure (env : Environment) (wantsShow wantsReset : Bool) : Outcome :=
  match env.home with
  | none => failed "" .unknownHome env.tree
  | some home =>
    let path := configPath home
    let name := env.tree.display path
    if wantsReset then
      match Config.saveDefault env.tree path with
      | (.error e, tree) => failed "" (.config e) tree
      | (.ok (), tree) => { code := 0, output := "Configuration reset: " ++ name ++ "\n", tree }
    else
      match Config.loadOrCreate env.tree path with
      | (.error e, tree) => failed "" (.config e) tree
      | (.ok config, tree) =>
        if wantsShow then { code := 0, output := "# " ++ name ++ "\n" ++ config.text, tree }
        else
          let log := env.tree.display (logPath home)
          { code := 0
            output := "Configuration file: " ++ name ++ "\nLog file: " ++ log ++ "\n"
            tree }

def versionText : Command → String
  | .main => "edtext 0.1.0\n"
  | .config => "edtext-config 0.1.0\n"

def usageText : String :=
  "Usage: edtext [OPTIONS] [RANGE]... [COMMAND]\n" ++
  "\n" ++
  "Commands:\n" ++
  "  config  Show or reset the configuration file\n" ++
  "  help    Print this message\n" ++
  "\n" ++
  "Options:\n" ++
  "  -f, --file <FILE>                            Read from FILE instead of stdin\n" ++
  "  -s, --substitute <PATTERN> <REPLACEMENT>     Substitute before selecting\n" ++
  "  -g, --global                                 Replace every match on a line\n" ++
  "  -n, --number                                 Prefix each line with its number\n" ++
  "      --explain                                Print ranges and lines as JSON\n" ++
  "      --debug                                  Write debug logs\n" ++
  "  -h, --help                                   Print help\n" ++
  "  -V, --version                                Print version\n"

/-- A run of the program on the arguments after its name. -/
def run (env : Environment) (args : List String) : Outcome :=
  match CommandLine.parse args with
  | .ok (.select request) => select env request
  | .ok (.config wantsShow wantsReset) => configure env wantsShow wantsReset
  | .error (.usage _) => { code := 2, errors := usageText, tree := env.tree }
  | .error .help => { code := 0, output := usageText, tree := env.tree }
  | .error (.version command) => { code := 0, output := versionText command, tree := env.tree }
  | .error .repeatedSubstitution => failed "" .repeatedSubstitution env.tree

end Program

end LineSelect
