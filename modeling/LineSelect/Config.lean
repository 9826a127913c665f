import LineSelect.Toml.Read

/-!
The configuration: its switches, their defaults, and their form in TOML.
-/

namespace LineSelect

structure LoggingConfig where
  debug : Bool := false
deriving DecidableEq, Repr

structure SubstitutionConfig where
  /-- Every match on a line is replaced, and not just the first. -/
  isGlobal : Bool := false
deriving DecidableEq, Repr

structure OutputConfig where
  numberLines : Bool := false
  /-- Line numbers are colored on a terminal. -/
  color : Bool := true
deriving DecidableEq, Repr

/-- The configuration by sections. -/
structure Config where
  logging : LoggingConfig := {}
  substitution : SubstitutionConfig := {}
  output : OutputConfig := {}
deriving DecidableEq, Repr, Inhabited

namespace Config

/-- The switches of a section: by name, or by their order. -/
inductive Fields where
  | named (entries : Toml.Entries)
  | ordered (items : List Toml)

namespace Fields

/-- A section is a table, or an array of its switches in order. A date counts as an empty
section. -/
def ofToml? : Toml → Option Fields
  | .table _ entries => some (.named entries)
  | .array items => some (.ordered items)
  | .tables items => some (.ordered (items.map (.table .header)))
  | .datetime _ => some (.named [])
  | _ => none

/-- The value for a switch, given its name and its place. -/
def value? (fields : Fields) (name : String) (place : Nat) : Option Toml :=
  match fields with
  | .named entries => entries.lookup name
  | .ordered items => items[place]?

/-- The state of a switch: a missing one has its default, and any value but a boolean is refused. -/
def switch? (fields : Fields) (name : String) (place : Nat) (default : Bool) : Option Bool :=
  match fields.value? name place with
  | none => some default
  | some (.boolean value) => some value
  | some _ => none

end Fields

/-- The switches of a section of the document. A missing section has none. -/
def section? (entries : Toml.Entries) (name : String) : Option Fields :=
  match entries.lookup name with
  | none => some (.named [])
  | some value => Fields.ofToml? value

/-- The configuration in a document. Keys that are not known are passed over. -/
def ofEntries? (entries : Toml.Entries) : Option Config := do
  let logging ← section? entries "logging"
  let substitution ← section? entries "substitution"
  let output ← section? entries "output"
  return {
    logging := ⟨← logging.switch? "debug" 0 false⟩
    substitution := ⟨← substitution.switch? "global" 0 false⟩
    output := ⟨← output.switch? "number_lines" 0 false, ← output.switch? "color" 1 true⟩ }

def parse? (text : String) : Option Config := do
  ofEntries? (← Toml.parse? text)

def switchText (value : Bool) : String :=
  if value then "true" else "false"

/-- The configuration as a document, all switches written out. -/
def text (c : Config) : String :=
  "[logging]\ndebug = " ++ switchText c.logging.debug ++
    "\n\n[substitution]\nglobal = " ++ switchText c.substitution.isGlobal ++
    "\n\n[output]\nnumber_lines = " ++ switchText c.output.numberLines ++
    "\ncolor = " ++ switchText c.output.color ++ "\n"

/-- The document that is written where there is none: the defaults with comments. -/
def defaultText : String :=
  "# edtext Configuration File\n" ++
  "#\n" ++
  "# Values set here can be overridden by command-line flags.\n" ++
  "\n" ++
  "[logging]\n" ++
  "# Write debug logs to ~/.edtext/edtext.log (default: false)\n" ++
  "# The EDTEXT_LOG environment variable overrides the log filter.\n" ++
  "debug = false\n" ++
  "\n" ++
  "[substitution]\n" ++
  "# Replace every match on a line instead of only the first (default: false)\n" ++
  "# Same as passing -g on the command line.\n" ++
  "global = false\n" ++
  "\n" ++
  "[output]\n" ++
  "# Prefix printed lines with their original line number (default: false)\n" ++
  "number_lines = false\n" ++
  "\n" ++
  "# Color line numbers when stdout is a terminal (default: true)\n" ++
  "color = true\n"

end Config

end LineSelect
