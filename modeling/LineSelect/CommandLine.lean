/-!
The command line: what it may ask for, and how its arguments are read. Arguments are read from left
to right, and the first fault ends the reading. An option that waits for values is checked when
something else comes up.
-/

namespace LineSelect.CommandLine

structure SubstitutionRequest where
  pattern : String
  replacement : String
  isGlobal : Bool
deriving DecidableEq, Repr

structure SelectRequest where
  ranges : List String := []
  file : Option String := none
  substitution : Option SubstitutionRequest := none
  number : Bool := false
  explain : Bool := false
  debug : Bool := false
deriving DecidableEq, Repr

inductive Request where
  | select (request : SelectRequest)
  /-- To show the configuration, to reset it, or to say where it is. -/
  | config (wantsShow wantsReset : Bool)
deriving DecidableEq, Repr

inductive UsageFault where
  | unknownArgument
  | invalidValue
  | wrongNumberOfValues
  | tooManyValues
  | argumentConflict
  | missingRequiredArgument
  | invalidSubcommand
deriving DecidableEq, Repr

/-- Commands that have a version of their own. -/
inductive Command where
  | main
  | config
deriving DecidableEq, Repr

/-- Why a command line gives no request. -/
inductive Refusal where
  | usage (fault : UsageFault)
  | help
  | version (command : Command)
  /-- More than one pattern with its replacement. -/
  | repeatedSubstitution
deriving DecidableEq, Repr

/-- The options that take values. -/
inductive ValueOption where
  | file
  | substitute
deriving DecidableEq, Repr

/-- The options that take none. -/
inductive Flag where
  | global
  | number
  | explain
  | debug
  | help
  | version
deriving DecidableEq, Repr

inductive Switch where
  | flag (flag : Flag)
  | value (option : ValueOption)
deriving DecidableEq, Repr

def Switch.ofShort? : Char → Option Switch
  | 'f' => some (.value .file)
  | 's' => some (.value .substitute)
  | 'g' => some (.flag .global)
  | 'n' => some (.flag .number)
  | 'h' => some (.flag .help)
  | 'V' => some (.flag .version)
  | _ => none

def Switch.ofLong? : String → Option Switch
  | "file" => some (.value .file)
  | "substitute" => some (.value .substitute)
  | "global" => some (.flag .global)
  | "number" => some (.flag .number)
  | "explain" => some (.flag .explain)
  | "debug" => some (.flag .debug)
  | "help" => some (.flag .help)
  | "version" => some (.flag .version)
  | _ => none

def ValueOption.arity : ValueOption → Nat
  | .file => 1
  | .substitute => 2

/-- What the next argument may be taken for. -/
inductive Expecting where
  | anything
  /-- Another range: the one before was a range, too. -/
  | range
  /-- A value of the option that waits. -/
  | value
deriving DecidableEq, Repr

/-- What has been read so far. -/
structure State where
  ranges : List String := []
  file : Option String := none
  /-- All values of the substitution option. -/
  substitute : Option (List String) := none
  flags : List Flag := []
  /-- The option whose values have not been checked yet. -/
  pending : Option (ValueOption × List String) := none
  expecting : Expecting := .anything
deriving DecidableEq, Repr

abbrev Result (α : Type) := Except Refusal α

def refuse {α : Type} (fault : UsageFault) : Result α :=
  .error (.usage fault)

namespace State

/-- Takes over the values of an option. A file may be given once. -/
def store (s : State) (option : ValueOption) (values : List String) : Result State :=
  if values.length = 0 then refuse .invalidValue
  else if values.length ≠ option.arity then refuse .wrongNumberOfValues
  else match option with
    | .file =>
      if s.file.isSome then refuse .argumentConflict else .ok { s with file := values.head? }
    | .substitute => .ok { s with substitute := some (s.substitute.getD [] ++ values) }

def settle (s : State) : Result State :=
  match s.pending with
  | none => .ok s
  | some (option, values) => store { s with pending := none } option values

/-- Sets a flag, which may be done once. -/
def setFlag (s : State) (command : Command) (flag : Flag) : Result State := do
  let s ← s.settle
  match flag with
  | .help => .error .help
  | .version => .error (.version command)
  | flag =>
    if flag ∈ s.flags then refuse .argumentConflict
    else return { s with flags := flag :: s.flags, expecting := .anything }

/-- Opens an option whose values are the arguments after it. -/
def await (s : State) (option : ValueOption) : Result State := do
  let s ← s.settle
  return { s with pending := some (option, []), expecting := .value }

/-- Takes the value that is attached to an option; no others follow. -/
def attach (s : State) (option : ValueOption) (value : String) : Result State := do
  let s ← s.settle
  store { s with expecting := .anything } option [value]

def addRange (s : State) (range : String) : Result State := do
  let s ← s.settle
  return { s with ranges := s.ranges ++ [range], expecting := .range }

/-- Gives the option that waits another value. -/
def addValue (s : State) (value : String) : Result State :=
  match s.pending with
  | none => s.addRange value
  | some (option, values) =>
    let values := values ++ [value]
    .ok { s with
      pending := some (option, values)
      expecting := if values.length < option.arity then .value else .anything }

/-- Short switches in one argument. A switch that takes a value takes the rest of the argument,
with or without an equals sign in front. -/
def addShorts (s : State) : List Char → Result State
  | [] => .ok s
  | c :: rest =>
    match Switch.ofShort? c with
    | none => refuse .unknownArgument
    | some (.flag flag) =>
      match s.setFlag .main flag with
      | .error e => .error e
      | .ok s => addShorts s rest
    | some (.value option) =>
      match rest with
      | [] => s.await option
      | '=' :: value => s.attach option (String.ofList value)
      | value => s.attach option (String.ofList value)

def addLong (s : State) (name : String) (value : Option String) : Result State :=
  match Switch.ofLong? name, value with
  | none, _ => refuse .unknownArgument
  | some (.flag _), some _ => refuse .tooManyValues
  | some (.flag flag), none => s.setFlag .main flag
  | some (.value option), some value => s.attach option value
  | some (.value option), none => s.await option

end State

/-- Splits the text of a long switch at its first equals sign. -/
def splitLong (text : List Char) : String × Option String :=
  let name := String.ofList (text.takeWhile (· ≠ '='))
  match text.dropWhile (· ≠ '=') with
  | [] => (name, none)
  | _ :: value => (name, some (String.ofList value))

structure ConfigState where
  wantsShow : Bool := false
  wantsReset : Bool := false

/-- The arguments of the configuration command. It takes flags only. -/
def readConfig (s : ConfigState) : List String → Result ConfigState
  | [] => if s.wantsShow && s.wantsReset then refuse .argumentConflict else .ok s
  | arg :: rest =>
    match arg.toList with
    | ['-', '-'] => if rest = [] then readConfig s rest else refuse .unknownArgument
    | '-' :: '-' :: text =>
      match splitLong text with
      | ("show", none) =>
        if s.wantsShow then refuse .argumentConflict
        else readConfig { s with wantsShow := true } rest
      | ("reset", none) =>
        if s.wantsReset then refuse .argumentConflict
        else readConfig { s with wantsReset := true } rest
      | ("help", none) => .error .help
      | ("version", none) => .error (.version .config)
      | ("show", some _) | ("reset", some _) | ("help", some _) | ("version", some _) =>
        refuse .tooManyValues
      | _ => refuse .unknownArgument
    | '-' :: 'h' :: _ => .error .help
    | '-' :: 'V' :: _ => .error (.version .config)
    | _ => refuse .unknownArgument

/-- The help command: it may name one command. -/
def readHelp {α : Type} : List String → Result α
  | [] | ["config"] | ["help"] => .error .help
  | _ => refuse .invalidSubcommand

/-- What is asked for once all arguments have been read. -/
def State.finish (s : State) (config : Option ConfigState) : Result Request := do
  let s ← s.settle
  if .global ∈ s.flags && s.substitute.isNone then refuse .missingRequiredArgument
  match config with
  | some config => return .config config.wantsShow config.wantsReset
  | none =>
    let substitution ← match s.substitute with
      | none => pure none
      | some [pattern, replacement] => pure (some ⟨pattern, replacement, .global ∈ s.flags⟩)
      | some _ => throw .repeatedSubstitution
    return .select {
      ranges := s.ranges
      file := s.file
      substitution
      number := .number ∈ s.flags
      explain := .explain ∈ s.flags
      debug := .debug ∈ s.flags }

/-- Arguments that are all ranges. -/
def readRanges (s : State) : List String → Result State
  | [] => .ok s
  | arg :: rest =>
    match s.addRange arg with
    | .error e => .error e
    | .ok s => readRanges s rest

/-- An argument that is neither a command nor the end of the switches. -/
def State.addArgument (s : State) (arg : String) : Result State :=
  match arg.toList with
  | '-' :: '-' :: text =>
    let (name, value) := splitLong text
    s.addLong name value
  | '-' :: c :: text => s.addShorts (c :: text)
  | _ => if s.expecting = .value then s.addValue arg else s.addRange arg

/-- The arguments after the program's name. A command is not looked for right after a range nor
where an option waits for a value; after two hyphens all is a range. -/
def readArguments (s : State) : List String → Result Request
  | [] => s.finish none
  | arg :: rest =>
    if s.expecting = .anything ∧ arg = "help" then readHelp rest
    else if s.expecting = .anything ∧ arg = "config" then
      match readConfig {} rest with
      | .error e => .error e
      | .ok config => s.finish (some config)
    else if arg = "--" then
      match readRanges s rest with
      | .error e => .error e
      | .ok s => s.finish none
    else
      match s.addArgument arg with
      | .error e => .error e
      | .ok s => readArguments s rest

/-- What the arguments after the program's name ask for. -/
def parse (args : List String) : Result Request :=
  readArguments {} args

end LineSelect.CommandLine
