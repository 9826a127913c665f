import LineSelect.Pattern.Classes
import LineSelect.Pattern.Error
import LineSelect.Pattern.Flags
import LineSelect.Pattern.Regex
import LineSelect.Text.Blank
import LineSelect.Text.Decimal

/-!
The small readers of the pattern language: blanks and comments, numbers, escapes and names. A
pattern is read from left to right with the flags in force.
-/

namespace LineSelect.Pattern

open LineSelect.Text
open LineSelect.Unicode

/-- What is left of a pattern, the flags in force, and the names of the groups opened so far. -/
structure Reader where
  rest : List Char
  flags : Flags := {}
  names : List (Option String) := []

abbrev Reading := StateT Reader (Except PatternError)

/-- The text without its leading blanks and comments; a comment runs from `#` to the end of its
line. -/
def dropComments (inComment : Bool) : List Char → List Char
  | [] => []
  | c :: rest =>
    if inComment then dropComments (c != '\n') rest
    else if isBlank c then dropComments false rest
    else if c == '#' then dropComments true rest
    else c :: rest

namespace Reading

def refuse {α : Type} : Reading α :=
  throw .malformed

def orRefuse {α : Type} : Option α → Reading α
  | some a => pure a
  | none => refuse

def flags : Reading Flags := do
  return (← get).flags

/-- The alphabet that words and classes are drawn from under the flags in force. -/
def alphabet : Reading Alphabet := do
  return if (← flags).unicode then .unicode else .ascii

def rest : Reading (List Char) := do
  return (← get).rest

def setRest (rest : List Char) : Reading Unit :=
  modify fun r => { r with rest }

def peek? : Reading (Option Char) := do
  return (← rest).head?

def advance : Reading Unit :=
  modify fun r => { r with rest := r.rest.drop 1 }

def next : Reading Char := do
  match ← rest with
  | [] => refuse
  | c :: rest =>
    setRest rest
    return c

/-- Passes over blanks and comments where the flags allow them. -/
def skipSpace : Reading Unit :=
  modify fun r => if r.flags.verbose then { r with rest := dropComments false r.rest } else r

/-- Takes `c`, which has to come next. -/
def expect (c : Char) : Reading Unit := do
  if (← next) == c then return () else refuse

/-- Takes the run of accepted characters, blanks and comments between them aside. -/
def collectWhile (accept : Char → Bool) : Nat → Reading (List Char)
  | 0 => return []
  | fuel + 1 => do
    skipSpace
    match ← peek? with
    | some c =>
      if accept c then
        advance
        return c :: (← collectWhile accept fuel)
      else return []
    | none => return []

def collect (accept : Char → Bool) : Reading (List Char) := do
  collectWhile accept ((← rest).length + 1)

end Reading

open Reading

/-- One unit of a pattern. -/
inductive Piece where
  /-- A character; `isByte` marks one that was given as two hexadecimal digits. -/
  | literal (c : Char) (isByte : Bool)
  | set (s : CodePoints)
  | anchor (condition : Anchor)

/-- The set as the flags see it: case first, then the complement. Without the flag `u` a set has
to stay within ASCII. -/
def finishSet (negated : Bool) (s : CodePoints) : Reading CodePoints := do
  let flags ← flags
  let s := if !flags.ignoreCase then s
    else if flags.unicode then s.caseClosure else asciiCaseClosure s
  let s := if negated then s.complement else s
  if !flags.unicode && !s.isAscii then refuse else return s

/-- A class with a one-letter escape; its members are not subject to case. -/
def shortClass (cls : ShortClass) (negated : Bool) : Reading Piece := do
  let unicode := (← flags).unicode
  let s := if unicode then cls.unicode else cls.ascii
  if !negated then return .set s
  else if unicode then return .set s.complement else refuse

/-- Splits around the first occurrence of a separator. -/
def splitFirst? (separator : List Char) : List Char → Option (List Char × List Char)
  | [] => none
  | c :: rest =>
    if separator.isPrefixOf (c :: rest) then some ([], (c :: rest).drop separator.length)
    else (splitFirst? separator rest).map fun (before, after) => (c :: before, after)

/-- The set that the text between the braces of a property escape names, and whether the text
itself asks for the complement. -/
def querySet? (query : List Char) : Option (Bool × CodePoints) :=
  let value (negated : Bool) (parts : List Char × List Char) :=
    (valueSet? (String.ofList parts.1) (String.ofList parts.2)).map (negated, ·)
  match splitFirst? ['!', '='] query with
  | some parts => value true parts
  | none =>
    match splitFirst? [':'] query with
    | some parts => value false parts
    | none =>
      match splitFirst? ['='] query with
      | some parts => value false parts
      | none => (namedSet? (String.ofList query)).map (false, ·)

/-- A property escape after its letter: one letter, or a query in braces. -/
def readProperty (negated : Bool) : Reading Piece := do
  skipSpace
  let query ← match ← next with
    | '{' => do
      let query ← collect (· != '}')
      expect '}'
      pure query
    | '\\' => refuse
    | c => pure [c]
  if !(← flags).unicode then refuse
  let (complemented, s) ← orRefuse (querySet? query)
  return .set (← finishSet (negated != complemented) s)

/-- A character given by its code point in hexadecimal: `digits` digits, or any number of them in
braces. -/
def readHex (digits : Nat) : Reading Piece := do
  skipSpace
  if (← peek?) == some '{' then
    advance
    let code ← collect (· != '}')
    expect '}'
    literal code false
  else
    literal (← fixed digits) (digits == 2)
where
  fixed : Nat → Reading (List Char)
    | 0 => return []
    | n + 1 => do
      skipSpace
      return (← next) :: (← fixed n)
  literal (code : List Char) (isByte : Bool) : Reading Piece := do
    let n := CodePoints.hexValue code
    if code.isEmpty || !code.all (CodePoints.hexDigitValue? · |>.isSome) then refuse
    else if h : n.isValidChar then return .literal (Char.ofNatAux n h) isByte
    else refuse

/-- The four word places that have names. -/
def namedBoundary? (alphabet : Alphabet) (name : List Char) : Option Anchor :=
  match String.ofList name with
  | "start" => some (.wordStart alphabet)
  | "end" => some (.wordEnd alphabet)
  | "start-half" => some (.wordStartHalf alphabet)
  | "end-half" => some (.wordEndHalf alphabet)
  | _ => none

def isBoundaryNameChar (c : Char) : Bool :=
  c.isAlpha || c == '-'

/-- What follows the escape of a word boundary: a name in braces picks one of the word places. A
brace that opens no name belongs to a repetition. -/
def readBoundary (alphabet : Alphabet) : Reading Anchor := do
  let saved ← get
  if (← peek?) != some '{' then return .wordBoundary alphabet
  advance
  skipSpace
  match ← peek? with
  | none => refuse
  | some c =>
    if !isBoundaryNameChar c then
      set saved
      return .wordBoundary alphabet
    let name ← collect isBoundaryNameChar
    expect '}'
    orRefuse (namedBoundary? alphabet name)

/-- Any ASCII character that is neither a letter nor a digit may be escaped, angle brackets
aside. -/
def isEscapable (c : Char) : Bool :=
  c.toNat < 128 && !c.isAlphanum && c != '<' && c != '>'

/-- An escape, from its backslash on. -/
def readEscape : Reading Piece := do
  advance
  let alphabet ← alphabet
  match ← next with
  | 'x' => readHex 2
  | 'u' => readHex 4
  | 'U' => readHex 8
  | 'p' => readProperty false
  | 'P' => readProperty true
  | 'd' => shortClass .digit false
  | 'D' => shortClass .digit true
  | 's' => shortClass .space false
  | 'S' => shortClass .space true
  | 'w' => shortClass .word false
  | 'W' => shortClass .word true
  | 'a' => return .literal '\x07' false
  | 'f' => return .literal '\x0C' false
  | 't' => return .literal '\t' false
  | 'n' => return .literal '\n' false
  | 'r' => return .literal '\r' false
  | 'v' => return .literal '\x0B' false
  | 'A' => return .anchor .textStart
  | 'z' => return .anchor .textEnd
  | 'b' => return .anchor (← readBoundary alphabet)
  | 'B' => return .anchor (.notWordBoundary alphabet)
  | '<' => return .anchor (.wordStart alphabet)
  | '>' => return .anchor (.wordEnd alphabet)
  | c => if isEscapable c then return .literal c false else refuse

/-- Repetition counts stay below this bound, two to the power of 32. -/
def countLimit : Nat := 0x100000000

/-- A repetition count with blanks around it, or nothing where no digit stands. -/
def readCount : Reading (Option Nat) := do
  setRest (dropBlanks (← rest))
  let digits ← collect Char.isDigit
  setRest (dropBlanks (← rest))
  if digits.isEmpty then return none
  match boundedValue? countLimit digits with
  | some n => return some n
  | none => refuse

/-- The bounds of a counted repetition, from its opening brace to its closing one. -/
def readBounds : Reading (Nat × Option Nat) := do
  advance
  skipSpace
  let low ← readCount
  match ← next with
  | '}' =>
    let low ← orRefuse low
    return (low, some low)
  | ',' =>
    skipSpace
    let low ← orRefuse low
    if (← peek?) == some '}' then
      advance
      return (low, none)
    let high ← orRefuse (← readCount)
    expect '}'
    if low ≤ high then return (low, some high) else refuse
  | _ => refuse

/-- The name of a group up to its closing angle bracket; names are not used twice. -/
def readGroupName : Reading String := do
  let text ← rest
  let name := text.takeWhile (· != '>')
  match text.dropWhile (· != '>') with
  | [] => refuse
  | _ :: rest =>
    setRest rest
    match name with
    | [] => refuse
    | first :: others =>
      if !(isGroupNameChar true first && others.all (isGroupNameChar false)) then refuse
      let name := String.ofList name
      if (← get).names.contains (some name) then refuse
      return name

end LineSelect.Pattern
