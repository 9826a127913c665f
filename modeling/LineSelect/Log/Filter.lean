import LineSelect.Log
import LineSelect.Replacement.Template
import LineSelect.Unicode.Alphabetic

/-!
Filters that say which notes reach the log. A filter is a list of directives between commas; each
sets a level for the targets that start with a given text, or for the notes that have a given part.
-/

namespace LineSelect

open LineSelect.Text
open LineSelect.Replacement
open LineSelect.Unicode

/-- Notes up to a rank pass; none pass at rank 0. -/
structure LogDirective where
  /-- The text that targets start with; missing, it is any target. -/
  target : Option String := none
  /-- The name of a part that notes have; missing, they need none. -/
  part : Option String := none
  rank : Nat := LogLevel.trace.rank
deriving DecidableEq, Repr

/-- Directives in the order in which they are given. -/
abbrev LogFilter := List LogDirective

namespace LogFilter

def rankOf? (text : String) : Option Nat :=
  match groupNumber? text.toList with
  | some n => if n ≤ LogLevel.trace.rank then some n else none
  | none =>
    match String.ofList (text.toList.map Char.toLower) with
    | "off" => some 0
    | "error" => some LogLevel.error.rank
    | "warn" => some LogLevel.warn.rank
    | "info" => some LogLevel.info.rank
    | "debug" => some LogLevel.debug.rank
    | "trace" => some LogLevel.trace.rank
    | _ => none

/-- Whether a directive may begin with `c`. -/
def isOpening (c : Char) : Bool :=
  c == '[' || c == '-' || c == ':' || c == '_' || isAlphanumeric c

/-- What an equals sign and the level behind it set; without them everything passes. -/
def levelAfter? : List Char → Option Nat
  | [] | ['='] => some LogLevel.trace.rank
  | '=' :: level => rankOf? (String.ofList level)
  | _ => none

/-- A condition in brackets. -/
inductive Condition where
  /-- On the stretch of work that a note is made in; no note is made in a stretch of work. -/
  | work
  /-- On the value of a part, where the same is true. -/
  | value
  /-- On a part that a note has. -/
  | part (name : String)
deriving DecidableEq, Repr

/-- The condition on a part in braces, and what follows the braces. A condition on the work may
stand in front. -/
def readPart? (work s : List Char) : Option (Condition × List Char) :=
  match s.takeWhile (· ≠ '\x7d'), s.dropWhile (· ≠ '\x7d') with
  | name, '\x7d' :: ']' :: rest =>
    if name = [] then none
    else if work ≠ [] then some (.work, rest)
    else if '=' ∈ name then some (.value, rest)
    else some (.part (String.ofList name), rest)
  | _, _ => none

/-- The condition behind an opening bracket, and what follows the closing one. -/
def readCondition? (s : List Char) : Option (Condition × List Char) :=
  let isInside (c : Char) : Bool := c ≠ ']' && c ≠ '\x7b'
  match s.dropWhile isInside with
  | ']' :: rest => some (.work, rest)
  | '\x7b' :: rest => readPart? (s.takeWhile isInside) rest
  | _ => none

/-- A directive from its target, its condition and its rank, if it sets anything for notes. -/
def directive? (target : Option String) (rank : Nat) : Condition → Option LogDirective
  | .work | .value => none
  | .part name => some { target, part := some name, rank }

/-- What a name alone sets: a level, or all levels for a target. -/
def directiveOfName (name : String) : LogDirective :=
  match rankOf? name with
  | some rank => { rank }
  | none => { target := some name }

/-- One directive: a level, a target, or a target with a condition or a level or both. Blanks belong
to what they stand next to, and in front of more than a name they are a fault. -/
def readDirective? (s : List Char) : Option (Option LogDirective) :=
  let isName (c : Char) : Bool := c ≠ '=' && c ≠ '['
  let name := String.ofList (s.takeWhile isName)
  let rest := s.dropWhile isName
  if !(dropBlanks s).head?.any isOpening then none
  else if rest = [] then some (some (directiveOfName name))
  else if s.head?.any isBlank then none
  else match rest with
    | '[' :: rest => do
      let (condition, rest) ← readCondition? rest
      let rank ← levelAfter? rest
      return directive? (if name = "" then none else some name) rank condition
    | rest => (levelAfter? rest).map fun rank => some { target := some name, rank }

/-- The filter that a text spells. A text without directives lets errors pass and nothing else. -/
def parse? (text : String) : Option LogFilter := do
  let directives ← ((splitOn ',' text.toList).filter (· ≠ [])).mapM readDirective?
  if directives = [] then return [{ rank := LogLevel.error.rank }]
  else return directives.filterMap id

/-- The filter where none is asked for: all but traces. -/
def default : LogFilter :=
  [{ target := some "edtext", rank := LogLevel.debug.rank }]

/-- The filter that is asked for, or the default where none is or where it cannot be read. -/
def ofText (text : Option String) : LogFilter :=
  (text.bind parse?).getD default

/-- Whether a directive speaks of a note. -/
def applies (event : LogEvent) (d : LogDirective) : Bool :=
  (d.target.all fun target => target.toList.isPrefixOf event.target.toList) &&
    d.part.all event.hasPart

/-- The length of the text that targets have to start with; any such text counts for more than
none. -/
def targetLength (d : LogDirective) : Nat :=
  d.target.elim 0 fun target => target.utf8ByteSize + 1

/-- Whether a directive gives way to another one that speaks of the same note: to one with a longer
target, and between equal targets to one with a part, or with a part whose name comes later. -/
def yields (d other : LogDirective) : Bool :=
  targetLength d < targetLength other ||
    (targetLength d == targetLength other && d.part.getD "" ≤ other.part.getD "")

/-- The rank that a filter sets for a note: that of the directive that no later one displaces. -/
def rankFor (filter : LogFilter) (event : LogEvent) : Nat :=
  let best := (filter.filter (applies event)).foldl (fun (best : Option LogDirective) d =>
    if best.all fun b => yields b d then some d else best) none
  best.elim 0 LogDirective.rank

def passes (filter : LogFilter) (event : LogEvent) : Bool :=
  event.level.rank ≤ rankFor filter event

end LogFilter

end LineSelect
