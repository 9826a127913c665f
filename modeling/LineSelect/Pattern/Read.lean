import LineSelect.Pattern.Reading

/-!
The grammar of patterns: bracketed classes, repetitions, groups and alternatives. Every reader
takes fuel, and the length of the pattern bounds what it can use.
-/

namespace LineSelect.Pattern

open LineSelect.Unicode
open Reading

/-- A part of a pattern with the number of constructs nested in it. -/
structure Nested (α : Type) where
  value : α
  depth : Nat := 0

/-- Constructs may be nested this deep. -/
def depthLimit : Nat := 250

/-- The members of a bracketed class read so far: how many items there were, and how deep. -/
structure ClassItems where
  set : CodePoints := .empty
  count : Nat := 0
  depth : Nat := 0

namespace ClassItems

def add (items : ClassItems) (set : CodePoints) (depth : Nat) : ClassItems :=
  ⟨items.set.union set, items.count + 1, max items.depth depth⟩

/-- Several items are nested one deeper than one. -/
def close (items : ClassItems) : Nested CodePoints :=
  ⟨items.set, if items.count ≤ 1 then items.depth else items.depth + 1⟩

end ClassItems

/-- The operators between the operands of a bracketed class. -/
inductive ClassOperator where
  | intersection
  | difference
  | symmetricDifference

namespace ClassOperator

def apply : ClassOperator → CodePoints → CodePoints → CodePoints
  | .intersection => .inter
  | .difference => .diff
  | .symmetricDifference => .symmDiff

end ClassOperator

/-- Joins the operand just read to the operation that waits for it; operators group to the
left, and case is ignored in each operand by itself. -/
def closeOperand (waiting : Option (Nested CodePoints × ClassOperator)) (items : ClassItems) :
    Reading (Nested CodePoints) := do
  match waiting with
  | none => return items.close
  | some (left, operator) =>
    let right := items.close
    let s := operator.apply (← finishSet false left.value) (← finishSet false right.value)
    return ⟨s, max left.depth right.depth + 1⟩

/-- A named ASCII class such as `[:alpha:]` or `[:^alpha:]` at the front of `s`. -/
def asciiClassAt? (s : List Char) : Option (Bool × CodePoints × List Char) :=
  match s with
  | '[' :: ':' :: rest =>
    let (negated, rest) := match rest with
      | '^' :: rest => (true, rest)
      | rest => (false, rest)
    let name := rest.takeWhile (· != ':')
    match rest.dropWhile (· != ':') with
    | ':' :: ']' :: rest => (asciiClass? (String.ofList name)).map (negated, ·, rest)
    | _ => none
  | _ => none

/-- A character in a class. Without the flag `u` it has to be ASCII. -/
def classChar : Piece → Reading Char
  | .literal c _ => do if (← flags).unicode || c.toNat < 128 then return c else refuse
  | _ => refuse

/-- The members that a unit stands for in a class; places have no members. -/
def classSet : Piece → Reading CodePoints
  | .set s => return s
  | piece => return .singleton (← classChar piece).toNat

/-- A unit in a class: an escape, or a character that stands for itself. -/
def classPiece : Reading Piece := do
  if (← peek?) == some '\\' then readEscape else return .literal (← next) false

/-- One item of a class: a unit, or two characters with a hyphen between them. A hyphen before
the closing bracket or before another hyphen makes no range. -/
def classItem : Reading CodePoints := do
  let first ← classPiece
  skipSpace
  match ← rest with
  | '-' :: after =>
    let ahead := if (← flags).verbose then dropComments false after else after
    if ahead.head? == some ']' || ahead.head? == some '-' then classSet first
    else
      advance
      skipSpace
      let low ← classChar first
      let high ← classChar (← classPiece)
      if low.toNat ≤ high.toNat then return ⟨[(low.toNat, high.toNat)]⟩ else refuse
  | _ => classSet first

mutual

/-- A bracketed class from its opening bracket to its closing one. -/
def bracketed : Nat → Reading (Nested CodePoints)
  | 0 => refuse
  | fuel + 1 => do
    advance
    skipSpace
    let negated := (← peek?) == some '^'
    if negated then
      advance
      skipSpace
    let hyphens ← collect (· == '-')
    skipSpace
    let mut items : ClassItems := ⟨⟨hyphens.head?.toList.map fun c => (c.toNat, c.toNat)⟩,
      hyphens.length, 0⟩
    if hyphens.isEmpty && (← peek?) == some ']' then
      advance
      items := items.add (.singleton ']'.toNat) 0
    let content ← classContent fuel none items
    return ⟨← finishSet negated content.value, content.depth + 1⟩

/-- The content of a bracketed class up to its closing bracket. -/
def classContent : Nat → Option (Nested CodePoints × ClassOperator) → ClassItems →
    Reading (Nested CodePoints)
  | 0, _, _ => refuse
  | fuel + 1, waiting, items => do
    skipSpace
    let operand (operator : ClassOperator) : Reading (Nested CodePoints) := do
      advance
      advance
      let left ← closeOperand waiting items
      classContent fuel (some (left, operator)) {}
    match ← rest with
    | [] => refuse
    | '[' :: _ =>
      match asciiClassAt? (← rest) with
      | some (negated, s, after) =>
        setRest after
        classContent fuel waiting (items.add (← finishSet negated s) 0)
      | none =>
        let inner ← bracketed fuel
        classContent fuel waiting (items.add inner.value inner.depth)
    | ']' :: _ =>
      advance
      closeOperand waiting items
    | '&' :: '&' :: _ => operand .intersection
    | '-' :: '-' :: _ => operand .difference
    | '~' :: '~' :: _ => operand .symmetricDifference
    | _ => classContent fuel waiting (items.add (← classItem) 0)

end

/-- A character as an expression: every character equal to it under the flags. -/
def literalRegex (c : Char) (isByte : Bool) : Reading Regex := do
  let flags ← flags
  let s := CodePoints.singleton c.toNat
  if !flags.unicode && isByte && 128 ≤ c.toNat then refuse
  return .ofSet (← alphabet) <| if !flags.ignoreCase then s
    else if flags.unicode then s.caseClosure
    else if c.toNat < 128 then asciiCaseClosure s else s

def pieceRegex : Piece → Reading Regex
  | .literal c isByte => literalRegex c isByte
  | .set s => return .ofSet (← alphabet) s
  | .anchor condition => return .anchor condition

/-- What a dot matches: any character but those that end a line, or any at all. -/
def dotRegex : Reading Regex := do
  let flags ← flags
  if !flags.unicode then refuse
  return .ofSet .unicode <| if flags.dotAll then .full
    else if flags.anyLineEnd then .complement ⟨[(0xA, 0xA), (0xD, 0xD)]⟩
    else .complement ⟨[(0xA, 0xA)]⟩

def startAnchor (flags : Flags) : Anchor :=
  if !flags.multiLine then .textStart
  else if flags.anyLineEnd then .anyLineStart else .lineStart

def endAnchor (flags : Flags) : Anchor :=
  if !flags.multiLine then .textEnd
  else if flags.anyLineEnd then .anyLineEnd else .lineEnd

/-- An item of a sequence; a bare change of flags is an item that nothing can repeat. -/
structure Item where
  regex : Regex
  depth : Nat := 0
  isRepeatable : Bool := true

def maxDepth (depths : List Nat) : Nat :=
  depths.foldl max 0

/-- The items of a sequence, last one first, as one expression. -/
def closeSequence (items : List Item) : Nested Regex :=
  let items := items.reverse
  ⟨.sequence (items.map Item.regex),
    maxDepth (items.map Item.depth) + if items.length ≤ 1 then 0 else 1⟩

def closeAlternatives (branches : List (Nested Regex)) : Nested Regex :=
  ⟨.alternation (branches.map Nested.value),
    maxDepth (branches.map Nested.depth) + if branches.length ≤ 1 then 0 else 1⟩

/-- Repeats the last item; a question mark after the operator prefers fewer rounds. -/
def repeatLast (items : List Item) (bounds : Nat × Option Nat) : Reading (List Item) := do
  let isLazy := (← peek?) == some '?'
  if isLazy then advance
  match items with
  | [] => refuse
  | last :: earlier =>
    if !last.isRepeatable then refuse
    let greedy := isLazy == (← flags).swapGreed
    return ⟨Regex.repeated bounds.1 bounds.2 greedy last.regex, last.depth + 1, true⟩ :: earlier

/-- How a group opens, after its parenthesis: with a name, with flags, or plainly. A change of
flags that closes at once is no group. -/
inductive GroupOpening where
  | capturing (name : Option String)
  | plain
  | flagsOnly

/-- Reads the opening of a group. Groups that look around a place are not part of the language. -/
def readOpening : Reading GroupOpening := do
  match ← rest with
  | '?' :: '=' :: _ | '?' :: '!' :: _ | '?' :: '<' :: '=' :: _ | '?' :: '<' :: '!' :: _ => refuse
  | '?' :: 'P' :: '<' :: rest | '?' :: '<' :: rest =>
    setRest rest
    return .capturing (some (← readGroupName))
  | '?' :: rest =>
    let letters := rest.takeWhile fun c => c != ':' && c != ')'
    let flags ← orRefuse ((← flags).withLetters? letters)
    match rest.dropWhile fun c => c != ':' && c != ')' with
    | [] => refuse
    | closing :: rest =>
      modify fun r => { r with rest, flags }
      if closing == ':' then return .plain
      else if letters.isEmpty then refuse else return .flagsOnly
  | _ => return .capturing none

mutual

/-- The alternatives up to a closing parenthesis or the end. -/
def readAlternatives : Nat → Reading (List (Nested Regex))
  | 0 => refuse
  | fuel + 1 => do
    let first ← readSequence fuel []
    if (← peek?) == some '|' then
      advance
      return first :: (← readAlternatives fuel)
    else return [first]

/-- One alternative, given the items read so far, last one first. -/
def readSequence : Nat → List Item → Reading (Nested Regex)
  | 0, _ => refuse
  | fuel + 1, items => do
    skipSpace
    match ← peek? with
    | none | some '|' | some ')' => return closeSequence items
    | some '(' =>
      advance
      skipSpace
      readSequence fuel ((← readGroup fuel) :: items)
    | some '[' =>
      let cls ← bracketed (2 * (← rest).length + 2)
      readSequence fuel (⟨.ofSet (← alphabet) cls.value, cls.depth, true⟩ :: items)
    | some '?' =>
      advance
      readSequence fuel (← repeatLast items (0, some 1))
    | some '*' =>
      advance
      readSequence fuel (← repeatLast items (0, none))
    | some '+' =>
      advance
      readSequence fuel (← repeatLast items (1, none))
    | some '\x7b' =>
      let bounds ← readBounds
      skipSpace
      readSequence fuel (← repeatLast items bounds)
    | some '.' =>
      advance
      readSequence fuel (⟨← dotRegex, 0, true⟩ :: items)
    | some '^' =>
      advance
      readSequence fuel (⟨.anchor (startAnchor (← flags)), 0, true⟩ :: items)
    | some '$' =>
      advance
      readSequence fuel (⟨.anchor (endAnchor (← flags)), 0, true⟩ :: items)
    | some '\\' =>
      let piece ← readEscape
      readSequence fuel (⟨← pieceRegex piece, 0, true⟩ :: items)
    | some c =>
      advance
      readSequence fuel (⟨← literalRegex c false, 0, true⟩ :: items)

/-- A group after its opening parenthesis. The flags in force before it are back after it, unless
it is a bare change of flags. -/
def readGroup : Nat → Reading Item
  | 0 => refuse
  | fuel + 1 => do
    let saved ← flags
    let opening ← readOpening
    match opening with
    | .flagsOnly => return ⟨.empty, 0, false⟩
    | .capturing name =>
      let index := (← get).names.length + 1
      modify fun r => { r with names := r.names ++ [name] }
      let body ← readBody fuel saved
      return ⟨.group index name body.value, body.depth + 1, true⟩
    | .plain =>
      let body ← readBody fuel saved
      return ⟨body.value, body.depth + 1, true⟩

/-- The body of a group and its closing parenthesis. -/
def readBody : Nat → Flags → Reading (Nested Regex)
  | 0, _ => refuse
  | fuel + 1, saved => do
    let branches ← readAlternatives fuel
    expect ')'
    modify fun r => { r with flags := saved }
    return closeAlternatives branches

end

namespace Regex

/-- The expression that all of a pattern spells. -/
def parse (source : String) : Except PatternError Regex := do
  let chars := source.toList
  let (branches, after) ← (readAlternatives (4 * chars.length + 4)).run { rest := chars }
  let tree := closeAlternatives branches
  if after.rest = [] ∧ tree.depth ≤ depthLimit then return tree.value
  else throw .malformed

end Regex

end LineSelect.Pattern
