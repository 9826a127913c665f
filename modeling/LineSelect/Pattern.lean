import LineSelect.Pattern.Read
import LineSelect.Pattern.Search

/-!
Patterns that are ready to search: the first match from a place on, all matches in a row, and
the groups that a match took.
-/

namespace LineSelect

open LineSelect.Pattern

/-- A pattern that has been read and given a machine. Group 0 is the whole match and has no
name. -/
structure Pattern where
  machine : Machine
  start : Nat
  groupNames : List (Option String)

/-- The places where a match and its groups begin and end. -/
structure Match where
  start : Nat
  stop : Nat
  slots : Slots := []
deriving DecidableEq, Repr

namespace Match

/-- The first and last place of a group that took part in the match. -/
def group? (m : Match) (index : Nat) : Option (Nat × Nat) := do
  let start ← m.slots.lookup (2 * index)
  let stop ← m.slots.lookup (2 * index + 1)
  return (start, stop)

def between (text : List Char) (start stop : Nat) : List Char :=
  (text.take stop).drop start

/-- The text that a group took; none if it took no part. -/
def groupText? (m : Match) (text : List Char) (index : Nat) : Option (List Char) :=
  (m.group? index).map fun (start, stop) => between text start stop

def isEmpty (m : Match) : Bool :=
  m.start == m.stop

end Match

namespace Pattern

/-- The names of the groups by index. Indices that no group has any more are nameless. -/
def groupTable (groups : List (Nat × Option String)) : List (Option String) :=
  (List.range ((groups.map Prod.fst).foldl max 0 + 1)).map fun index =>
    (groups.lookup index).join

def compile (source : String) : Except PatternError Pattern := do
  let regex ← Regex.parse source
  if PatternError.roomLimit < Machine.room regex then throw .tooLarge
  let (machine, start) := Machine.ofRegex regex
  return ⟨machine, start, groupTable regex.groups⟩

/-- The preferred match among those that start at the first possible place from `place` on. -/
def find? (p : Pattern) (text : List Char) (place : Nat) : Option Match := do
  let chars := text.toArray
  let slots ← p.machine.search p.start chars (chars.size + 1 - place) place ∅
  let start ← slots.lookup 0
  let stop ← slots.lookup 1
  return ⟨start, stop, slots⟩

def matchesIn (p : Pattern) (text : List Char) : Bool :=
  (p.find? text 0).isSome

/-- The next match from `place` on, given where the last one stopped. An empty match right where
the last match stopped does not count; the search goes on one place later. -/
def findNext? (p : Pattern) (text : List Char) (place : Nat) (last : Option Nat) :
    Option Match :=
  match p.find? text place with
  | none => none
  | some m => if m.isEmpty && last == some m.stop then p.find? text (place + 1) else some m

/-- At most `fuel` matches in a row, from `place` on. -/
def matchesFrom (p : Pattern) (text : List Char) : Nat → Nat → Option Nat → List Match
  | 0, _, _ => []
  | fuel + 1, place, last =>
    match p.findNext? text place last with
    | none => []
    | some m => m :: matchesFrom p text fuel m.stop (some m.stop)

/-- All matches in a row, none overlapping the one before. A match stops later than the one before
it, so there are no more of them than places. -/
def matchesOf (p : Pattern) (text : List Char) : List Match :=
  p.matchesFrom text (text.length + 1) 0 none

end Pattern

end LineSelect
