import LineSelect.Pattern.Classes
import LineSelect.Pattern.Machine
import Std.Data.TreeSet.Basic

/-!
Running a machine over a text. Threads are followed one at a time in order of preference, and no
two threads visit the same instruction at the same place: what a second thread could find there,
the first one has found already.
-/

namespace LineSelect.Pattern

open LineSelect.Unicode

/-- Places of a text, noted for the ends of groups. -/
abbrev Slots := List (Nat × Nat)

/-- A machine that stands before an instruction, at a place of the text, with the notes made on
the way; a later note for a slot hides an earlier one. -/
structure Thread where
  instruction : Nat
  place : Nat
  slots : Slots := []

def isWordChar (alphabet : Alphabet) (c : Char) : Bool :=
  if c.toNat < 128 then CodePoints.contains (ShortClass.ascii .word) c
  else match alphabet with
    | .ascii => false
    | .unicode => ShortClass.unicodeWords.contains c

def before? (text : Array Char) (place : Nat) : Option Char :=
  if place = 0 then none else text[place - 1]?

namespace Anchor

def holdsAt (text : Array Char) (place : Nat) (condition : Anchor) : Bool :=
  let before := before? text place
  let after := text[place]?
  let wordBefore (alphabet : Alphabet) := before.any (isWordChar alphabet)
  let wordAfter (alphabet : Alphabet) := after.any (isWordChar alphabet)
  match condition with
  | .textStart => before == none
  | .textEnd => after == none
  | .lineStart => before == none || before == some '\n'
  | .lineEnd => after == none || after == some '\n'
  | .anyLineStart =>
    before == none || before == some '\n' || (before == some '\r' && after != some '\n')
  | .anyLineEnd =>
    after == none || after == some '\r' || (after == some '\n' && before != some '\r')
  | .wordBoundary alphabet => wordBefore alphabet != wordAfter alphabet
  | .notWordBoundary alphabet => wordBefore alphabet == wordAfter alphabet
  | .wordStart alphabet => !wordBefore alphabet && wordAfter alphabet
  | .wordEnd alphabet => wordBefore alphabet && !wordAfter alphabet
  | .wordStartHalf alphabet => !wordBefore alphabet
  | .wordEndHalf alphabet => !wordAfter alphabet

end Anchor

namespace Machine

/-- The threads that continue a thread, in order of preference. -/
def step (m : Machine) (text : Array Char) (t : Thread) : List Thread :=
  match m[t.instruction]? with
  | none | some .accept => []
  | some (.take set next) =>
    match text[t.place]? with
    | some c => if set.contains c then [⟨next, t.place + 1, t.slots⟩] else []
    | none => []
  | some (.check condition next) =>
    if condition.holdsAt text t.place then [{ t with instruction := next }] else []
  | some (.split preferred other) =>
    [{ t with instruction := preferred }, { t with instruction := other }]
  | some (.save slot next) => [⟨next, t.place, (slot, t.place) :: t.slots⟩]

def isAccepting (m : Machine) (t : Thread) : Bool :=
  match m[t.instruction]? with
  | some .accept => true
  | _ => false

/-- The number of a pair of an instruction and a place. -/
def pairNumber (text : Array Char) (t : Thread) : Nat :=
  t.instruction * (text.size + 1) + t.place

/-- Follows threads until one accepts. Gives its notes, or the pairs visited in vain. -/
def follow (m : Machine) (text : Array Char) :
    Nat → List Thread → Std.TreeSet Nat → Option Slots × Std.TreeSet Nat
  | 0, _, visited => (none, visited)
  | _ + 1, [], visited => (none, visited)
  | fuel + 1, t :: threads, visited =>
    if visited.contains (pairNumber text t) then follow m text fuel threads visited
    else if m.isAccepting t then (some t.slots, visited)
    else follow m text fuel (m.step text t ++ threads) (visited.insert (pairNumber text t))

/-- Every pair is visited once and leaves at most two threads, so this much fuel is enough. -/
def fuel (m : Machine) (text : Array Char) : Nat :=
  2 * m.size * (text.size + 1) + 2

/-- The notes of the preferred match at the first of `count` places, from `place` on, where there
is one. -/
def search (m : Machine) (start : Nat) (text : Array Char) :
    Nat → Nat → Std.TreeSet Nat → Option Slots
  | 0, _, _ => none
  | count + 1, place, visited =>
    match m.follow text (m.fuel text) [⟨start, place, []⟩] visited with
    | (some slots, _) => some slots
    | (none, visited) => m.search start text count (place + 1) visited

end Machine

end LineSelect.Pattern
