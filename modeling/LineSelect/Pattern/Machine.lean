import LineSelect.Pattern.Error
import LineSelect.Pattern.Regex

/-!
Machines that match expressions: instructions that name the instructions after them. Where a
machine may go on in two ways, the preferred one comes first.
-/

namespace LineSelect.Pattern

open LineSelect.Unicode

inductive Instruction where
  /-- Takes one character of a set. -/
  | take (set : CodePoints) (next : Nat)
  | check (condition : Anchor) (next : Nat)
  | split (preferred other : Nat)
  /-- Notes the place: an even slot opens a group, the odd one after it closes it. -/
  | save (slot : Nat) (next : Nat)
  | accept
deriving Repr, Inhabited

abbrev Machine := Array Instruction

namespace Machine

/-- Adds an instruction and gives its number. -/
def emit (m : Machine) (i : Instruction) : Machine × Nat :=
  (m.push i, m.size)

def branch (greedy : Bool) (into past : Nat) : Instruction :=
  if greedy then .split into past else .split past into

/-- Adds `n` copies of what `build` adds, each leading to the one before it. -/
def chain (build : Machine → Nat → Machine × Nat) : Nat → Machine → Nat → Machine × Nat
  | 0, m, next => (m, next)
  | n + 1, m, next =>
    let (m, start) := build m next
    chain build n m start

/-- Adds what `build` adds as the body of a loop, and the instruction that decides on one more
round. Gives the start of the body and the number of that instruction. -/
def loop (build : Machine → Nat → Machine × Nat) (greedy : Bool) (m : Machine) (next : Nat) :
    Machine × Nat × Nat :=
  let decision := m.size
  let (m, start) := build (m.push .accept) decision
  (m.set! decision (branch greedy start next), start, decision)

/-- Adds up to `n` optional rounds, each of which may leave for `past`. -/
def optionalRounds (build : Machine → Nat → Machine × Nat) (greedy : Bool) (past : Nat) :
    Nat → Machine → Nat → Machine × Nat
  | 0, m, next => (m, next)
  | n + 1, m, next =>
    let (m, start) := build m next
    let (m, decision) := m.emit (branch greedy start past)
    optionalRounds build greedy past n m decision

/-- Adds the instructions for an expression that is followed by instruction `next`, and gives the
number of the first. A loop whose body can match the empty text is left after one empty round, so
that the order of preference stays that of the rounds. -/
def add : Regex → Machine → Nat → Machine × Nat
  | .empty, m, next => (m, next)
  | .chars _ set, m, next => m.emit (.take set next)
  | .anchor condition, m, next => m.emit (.check condition next)
  | .concat first second, m, next =>
    let (m, middle) := add second m next
    add first m middle
  | .alternative first second, m, next =>
    let (m, left) := add first m next
    let (m, right) := add second m next
    m.emit (.split left right)
  | .group index _ body, m, next =>
    let (m, closing) := m.emit (.save (2 * index + 1) next)
    let (m, start) := add body m closing
    m.emit (.save (2 * index) start)
  | .repetition 0 none greedy body, m, next =>
    let (m, start, decision) := loop (add body) greedy m next
    if body.isNonempty then (m, decision) else m.emit (branch greedy start next)
  | .repetition (n + 1) none greedy body, m, next =>
    let (m, start, _) := loop (add body) greedy m next
    chain (add body) n m start
  | .repetition min (some max) greedy body, m, next =>
    let (m, start) := optionalRounds (add body) greedy next (max - min) m next
    chain (add body) min m start

/-- Bytes that one instruction takes. -/
def instructionRoom : Nat := 32

/-- Bytes that the instruction for a set of characters takes: a single character has one unit for
each of its bytes, an ASCII set a table, and any other set a tree over the bytes of its ranges. -/
def setRoom (set : CodePoints) : Nat :=
  match set.ranges with
  | [(low, high)] =>
    if low = high then instructionRoom * (Char.ofNat low).utf8Size
    else if high < 128 then 2 * instructionRoom + 8 else 27 * instructionRoom + 64
  | ranges =>
    if set.isAscii then 2 * instructionRoom + 8 * ranges.length
    else 27 * instructionRoom + 64 * ranges.length

/-- An estimate of the bytes that the machine for an expression takes. -/
def room : Regex → Nat
  | .empty | .anchor _ => instructionRoom
  | .chars _ set => setRoom set
  | .concat a b => room a + room b
  | .alternative a b => room a + room b + 2 * instructionRoom
  | .group _ _ body => room body + 2 * instructionRoom
  | .repetition min none _ body => Nat.max min 1 * room body + 2 * instructionRoom
  | .repetition min (some max) _ body =>
    max * room body + (max - min) * 2 * instructionRoom + instructionRoom

/-- The machine for an expression and the number of its first instruction. Group 0 is the whole
match. -/
def ofRegex (r : Regex) : Machine × Nat :=
  add (.group 0 none r) #[.accept] 0

end Machine

end LineSelect.Pattern
