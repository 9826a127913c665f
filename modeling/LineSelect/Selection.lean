import LineSelect.Pattern
import LineSelect.Range.Read
import LineSelect.Text.Line

/-!
Selection: finding the lines that addresses and ranges mean. Line numbers start at 1 and may fall
outside the text until a whole range has been looked at. The cursor is the line where the range
before ended, and 0 before the first range.
-/

namespace LineSelect

open LineSelect.Text

/-- The greatest line number that is computed with, the greatest of 64 bits with a sign. -/
def greatestLine : Int := 0x7FFFFFFFFFFFFFFF

/-- The least line number that is computed with, the least of 64 bits with a sign. -/
def leastLine : Int := -0x8000000000000000

/-- The nearest number between the least and the greatest line number. -/
def saturate (n : Int) : Int :=
  max leastLine (min greatestLine n)

theorem leastLine_le_saturate (n : Int) : leastLine ≤ saturate n := by
  unfold saturate
  omega

theorem saturate_le_greatestLine (n : Int) : saturate n ≤ greatestLine := by
  unfold saturate leastLine greatestLine
  omega

theorem saturate_eq_self {n : Int} (low : leastLine ≤ n) (high : n ≤ greatestLine) :
    saturate n = n := by
  unfold saturate
  omega

theorem saturate_mono {m n : Int} (h : m ≤ n) : saturate m ≤ saturate n := by
  unfold saturate
  omega

/-- The number of the first line after the cursor whose content matches. -/
def searchForward (source : String) (lines : List String) (cursor : Int) :
    Except SelectionError Int :=
  match Pattern.compile source with
  | .error cause => .error (.badPattern cause)
  | .ok pattern =>
    match (lines.drop cursor.toNat).findIdx? fun line => pattern.matchesIn (content line) with
    | some i => .ok (cursor.toNat + i + 1)
    | none => .error (.patternNotFound source)

namespace Position

/-- The line that a position means. -/
def resolve (position : Position) (lines : List String) (cursor : Int) :
    Except SelectionError Int :=
  match position with
  | .line number => .ok (min (number : Int) greatestLine)
  | .pattern source => searchForward source lines cursor
  | .last => .ok lines.length
  | .current => .ok (if 0 < cursor then cursor else 1)

end Position

namespace Address

/-- The line that an address means, whether or not the text has such a line. -/
def resolve (address : Address) (lines : List String) (cursor : Int) :
    Except SelectionError Int :=
  match address.position.resolve lines cursor with
  | .error e => .error e
  | .ok base => .ok (saturate (base + address.offset))

end Address

/-- Consecutive lines, from the first to the last, counted from 1. -/
structure Block where
  first : Nat
  last : Nat
deriving DecidableEq, Repr

namespace Block

def size (b : Block) : Nat :=
  b.last + 1 - b.first

/-- The places of the lines of a block in a list of lines. -/
def indices (b : Block) : List Nat :=
  List.range' (b.first - 1) b.size

theorem length_indices (b : Block) : b.indices.length = b.size := by
  simp [indices]

theorem mem_indices_iff {b : Block} {i : Nat} (nonzero : 0 < b.first)
    (ordered : b.first ≤ b.last) :
    i ∈ b.indices ↔ b.first ≤ i + 1 ∧ i + 1 ≤ b.last := by
  simp only [indices, size, List.mem_range'_1]
  omega

end Block

namespace Range

/-- The line that the end of a range means, given the line of its start. After a comma nothing is
there that a relative end could count from. -/
def resolveStop (range : Range) (lines : List String) (start : Int) :
    Except SelectionError Int :=
  match range.stop with
  | none => .ok start
  | some (.comma, stop) =>
    if stop.isRelative then .error (.invalidRange range.text) else stop.resolve lines 1
  | some (.semicolon, stop) => stop.resolve lines start

/-- The block between two lines: the first has to come before the last, and both have to exist. -/
def checkBlock (start stop : Int) (total : Nat) : Except SelectionError Block :=
  if stop < start then .error (.startAfterEnd start stop)
  else if start < 1 ∨ (total : Int) < start then .error (.outOfBounds start total)
  else if stop < 1 ∨ (total : Int) < stop then .error (.outOfBounds stop total)
  else .ok ⟨start.toNat, stop.toNat⟩

/-- The block that a range means. -/
def resolve (range : Range) (lines : List String) (cursor : Int) :
    Except SelectionError Block :=
  match range.start.resolve lines cursor with
  | .error e => .error e
  | .ok start =>
    match range.resolveStop lines start with
    | .error e => .error e
    | .ok stop => checkBlock start stop lines.length

end Range

/-- Reads and resolves one expression. An end that counts from nothing is reported with the
expression as it is written. -/
def resolveExpression (lines : List String) (cursor : Int) (expr : String) :
    Except SelectionError Block :=
  match Range.parse expr with
  | .error e => .error e
  | .ok range =>
    match range.resolve lines cursor with
    | .error (.invalidRange _) => .error (.invalidRange expr)
    | result => result

/-- Resolves expressions from left to right, each from where the one before it ended. -/
def resolveBlocks (lines : List String) (cursor : Int) :
    List String → Except SelectionError (List Block)
  | [] => .ok []
  | expr :: rest =>
    match resolveExpression lines cursor expr with
    | .error e => .error e
    | .ok block =>
      match resolveBlocks lines block.last rest with
      | .error e => .error e
      | .ok blocks => .ok (block :: blocks)

/-- The places of the lines that expressions select, in the order of the expressions. -/
def selectIndices (lines : List String) (exprs : List String) :
    Except SelectionError (List Nat) :=
  match resolveBlocks lines 0 exprs with
  | .error e => .error e
  | .ok blocks => .ok (blocks.flatMap Block.indices)

end LineSelect
