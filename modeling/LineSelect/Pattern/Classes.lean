import LineSelect.Unicode.Alphabetic
import LineSelect.Unicode.CaseFolding
import LineSelect.Unicode.Lookup

/-!
The character classes that patterns name: digits, blanks and word characters, and the bracketed
names of ASCII classes.
-/

namespace LineSelect.Pattern

open LineSelect.Unicode

/-- The classes with a one-letter escape. -/
inductive ShortClass where
  | digit
  | space
  | word
deriving DecidableEq, Repr

namespace ShortClass

def ascii : ShortClass → CodePoints
  | .digit => ⟨[(0x30, 0x39)]⟩
  | .space => ⟨[(0x9, 0xD), (0x20, 0x20)]⟩
  | .word => ⟨[(0x30, 0x39), (0x41, 0x5A), (0x5F, 0x5F), (0x61, 0x7A)]⟩

def unicodeDigits : CodePoints :=
  Category.decimalNumber.codePoints

def unicodeBlanks : CodePoints :=
  (property? "whitespace").getD .empty

/-- Letters and what acts as one, marks, digits, connectors and joiners. -/
def unicodeWords : CodePoints :=
  .unions [alphabetic, Category.marks,
    Category.decimalNumber.codePoints, Category.connectorPunctuation.codePoints,
    (property? "joincontrol").getD .empty]

def unicode : ShortClass → CodePoints
  | .digit => unicodeDigits
  | .space => unicodeBlanks
  | .word => unicodeWords

end ShortClass

/-- The ASCII class with a bracketed name. -/
def asciiClass? : String → Option CodePoints
  | "alnum" => some ⟨[(0x30, 0x39), (0x41, 0x5A), (0x61, 0x7A)]⟩
  | "alpha" => some ⟨[(0x41, 0x5A), (0x61, 0x7A)]⟩
  | "ascii" => some ⟨[(0x0, 0x7F)]⟩
  | "blank" => some ⟨[(0x9, 0x9), (0x20, 0x20)]⟩
  | "cntrl" => some ⟨[(0x0, 0x1F), (0x7F, 0x7F)]⟩
  | "digit" => some ⟨[(0x30, 0x39)]⟩
  | "graph" => some ⟨[(0x21, 0x7E)]⟩
  | "lower" => some ⟨[(0x61, 0x7A)]⟩
  | "print" => some ⟨[(0x20, 0x7E)]⟩
  | "punct" => some ⟨[(0x21, 0x2F), (0x3A, 0x40), (0x5B, 0x60), (0x7B, 0x7E)]⟩
  | "space" => some ⟨[(0x9, 0xD), (0x20, 0x20)]⟩
  | "upper" => some ⟨[(0x41, 0x5A)]⟩
  | "word" => some ⟨[(0x30, 0x39), (0x41, 0x5A), (0x5F, 0x5F), (0x61, 0x7A)]⟩
  | "xdigit" => some ⟨[(0x30, 0x39), (0x41, 0x46), (0x61, 0x66)]⟩
  | _ => none

/-- The set with the other case of every ASCII letter in it added. -/
def asciiCaseClosure (s : CodePoints) : CodePoints :=
  .ofRanges <| s.ranges ++
    ((List.range 26).flatMap fun i =>
      if CodePoints.holds s.ranges (0x41 + i) || CodePoints.holds s.ranges (0x61 + i) then
        [(0x41 + i, 0x41 + i), (0x61 + i, 0x61 + i)]
      else [])

/-- Whether `c` may stand in a group name, where the first character has to be a letter or `_`. -/
def isGroupNameChar (isFirst : Bool) (c : Char) : Bool :=
  c == '_' || isAlphabetic c ||
    (!isFirst && (c == '.' || c == '[' || c == ']' || isAlphanumeric c))

end LineSelect.Pattern
