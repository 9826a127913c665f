import LineSelect.Text.Split

/-!
Sets of code points, kept as sorted ranges. The set operations are written with two
primitives, union and complement; the others follow from them.
-/

namespace LineSelect.Unicode

/-- A set of code points: inclusive ranges in increasing order, no two of which touch. -/
structure CodePoints where
  ranges : List (Nat × Nat)
deriving DecidableEq, Repr, Inhabited

namespace CodePoints

def greatest : Nat := 0x10FFFF

def empty : CodePoints := ⟨[]⟩

def full : CodePoints := ⟨[(0, greatest)]⟩

/-- Whether some range holds `n`; ranges beyond `n` are not looked at. -/
def holds : List (Nat × Nat) → Nat → Bool
  | [], _ => false
  | (low, high) :: rest, n => if n < low then false else n ≤ high || holds rest n

def contains (s : CodePoints) (c : Char) : Bool :=
  holds s.ranges c.toNat

/-- Joins ranges that overlap or touch; the ranges come in increasing order of their lower ends. -/
def coalesce : List (Nat × Nat) → List (Nat × Nat)
  | [] => []
  | range :: rest => go range rest
where
  go (current : Nat × Nat) : List (Nat × Nat) → List (Nat × Nat)
    | [] => [current]
    | (low, high) :: rest =>
      if low ≤ current.2 + 1 then go (current.1, max current.2 high) rest
      else current :: go (low, high) rest

/-- The set covered by ranges given in any order. -/
def ofRanges (ranges : List (Nat × Nat)) : CodePoints :=
  ⟨coalesce (ranges.mergeSort fun a b => a.1 ≤ b.1)⟩

def singleton (n : Nat) : CodePoints := ⟨[(n, n)]⟩

def union (s t : CodePoints) : CodePoints :=
  ofRanges (s.ranges ++ t.ranges)

def unions (sets : List CodePoints) : CodePoints :=
  ofRanges (sets.flatMap ranges)

/-- The gaps that sorted ranges leave from `start` up to the greatest code point. -/
def gaps (start : Nat) : List (Nat × Nat) → List (Nat × Nat)
  | [] => if start ≤ greatest then [(start, greatest)] else []
  | (low, high) :: rest =>
    if start < low then (start, low - 1) :: gaps (high + 1) rest else gaps (high + 1) rest

def complement (s : CodePoints) : CodePoints :=
  ⟨gaps 0 s.ranges⟩

def inter (s t : CodePoints) : CodePoints :=
  (s.complement.union t.complement).complement

def diff (s t : CodePoints) : CodePoints :=
  (s.complement.union t).complement

def symmDiff (s t : CodePoints) : CodePoints :=
  (s.diff t).union (t.diff s)

def isSingleton (s : CodePoints) : Bool :=
  match s.ranges with
  | [(low, high)] => low = high
  | _ => false

def isAscii (s : CodePoints) : Bool :=
  s.ranges.all fun range => range.2 < 128

def hexDigitValue? (c : Char) : Option Nat :=
  if c.isDigit then some (c.toNat - 48)
  else if 'a' ≤ c && c ≤ 'f' then some (c.toNat - 87)
  else if 'A' ≤ c && c ≤ 'F' then some (c.toNat - 55)
  else none

/-- The value of a run of hexadecimal digits; other characters are passed over. -/
def hexValue (digits : List Char) : Nat :=
  digits.foldl (fun n c => match hexDigitValue? c with
    | some d => n * 16 + d
    | none => n) 0

/-- Reads the lines of a table: words `41-5a` for a range and `aa` for a single code point, one
blank apart. -/
def ofTable (lines : List String) : CodePoints :=
  ofRanges <| lines.flatMap fun line =>
    (Text.splitOn ' ' line.toList).filterMap fun word =>
      match Text.splitOn '-' word with
      | [low, high] => some (hexValue low, hexValue high)
      | [[]] => none
      | [single] => some (hexValue single, hexValue single)
      | _ => none

/-- The members of the entry that has `name` among its names. -/
def named? (entries : List (List String × List String)) (name : String) : Option CodePoints :=
  (entries.find? fun entry => entry.1.contains name).map fun entry => ofTable entry.2

end CodePoints

end LineSelect.Unicode
