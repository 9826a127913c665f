import LineSelect.Text.Decimal

/-!
Addresses: a base position and a signed offset from it.
-/

namespace LineSelect

open LineSelect.Text

/-- What an address counts from. -/
inductive Position where
  | line (number : Nat)
  /-- The next line that matches. -/
  | pattern (source : String)
  | last
  /-- The line where the previous range ended. -/
  | current
deriving DecidableEq, Repr, Inhabited

namespace Position

def text : Position → String
  | .line number => number.repr
  | .pattern source => "/" ++ source ++ "/"
  | .last => "$"
  | .current => "."

end Position

/-- A line, named by a position and a count of lines after (or before) it. -/
structure Address where
  position : Position := .current
  offset : Int := 0
deriving DecidableEq, Repr, Inhabited

namespace Address

/-- Line numbers stay below this bound, two to the power of 64. -/
def lineNumberLimit : Nat := 0x10000000000000000

/-- The size of an offset stays below this bound, two to the power of 63. -/
def offsetLimit : Nat := 0x8000000000000000

/-- An address that counts from the current line has no meaning of its own. -/
def isRelative (a : Address) : Bool :=
  a.position == .current

/-- The canonical form: the position, then the offset with its sign unless it is zero. -/
def text (a : Address) : String :=
  a.position.text ++ signedText a.offset

end Address

end LineSelect
