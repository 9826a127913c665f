/-!
Decimal numbers: the digit run at the front of a text and its value.
-/

namespace LineSelect.Text

/-- The longest run of the digits `0` to `9` at the front of `s`. -/
def leadingDigits (s : List Char) : List Char :=
  s.takeWhile Char.isDigit

/-- What follows the longest run of digits at the front of `s`. -/
def afterDigits (s : List Char) : List Char :=
  s.dropWhile Char.isDigit

theorem leadingDigits_append_afterDigits (s : List Char) :
    leadingDigits s ++ afterDigits s = s :=
  List.takeWhile_append_dropWhile

/-- The number that a run of digits spells, leading zeros allowed. -/
def digitsValue (digits : List Char) : Nat :=
  Nat.ofDigitChars 10 digits 0

theorem digitsValue_repr (n : Nat) : digitsValue n.repr.toList = n := by
  rw [digitsValue, Nat.toList_repr]
  exact Nat.ofDigitChars_toDigits (by decide) (by decide)

/-- The number that a run of digits spells, if it is below `limit`. -/
def boundedValue? (limit : Nat) (digits : List Char) : Option Nat :=
  if digitsValue digits < limit then some (digitsValue digits) else none

/-- A signed number whose sign is always written, and nothing for zero. -/
def signedText (n : Int) : String :=
  if n = 0 then "" else if n < 0 then "-" ++ n.natAbs.repr else "+" ++ n.natAbs.repr

end LineSelect.Text
