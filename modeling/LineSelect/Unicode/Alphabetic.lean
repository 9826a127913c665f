import LineSelect.Unicode.Category
import LineSelect.Unicode.Property

/-!
Characters that names are made of.
-/

namespace LineSelect.Unicode

/-- Letters, and marks and numbers that act as letters. -/
def alphabetic : CodePoints :=
  (property? "alphabetic").getD .empty

/-- Whether `c` is alphabetic. No table is needed for ASCII. -/
def isAlphabetic (c : Char) : Bool :=
  if c.toNat < 128 then c.isAlpha else alphabetic.contains c

def isAlphanumeric (c : Char) : Bool :=
  isAlphabetic c || if c.toNat < 128 then c.isDigit else Category.numbers.contains c

end LineSelect.Unicode
