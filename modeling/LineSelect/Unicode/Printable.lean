import LineSelect.Unicode.Category
import LineSelect.Unicode.Property

/-!
Characters that a quoted text shows as they are.
-/

namespace LineSelect.Unicode

/-- Controls, format characters, private use, unassigned code points, and all separators. -/
def unprintable : CodePoints :=
  .unions [Category.assignedOthers, Category.unassigned, Category.separators]

/-- Characters that attach to the one before them. -/
def graphemeExtend : CodePoints :=
  (property? "graphemeextend").getD .empty

/-- Whether a character stands for itself on a page; the plain blank does. -/
def isPrintable (c : Char) : Bool :=
  if c.toNat < 0x7F then 0x20 ≤ c.toNat
  else !unprintable.contains c

def isGraphemeExtend (c : Char) : Bool :=
  0x300 ≤ c.toNat && graphemeExtend.contains c

end LineSelect.Unicode
