/-!
The flags that a pattern may set for a stretch of itself.
-/

namespace LineSelect.Pattern

/-- How the text of a pattern is understood. -/
structure Flags where
  /-- `i`: case is ignored. -/
  ignoreCase : Bool := false
  /-- `m`: `^` and `$` match at every line. -/
  multiLine : Bool := false
  /-- `s`: `.` matches a line feed. -/
  dotAll : Bool := false
  /-- `U`: a repetition is lazy unless marked. -/
  swapGreed : Bool := false
  /-- `R`: a carriage return ends a line, too. -/
  anyLineEnd : Bool := false
  /-- `u`: classes hold more than ASCII. -/
  unicode : Bool := true
  /-- `x`: blanks and comments in the pattern are passed over. -/
  verbose : Bool := false
deriving DecidableEq, Repr

namespace Flags

def set? (flags : Flags) (value : Bool) : Char → Option Flags
  | 'i' => some { flags with ignoreCase := value }
  | 'm' => some { flags with multiLine := value }
  | 's' => some { flags with dotAll := value }
  | 'U' => some { flags with swapGreed := value }
  | 'R' => some { flags with anyLineEnd := value }
  | 'u' => some { flags with unicode := value }
  | 'x' => some { flags with verbose := value }
  | _ => none

/-- Sets flags letter by letter; after a hyphen they are cleared. -/
def change? (flags : Flags) (value : Bool) : List Char → Option Flags
  | [] => some flags
  | '-' :: rest => change? flags false rest
  | c :: rest =>
    match flags.set? value c with
    | some flags => change? flags value rest
    | none => none

/-- Applies the letters of a flag group. No letter and no hyphen comes twice, and a hyphen is
followed by a letter. -/
def withLetters? (flags : Flags) (letters : List Char) : Option Flags :=
  if letters.Nodup ∧ letters.getLast? ≠ some '-' then flags.change? true letters else none

end Flags

end LineSelect.Pattern
