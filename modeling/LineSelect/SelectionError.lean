import LineSelect.Pattern.Error
import LineSelect.Replacement.Error
import LineSelect.Text.Quoted

/-!
What can go wrong between an expression and the lines it selects.
-/

namespace LineSelect

open LineSelect.Text

inductive SelectionError where
  /-- An offset that is too large, or that mixes both signs; the text is the address as given. -/
  | invalidDelta (text : String)
  /-- A line number that is too large. -/
  | invalidLineNumber (digits : String)
  /-- No separator where one is due, or an end that counts from nothing. -/
  | invalidRange (text : String)
  /-- Text left over after the end of a range. -/
  | invalidRangeTail (tail : String)
  | patternNotFound (source : String)
  | startAfterEnd (start stop : Int)
  | outOfBounds (line : Int) (total : Nat)
  | badPattern (cause : PatternError)
  | badReplacement (cause : ReplacementError)
deriving DecidableEq, Repr

namespace SelectionError

def message : SelectionError → String
  | .invalidDelta text => "Invalid address delta: " ++ quoted text
  | .invalidLineNumber digits => "Invalid line number: " ++ quoted digits
  | .invalidRange text => "Invalid range: " ++ quoted text
  | .invalidRangeTail tail => "Invalid range tail: " ++ quoted tail
  | .patternNotFound source => "Pattern not found: /" ++ source ++ "/"
  | .startAfterEnd start stop =>
    "Invalid range: start " ++ start.repr ++ " > end " ++ stop.repr
  | .outOfBounds line total =>
    "Line " ++ line.repr ++ " is out of range 1-" ++ total.repr
  | .badPattern cause => cause.message
  | .badReplacement cause => cause.message

end SelectionError

end LineSelect
