/-!
Why a replacement is refused. Positions are byte offsets into the replacement.
-/

namespace LineSelect

/-- The faults of a replacement, each with the place where it shows. -/
inductive ReplacementError where
  | trailingBackslash (position : Nat)
  | missingOpen (position : Nat)
  | missingName (position : Nat)
  | missingClose (position : Nat)
  | unknownGroup (name : String) (position : Nat)
deriving DecidableEq, Repr

namespace ReplacementError

def message : ReplacementError → String
  | .trailingBackslash position => "bad escape (end of pattern) at position " ++ position.repr
  | .missingOpen position => "missing < at position " ++ position.repr
  | .missingName position => "missing group name at position " ++ position.repr
  | .missingClose position => "missing >, unterminated name at position " ++ position.repr
  | .unknownGroup name position =>
    "invalid group reference " ++ name ++ " at position " ++ position.repr

end ReplacementError

end LineSelect
