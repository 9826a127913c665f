/-!
Why a pattern is refused.
-/

namespace LineSelect

/-- A pattern is refused for its form, or because the machine for it would take too much room. -/
inductive PatternError where
  | malformed
  | tooLarge
deriving DecidableEq, Repr

namespace PatternError

/-- The room in bytes that the machine of one pattern may take. -/
def roomLimit : Nat := 10485760

/-- The headline of the report; what follows it points into the pattern and is not fixed here. -/
def message : PatternError → String
  | .malformed => "regex parse error:"
  | .tooLarge => "Compiled regex exceeds size limit of " ++ roomLimit.repr ++ " bytes."

end PatternError

end LineSelect
