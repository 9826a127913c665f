import LineSelect.Json
import LineSelect.Range

/-!
Ranges as JSON values, as reports show them, and back. A record may also be given as the list of
its fields in order, and a case without content as the name alone or as a field that holds null.
-/

namespace LineSelect

/-- A value read from JSON, if it has the right shape. -/
abbrev Decoder (α : Type) := Json → Option α

namespace Json

/-- The number of a value, if it is a whole number from `low` to below `high`. -/
def intBetween? (low high : Int) : Decoder Int
  | .int n => if low ≤ n ∧ n < high then some n else none
  | _ => none

def string? : Decoder String
  | .str s => some s
  | _ => none

/-- The name of a case and its content: a bare name has none, and an object has one field. -/
def case? : Json → Option (String × Option Json)
  | .str name => some (name, none)
  | .obj [(name, content)] => some (name, some content)
  | _ => none

/-- Whether a case has no content: none is given, or null is. -/
def isBare : Option Json → Bool
  | none | some .null => true
  | _ => false

end Json

namespace Position

def toJson : Position → Json
  | .line number => .obj [("LineNumber", .int number)]
  | .pattern source => .obj [("Pattern", .str source)]
  | .last => .str "LastLine"
  | .current => .str "Current"

def ofJson? : Decoder Position := fun json => do
  match ← json.case? with
  | ("LineNumber", some content) =>
    let number ← content.intBetween? 0 Address.lineNumberLimit
    some (.line number.toNat)
  | ("Pattern", some content) => some (.pattern (← content.string?))
  | ("LastLine", content) => if Json.isBare content then some .last else none
  | ("Current", content) => if Json.isBare content then some .current else none
  | _ => none

end Position

namespace Address

def toJson (a : Address) : Json :=
  .obj [("offset", .int a.offset), ("position", a.position.toJson)]

def ofJson? : Decoder Address := fun json => do
  let (position, offset) ← match json with
    | .arr [position, offset] => some (position, offset)
    | .obj _ => do some (← json.field? "position", ← json.field? "offset")
    | _ => none
  some ⟨← Position.ofJson? position, ← offset.intBetween? (-offsetLimit) offsetLimit⟩

end Address

namespace Separator

def name : Separator → String
  | .comma => "Comma"
  | .semicolon => "Semicolon"

def ofJson? : Decoder Separator := fun json => do
  match ← json.case? with
  | ("Comma", content) => if Json.isBare content then some .comma else none
  | ("Semicolon", content) => if Json.isBare content then some .semicolon else none
  | _ => none

end Separator

namespace Range

def toJson (r : Range) : Json :=
  let stop := match r.stop with
    | none => .null
    | some (separator, stop) => .arr [.str separator.name, stop.toJson]
  .obj [("end", stop), ("start", r.start.toJson)]

/-- The end of a range; null stands for no end. -/
def stopOfJson? : Decoder (Option (Separator × Address))
  | .null => some none
  | .arr [separator, stop] => do
    some (some (← Separator.ofJson? separator, ← Address.ofJson? stop))
  | _ => none

/-- A missing end is no end. -/
def ofJson? : Decoder Range := fun json => do
  let (start, stop) ← match json with
    | .arr [start, stop] => some (start, stop)
    | .obj _ => do some (← json.field? "start", (json.field? "end").getD .null)
    | _ => none
  some ⟨← Address.ofJson? start, ← stopOfJson? stop⟩

end Range

end LineSelect
