import LineSelect.Address.Read
import LineSelect.Range

/-!
Reading a whole range expression.
-/

namespace LineSelect.Range

/-- The range that all of `s` spells. -/
def read (s : List Char) : Except SelectionError Range :=
  match Address.read s with
  | .error e => .error e
  | .ok (start, []) => .ok ⟨start, none⟩
  | .ok (start, c :: rest) =>
    match Separator.ofChar? c with
    | none => .error (.invalidRange (String.ofList s))
    | some separator =>
      match Address.read rest with
      | .error e => .error e
      | .ok (stop, []) => .ok ⟨start, some (separator, stop)⟩
      | .ok (_, tail) => .error (.invalidRangeTail (String.ofList tail))

/-- The range that all of `expr` spells. -/
def parse (expr : String) : Except SelectionError Range :=
  read expr.toList

end LineSelect.Range
