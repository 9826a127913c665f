import LineSelect.Address

/-!
Ranges: one address, or two joined by a separator that says where the second counts from.
-/

namespace LineSelect

inductive Separator where
  /-- `,`: the end counts from the first line. -/
  | comma
  /-- `;`: the end counts from the start of the range. -/
  | semicolon
deriving DecidableEq, Repr, Inhabited

namespace Separator

def char : Separator → Char
  | .comma => ','
  | .semicolon => ';'

def ofChar? : Char → Option Separator
  | ',' => some .comma
  | ';' => some .semicolon
  | _ => none

theorem ofChar?_char (s : Separator) : ofChar? s.char = some s := by
  cases s <;> rfl

end Separator

/-- A start and, for a range of more than one address, a separator and an end. -/
structure Range where
  start : Address
  stop : Option (Separator × Address) := none
deriving DecidableEq, Repr, Inhabited

namespace Range

def addresses (range : Range) : List Address :=
  range.start :: range.stop.toList.map Prod.snd

@[simp] theorem forall_addresses_single {P : Address → Prop} {start : Address} :
    (∀ a ∈ addresses ⟨start, none⟩, P a) ↔ P start := by
  simp [addresses]

@[simp] theorem forall_addresses_span {P : Address → Prop} {start stop : Address}
    {separator : Separator} :
    (∀ a ∈ addresses ⟨start, some (separator, stop)⟩, P a) ↔ P start ∧ P stop := by
  simp [addresses]

/-- Whether the end, if there is one, counts from the beginning of the text. -/
def countsFromBeginning (r : Range) : Bool :=
  match r.stop with
  | some (.semicolon, _) => false
  | _ => true

/-- The canonical form: the addresses in canonical form around the separator. -/
def text (r : Range) : String :=
  match r.stop with
  | none => r.start.text
  | some (separator, stop) => r.start.text ++ String.singleton separator.char ++ stop.text

end Range

end LineSelect
