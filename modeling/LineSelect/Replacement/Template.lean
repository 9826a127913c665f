import LineSelect.Replacement.Token
import LineSelect.Text.Decimal

/-!
Templates: replacements in the form in which they are filled in for a match. `$$` is a dollar
sign, and `${name}` or `$name` is the text of a group.
-/

namespace LineSelect.Replacement

open LineSelect.Text

/-- Group numbers stay below this bound, two to the power of 64. -/
def groupNumberLimit : Nat := 0x10000000000000000

/-- The number that a reference spells, with or without a plus sign in front. -/
def groupNumber? (reference : List Char) : Option Nat :=
  let digits := match reference with
    | '+' :: digits => digits
    | digits => digits
  if digits ≠ [] ∧ digits.all Char.isDigit then boundedValue? groupNumberLimit digits else none

/-- The group that a reference means: the one with that number, or else the one with that name. -/
def groupIndex? (names : List (Option String)) (reference : List Char) : Option Nat :=
  match groupNumber? reference with
  | some index => some index
  | none => names.idxOf? (some (String.ofList reference))

/-- Whether a reference means a group that the pattern has. -/
def isKnownGroup (names : List (Option String)) (reference : List Char) : Bool :=
  match groupNumber? reference with
  | some index => index < names.length
  | none => names.contains (some (String.ofList reference))

/-- Whether `c` may stand in a group name that has no braces around it. -/
def isBareNameChar (c : Char) : Bool :=
  c.isAlphanum || c == '_'

/-- Fills in a template, where `value` gives the text of a referenced group. A dollar sign that
opens no reference stands for itself. -/
def fillIn (value : List Char → List Char) (template : List Char) : List Char :=
  match template with
  | [] => []
  | '$' :: '$' :: rest => '$' :: fillIn value rest
  | '$' :: '\x7b' :: rest =>
    match h : rest.dropWhile (· ≠ '\x7d') with
    | [] => '$' :: fillIn value ('\x7b' :: rest)
    | _ :: after =>
      have := length_dropWhile_lt h
      value (rest.takeWhile (· ≠ '\x7d')) ++ fillIn value after
  | '$' :: rest =>
    if rest.takeWhile isBareNameChar = [] then '$' :: fillIn value rest
    else
      have := (List.dropWhile_suffix isBareNameChar (l := rest)).length_le
      value (rest.takeWhile isBareNameChar) ++ fillIn value (rest.dropWhile isBareNameChar)
  | c :: rest => c :: fillIn value rest
termination_by template.length

/-- A reference as a template writes it. -/
def bracedReference (reference : List Char) : List Char :=
  ['$', '\x7b'] ++ reference ++ ['\x7d']

/-- A reference of a replacement that starts at byte `position`, as a template writes it. -/
def expandReference (names : List (Option String)) (position : Nat) (reference : List Char) :
    Except ReplacementError (List Char) :=
  if isKnownGroup names reference then .ok (bracedReference reference)
  else .error (.unknownGroup (String.ofList reference) (position + 1))

/-- The part of a template that a unit at byte `position` turns into. An escape that is not known
stays as it is written. -/
def Token.expand (names : List (Option String)) (position : Nat) :
    Token → Except ReplacementError (List Char)
  | .plain '$' => .ok ['$', '$']
  | .plain c => .ok [c]
  | .escape '\\' => .ok ['\\']
  | .escape 'n' => .ok ['\n']
  | .escape 't' => .ok ['\t']
  | .escape c => .ok ['\\', c]
  | .number digits => expandReference names position digits
  | .named [] => .error (.missingName (position + 3))
  | .named name => expandReference names position name
  | .loneBackslash => .error (.trailingBackslash position)
  | .unopenedName => .error (.missingOpen (position + 2))
  | .unclosedName _ => .error (.missingClose (position + 3))

/-- The template for units that start at byte `position`, or the fault of the first bad unit. -/
def expandTokens (names : List (Option String)) :
    Nat → List Token → Except ReplacementError (List Char)
  | _, [] => .ok []
  | position, token :: rest =>
    match token.expand names position with
    | .error e => .error e
    | .ok part =>
      match expandTokens names (position + byteLength token.spelling) rest with
      | .error e => .error e
      | .ok parts => .ok (part ++ parts)

end LineSelect.Replacement

namespace LineSelect

/-- The template for a replacement, given the groups of the pattern. -/
def Replacement.expand (names : List (Option String)) (replacement : String) :
    Except ReplacementError String :=
  match expandTokens names 0 (tokens replacement.toList) with
  | .error e => .error e
  | .ok template => .ok (String.ofList template)

end LineSelect
