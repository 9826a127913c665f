/-!
JSON values and the form in which reports show them.
-/

namespace LineSelect

/-- A JSON value. Fields are kept in the order given. -/
inductive Json where
  | null
  | bool (value : Bool)
  | int (value : Int)
  /-- A number with a fraction or an exponent, or a negative zero, as it is written. -/
  | decimal (literal : String)
  | str (value : String)
  | arr (items : List Json)
  | obj (fields : List (String × Json))
deriving Repr, Inhabited

namespace Json

/-- The value of the last field with a name. -/
def field? (name : String) : Json → Option Json
  | .obj fields => (fields.reverse.find? fun field => field.1 == name).map Prod.snd
  | _ => none

def hexDigits (n : Nat) : List Char :=
  let digits := Nat.toDigits 16 n
  List.replicate (4 - digits.length) '0' ++ digits

def escapedChar (c : Char) : List Char :=
  match c with
  | '"' => ['\\', '"']
  | '\\' => ['\\', '\\']
  | '\n' => ['\\', 'n']
  | '\r' => ['\\', 'r']
  | '\t' => ['\\', 't']
  | '\x08' => ['\\', 'b']
  | '\x0C' => ['\\', 'f']
  | c => if c.toNat < 0x20 then ['\\', 'u'] ++ hexDigits c.toNat else [c]

/-- A string in quotes, with escapes for quotes, backslashes and controls. -/
def quote (s : String) : String :=
  String.ofList ('"' :: s.toList.flatMap escapedChar ++ ['"'])

/-- Two blanks for each level. -/
def indent (level : Nat) : String :=
  String.ofList (List.replicate (2 * level) ' ')

mutual

/-- A value over several lines, two blanks deeper at each level. Empty lists and empty objects stay
on one line. -/
def pretty (level : Nat) : Json → String
  | .null => "null"
  | .bool true => "true"
  | .bool false => "false"
  | .int value => value.repr
  | .decimal literal => literal
  | .str value => quote value
  | .arr [] => "[]"
  | .arr (item :: items) =>
    "[\n" ++ indent (level + 1) ++ pretty (level + 1) item ++ prettyItems (level + 1) items ++
      "\n" ++ indent level ++ "]"
  | .obj [] => "\x7b\x7d"
  | .obj ((name, value) :: fields) =>
    "\x7b\n" ++ indent (level + 1) ++ quote name ++ ": " ++ pretty (level + 1) value ++
      prettyFields (level + 1) fields ++ "\n" ++ indent level ++ "\x7d"

/-- Further items of a list, a comma before each. -/
def prettyItems (level : Nat) : List Json → String
  | [] => ""
  | item :: items => ",\n" ++ indent level ++ pretty level item ++ prettyItems level items

/-- Further fields of an object, a comma before each. -/
def prettyFields (level : Nat) : List (String × Json) → String
  | [] => ""
  | (name, value) :: fields =>
    ",\n" ++ indent level ++ quote name ++ ": " ++ pretty level value ++ prettyFields level fields

end

mutual

def compact : Json → String
  | .null => "null"
  | .bool true => "true"
  | .bool false => "false"
  | .int value => value.repr
  | .decimal literal => literal
  | .str value => quote value
  | .arr [] => "[]"
  | .arr (item :: items) => "[" ++ compact item ++ compactItems items ++ "]"
  | .obj [] => "\x7b\x7d"
  | .obj ((name, value) :: fields) =>
    "\x7b" ++ quote name ++ ":" ++ compact value ++ compactFields fields ++ "\x7d"

def compactItems : List Json → String
  | [] => ""
  | item :: items => "," ++ compact item ++ compactItems items

def compactFields : List (String × Json) → String
  | [] => ""
  | (name, value) :: fields =>
    "," ++ quote name ++ ":" ++ compact value ++ compactFields fields

end

end Json

end LineSelect
