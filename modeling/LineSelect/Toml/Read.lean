import LineSelect.Toml.Quote
import LineSelect.Toml.Scalar

/-!
Reading TOML documents: keys, values, and statements line by line.
-/

namespace LineSelect.Toml

/-- Arrays, inline tables and keys may be nested less deep than this. -/
def depthLimit : Nat := 80

/-- Whether `c` may stand in a key without quotes. -/
def isBareKeyChar (c : Char) : Bool :=
  c.isAlphanum || c == '_' || c == '-'

/-- One part of a key at the front of `s`. -/
def readKeyPart? (s : List Char) : Option (String × List Char) :=
  match s with
  | '"' :: _ | '\'' :: _ => readString? true s
  | _ =>
    let name := s.takeWhile isBareKeyChar
    if name = [] then none else some (String.ofList name, s.dropWhile isBareKeyChar)

/-- A key with dots between its parts at the front of `s`, blanks around the parts included. -/
def readKeyParts? : Nat → List Char → Option (List String × List Char)
  | 0, _ => none
  | fuel + 1, s => do
    let (part, rest) ← readKeyPart? (dropTabsAndSpaces s)
    match dropTabsAndSpaces rest with
    | '.' :: rest => do
      let (parts, rest) ← readKeyParts? fuel rest
      return (part :: parts, rest)
    | rest => return ([part], rest)

def readKey? (s : List Char) : Option (KeyPath × List Char) := do
  let (parts, rest) ← readKeyParts? (s.length + 1) s
  if depthLimit ≤ parts.length then none
  else return (⟨parts.dropLast, ← parts.getLast?⟩, rest)

/-- The text after a comment at the front of `s`, up to the end of its line. A comment holds no
controls. -/
def afterComment? (s : List Char) : Option (List Char) :=
  match s with
  | '#' :: rest => some (rest.dropWhile isLineChar)
  | s => some s

/-- The text after blanks, comments and line breaks. -/
def dropFiller : Nat → List Char → List Char
  | 0, s => s
  | fuel + 1, s =>
    match dropTabsAndSpaces s with
    | '#' :: rest =>
      match afterLineBreak? (rest.dropWhile isLineChar) with
      | some rest => dropFiller fuel rest
      | none => rest.dropWhile isLineChar
    | rest =>
      match afterLineBreak? rest with
      | some rest => dropFiller fuel rest
      | none => rest

mutual

def readValue? (depth : Nat) : Nat → List Char → Option (Toml × List Char)
  | 0, _ => none
  | fuel + 1, s =>
    match s with
    | '"' :: _ | '\'' :: _ => (readString? false s).map fun (value, rest) => (.string value, rest)
    | '[' :: rest =>
      if depthLimit ≤ depth + 1 then none
      else (readItems? (depth + 1) fuel rest).map fun (items, rest) => (.array items, rest)
    | '\x7b' :: rest =>
      if depthLimit ≤ depth + 1 then none
      else match dropTabsAndSpaces rest with
        | '\x7d' :: rest => some (.table .inline [], rest)
        | rest => do
          let (pairs, rest) ← readPairs? (depth + 1) fuel rest
          return (← inlineTable? pairs, rest)
    | s => do
      let (literal, rest) := splitScalar s
      return (← scalar? literal, rest)

/-- The items of an array up to its closing bracket. A comma may follow the last one. -/
def readItems? (depth : Nat) : Nat → List Char → Option (List Toml × List Char)
  | 0, _ => none
  | fuel + 1, s =>
    match dropFiller (s.length + 1) s with
    | ']' :: rest => some ([], rest)
    | s => do
      let (item, rest) ← readValue? depth fuel s
      match dropFiller (rest.length + 1) rest with
      | ',' :: rest =>
        let (items, rest) ← readItems? depth fuel rest
        return (item :: items, rest)
      | ']' :: rest => return ([item], rest)
      | _ => none

/-- The keys and values of an inline table up to its closing brace. -/
def readPairs? (depth : Nat) : Nat → List Char → Option (List (KeyPath × Toml) × List Char)
  | 0, _ => none
  | fuel + 1, s => do
    let (key, rest) ← readKey? s
    let '=' :: rest := rest | none
    let (value, rest) ← readValue? depth fuel (dropTabsAndSpaces rest)
    match dropTabsAndSpaces rest with
    | ',' :: rest =>
      let (pairs, rest) ← readPairs? depth fuel rest
      return ((key, value) :: pairs, rest)
    | '\x7d' :: rest => return ([(key, value)], rest)
    | _ => none

end

/-- The next line after a statement: blanks and a comment may follow it, and then its line ends. -/
def afterLine? (s : List Char) : Option (List Char) := do
  match ← afterComment? (dropTabsAndSpaces s) with
  | [] => return []
  | rest => afterLineBreak? rest

/-- The statement at the front of `s`, and the text after it on its line. -/
def readStatement? (s : List Char) : Option (Statement × List Char) :=
  match s with
  | '[' :: '[' :: rest => do
    let (key, rest) ← readKey? rest
    let ']' :: ']' :: rest := rest | none
    return (.sharedHeader key, rest)
  | '[' :: rest => do
    let (key, rest) ← readKey? rest
    let ']' :: rest := rest | none
    return (.header key, rest)
  | s => do
    let (key, rest) ← readKey? s
    let '=' :: rest := rest | none
    let rest := dropTabsAndSpaces rest
    let (value, rest) ← readValue? 0 (2 * rest.length + 2) rest
    return (.entry key value, rest)

def readStatements? : Nat → List Char → Option (List Statement)
  | 0, _ => none
  | fuel + 1, s =>
    match dropTabsAndSpaces s with
    | [] => some []
    | '#' :: rest => do readStatements? fuel (← afterLine? ('#' :: rest))
    | s =>
      match afterLineBreak? s with
      | some rest => readStatements? fuel rest
      | none => do
        let (statement, rest) ← readStatement? s
        let statements ← readStatements? fuel (← afterLine? rest)
        return statement :: statements

/-- The entries of the document that a text spells. A mark of the byte order in front is not part
of it. -/
def parse? (text : String) : Option Entries := do
  let chars := match text.toList with
    | '\uFEFF' :: rest => rest
    | chars => chars
  build? [] [] (← readStatements? (chars.length + 1) chars)

end LineSelect.Toml
