import LineSelect.Json
import LineSelect.Text.Decimal
import LineSelect.Unicode.CodePoints

/-!
Reading JSON texts.
-/

namespace LineSelect.Json

open LineSelect.Text
open LineSelect.Unicode

def isSpace (c : Char) : Bool :=
  c == ' ' || c == '\n' || c == '\r' || c == '\t'

def dropSpace (s : List Char) : List Char :=
  s.dropWhile isSpace

/-- The value of four hexadecimal digits at the front of `s`, and the text after them. -/
def readHex? : List Char → Option (Nat × List Char)
  | a :: b :: c :: d :: rest => do
    let digits := [a, b, c, d]
    if digits.all (CodePoints.hexDigitValue? · |>.isSome) then
      some (CodePoints.hexValue digits, rest)
    else none
  | _ => none

def charOfNat? (n : Nat) : Option Char :=
  if h : n.isValidChar then some (Char.ofNatAux n h) else none

/-- The character of an escape after `\u`: one unit, or a pair of surrogates. -/
def readUnit? (s : List Char) : Option (Char × List Char) := do
  let (high, rest) ← readHex? s
  if 0xD800 ≤ high && high < 0xDC00 then
    match rest with
    | '\\' :: 'u' :: rest => do
      let (low, rest) ← readHex? rest
      if 0xDC00 ≤ low && low < 0xE000 then
        return (← charOfNat? (0x10000 + (high - 0xD800) * 0x400 + (low - 0xDC00)), rest)
      else none
    | _ => none
  else return (← charOfNat? high, rest)

/-- One character of a string at the front of `s`, and the text after it. -/
def readChar? : List Char → Option (Char × List Char)
  | '\\' :: c :: rest =>
    match c with
    | '"' => some ('"', rest)
    | '\\' => some ('\\', rest)
    | '/' => some ('/', rest)
    | 'b' => some ('\x08', rest)
    | 'f' => some ('\x0C', rest)
    | 'n' => some ('\n', rest)
    | 'r' => some ('\r', rest)
    | 't' => some ('\t', rest)
    | 'u' => readUnit? rest
    | _ => none
  | c :: rest => if c.toNat < 0x20 then none else some (c, rest)
  | [] => none

/-- The rest of a string after its opening quote, given the characters before, last one first. -/
def readString? : Nat → List Char → List Char → Option (String × List Char)
  | 0, _, _ => none
  | _ + 1, acc, '"' :: rest => some (String.ofList acc.reverse, rest)
  | fuel + 1, acc, s => do
    let (c, rest) ← readChar? s
    readString? fuel (c :: acc) rest

def isNumberChar (c : Char) : Bool :=
  c.isDigit || c == '+' || c == '-' || c == '.' || c == 'e' || c == 'E'

/-- Whether a run of digits is a whole number as JSON writes it. -/
def isWhole (digits : List Char) : Bool :=
  !digits.isEmpty && digits.all Char.isDigit && (digits.length == 1 || digits.head? != some '0')

/-- A number by its literal. -/
def ofLiteral (literal : List Char) : Option Json :=
  match literal with
  | ['-', '0'] => some (.decimal "-0")
  | '-' :: digits =>
    if isWhole digits then some (.int (-(digitsValue digits : Int)))
    else some (.decimal (String.ofList literal))
  | [] => none
  | digits =>
    if isWhole digits then some (.int (digitsValue digits))
    else some (.decimal (String.ofList literal))

/-- The text after a word that has to stand at the front of `s`. -/
def afterWord? (word : List Char) (s : List Char) : Option (List Char) :=
  if word.isPrefixOf s then some (s.drop word.length) else none

mutual

def readValue? : Nat → List Char → Option (Json × List Char)
  | 0, _ => none
  | fuel + 1, s =>
    match dropSpace s with
    | 'n' :: rest => (afterWord? ['u', 'l', 'l'] rest).map fun rest => (.null, rest)
    | 't' :: rest => (afterWord? ['r', 'u', 'e'] rest).map fun rest => (.bool true, rest)
    | 'f' :: rest => (afterWord? ['a', 'l', 's', 'e'] rest).map fun rest => (.bool false, rest)
    | '"' :: rest => (readString? (rest.length + 1) [] rest).map fun (s, rest) => (.str s, rest)
    | '[' :: rest =>
      match dropSpace rest with
      | ']' :: rest => some (.arr [], rest)
      | rest => (readItems? fuel rest).map fun (items, rest) => (.arr items, rest)
    | '\x7b' :: rest =>
      match dropSpace rest with
      | '\x7d' :: rest => some (.obj [], rest)
      | rest => (readFields? fuel rest).map fun (fields, rest) => (.obj fields, rest)
    | rest => (ofLiteral (rest.takeWhile isNumberChar)).map fun number =>
      (number, rest.dropWhile isNumberChar)

/-- The items of a list up to its closing bracket. -/
def readItems? : Nat → List Char → Option (List Json × List Char)
  | 0, _ => none
  | fuel + 1, s => do
    let (item, rest) ← readValue? fuel s
    match dropSpace rest with
    | ',' :: rest => (readItems? fuel rest).map fun (items, rest) => (item :: items, rest)
    | ']' :: rest => some ([item], rest)
    | _ => none

/-- The fields of an object up to its closing brace. -/
def readFields? : Nat → List Char → Option (List (String × Json) × List Char)
  | 0, _ => none
  | fuel + 1, s => do
    let '"' :: rest := dropSpace s | none
    let (name, rest) ← readString? (rest.length + 1) [] rest
    let ':' :: rest := dropSpace rest | none
    let (value, rest) ← readValue? fuel rest
    match dropSpace rest with
    | ',' :: rest =>
      (readFields? fuel rest).map fun (fields, rest) => ((name, value) :: fields, rest)
    | '\x7d' :: rest => some ([(name, value)], rest)
    | _ => none

end

def parse? (text : String) : Option Json := do
  let chars := text.toList
  let (value, rest) ← readValue? (2 * chars.length + 2) chars
  if dropSpace rest = [] then some value else none

end LineSelect.Json
