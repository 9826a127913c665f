import LineSelect.Json.Read
import LineSelect.Toml

/-!
Strings of TOML: with escapes or without, on one line or on several.
-/

namespace LineSelect.Toml

open LineSelect.Unicode

/-- Characters that may stand as they are on a line: no controls but the tab. -/
def isLineChar (c : Char) : Bool :=
  c == '\t' || (0x20 ≤ c.toNat && c.toNat != 0x7F)

def isTabOrSpace (c : Char) : Bool :=
  c == ' ' || c == '\t'

def dropTabsAndSpaces (s : List Char) : List Char :=
  s.dropWhile isTabOrSpace

/-- What follows a line break at the front of `s`. -/
def afterLineBreak? : List Char → Option (List Char)
  | '\n' :: rest => some rest
  | '\r' :: '\n' :: rest => some rest
  | _ => none

/-- The character of `count` hexadecimal digits at the front of `s`, and what follows them. -/
def readCodePoint? (count : Nat) (s : List Char) : Option (Char × List Char) :=
  let digits := s.take count
  if digits.length = count && digits.all (CodePoints.hexDigitValue? · |>.isSome) then
    (Json.charOfNat? (CodePoints.hexValue digits)).map (·, s.drop count)
  else none

/-- The character of an escape after its backslash, and what follows it. -/
def readEscape? : List Char → Option (Char × List Char)
  | 'b' :: rest => some ('\x08', rest)
  | 't' :: rest => some ('\t', rest)
  | 'n' :: rest => some ('\n', rest)
  | 'f' :: rest => some ('\x0C', rest)
  | 'r' :: rest => some ('\r', rest)
  | '"' :: rest => some ('"', rest)
  | '\\' :: rest => some ('\\', rest)
  | 'u' :: rest => readCodePoint? 4 rest
  | 'U' :: rest => readCodePoint? 8 rest
  | _ => none

/-- The rest of a string with escapes on one line, given the characters before, last one first. -/
def readBasic? : Nat → List Char → List Char → Option (String × List Char)
  | 0, _, _ => none
  | _ + 1, acc, '"' :: rest => some (String.ofList acc.reverse, rest)
  | fuel + 1, acc, '\\' :: rest => do
    let (c, rest) ← readEscape? rest
    readBasic? fuel (c :: acc) rest
  | fuel + 1, acc, c :: rest => if isLineChar c then readBasic? fuel (c :: acc) rest else none
  | _ + 1, _, [] => none

/-- The text after blanks and line breaks. -/
def dropLineBreaks : List Char → List Char
  | ' ' :: rest | '\t' :: rest | '\n' :: rest | '\r' :: '\n' :: rest => dropLineBreaks rest
  | s => s

/-- The run of `quote` at the front of `s`, where a string on several lines may end: three of them
end it, up to two more belong to its content, and fewer than three are content. -/
def readQuotes (quote : Char) (s : List Char) : Option Nat × List Char × List Char :=
  let run := s.takeWhile (· == quote)
  let count := min run.length 5
  if 3 ≤ count then (some (count - 3), List.replicate (count - 3) quote, s.drop count)
  else (none, run, s.drop run.length)

/-- The rest of a string with escapes on several lines. A backslash at the end of a line takes all
blanks and line breaks with it. -/
def readBasicLines? : Nat → List Char → List Char → Option (String × List Char)
  | 0, _, _ => none
  | _ + 1, _, [] => none
  | fuel + 1, acc, c :: rest =>
    if c == '"' then
      match readQuotes '"' (c :: rest) with
      | (some _, content, rest) => some (String.ofList (acc.reverse ++ content), rest)
      | (none, content, rest) => readBasicLines? fuel (content ++ acc) rest
    else if c == '\\' then
      match afterLineBreak? (dropTabsAndSpaces rest) with
      | some rest => readBasicLines? fuel acc (dropLineBreaks rest)
      | none => do
        let (c, rest) ← readEscape? rest
        readBasicLines? fuel (c :: acc) rest
    else match afterLineBreak? (c :: rest) with
      | some rest => readBasicLines? fuel ('\n' :: acc) rest
      | none => if isLineChar c then readBasicLines? fuel (c :: acc) rest else none

/-- The rest of a string without escapes on several lines. -/
def readLiteralLines? : Nat → List Char → List Char → Option (String × List Char)
  | 0, _, _ => none
  | _ + 1, _, [] => none
  | fuel + 1, acc, c :: rest =>
    if c == '\'' then
      match readQuotes '\'' (c :: rest) with
      | (some _, content, rest) => some (String.ofList (acc.reverse ++ content), rest)
      | (none, content, rest) => readLiteralLines? fuel (content ++ acc) rest
    else match afterLineBreak? (c :: rest) with
      | some rest => readLiteralLines? fuel ('\n' :: acc) rest
      | none => if isLineChar c then readLiteralLines? fuel (c :: acc) rest else none

/-- The rest of a string without escapes on one line. -/
def readLiteral? (s : List Char) : Option (String × List Char) :=
  let content := s.takeWhile (· != '\'')
  match s.dropWhile (· != '\'') with
  | [] => none
  | _ :: rest => if content.all isLineChar then some (String.ofList content, rest) else none

/-- A line break right after the opening quotes of a string on several lines is not part of it. -/
def dropFirstLineBreak (s : List Char) : List Char :=
  (afterLineBreak? s).getD s

/-- The string at the front of `s`, where `isKey` asks for one that fits on a line. -/
def readString? (isKey : Bool) (s : List Char) : Option (String × List Char) :=
  let fuel := s.length + 1
  match s, isKey with
  | '"' :: '"' :: '"' :: rest, false => readBasicLines? fuel [] (dropFirstLineBreak rest)
  | '\'' :: '\'' :: '\'' :: rest, false => readLiteralLines? fuel [] (dropFirstLineBreak rest)
  | '"' :: rest, _ => readBasic? fuel [] rest
  | '\'' :: rest, _ => readLiteral? rest
  | _, _ => none

end LineSelect.Toml
