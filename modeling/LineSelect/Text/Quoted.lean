import LineSelect.Unicode.Printable

/-!
Quoted text: the form in which messages and logs show a string, on one line and free of
invisible characters.
-/

namespace LineSelect.Text

open LineSelect.Unicode

/-- The hexadecimal escape of a character, lower case and without leading zeros. -/
def codePointEscape (c : Char) : List Char :=
  ['\\', 'u', '\x7b'] ++ Nat.toDigits 16 c.toNat ++ ['\x7d']

def quotedChar (c : Char) : List Char :=
  match c with
  | '\x00' => ['\\', '0']
  | '\t' => ['\\', 't']
  | '\n' => ['\\', 'n']
  | '\r' => ['\\', 'r']
  | '"' => ['\\', '"']
  | '\\' => ['\\', '\\']
  | c => if isGraphemeExtend c || !isPrintable c then codePointEscape c else [c]

/-- The text in double quotes, with escapes for quotes, backslashes, unprintable characters and
characters that would attach to the one before them. -/
def quoted (s : String) : String :=
  String.ofList ('"' :: s.toList.flatMap quotedChar ++ ['"'])

/-- A list of texts, each quoted, between brackets. -/
def quotedList (items : List String) : String :=
  "[" ++ ", ".intercalate (items.map quoted) ++ "]"

end LineSelect.Text
