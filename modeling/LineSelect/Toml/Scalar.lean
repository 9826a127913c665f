import LineSelect.Text.Decimal
import LineSelect.Toml
import LineSelect.Unicode.CodePoints

/-!
Numbers, dates and words of TOML by their literals.
-/

namespace LineSelect.Toml

open LineSelect.Text
open LineSelect.Unicode

/-- Digits with single underscores between them. -/
def isGrouped (isDigit : Char → Bool) : List Char → Bool
  | [] => false
  | [c] => isDigit c
  | c :: '_' :: rest => isDigit c && isGrouped isDigit rest
  | c :: rest => isDigit c && isGrouped isDigit rest

def withoutUnderscores (s : List Char) : List Char :=
  s.filter (· != '_')

/-- A decimal whole number without sign: no zero in front of other digits. -/
def isPlainDecimal (s : List Char) : Bool :=
  isGrouped Char.isDigit s && (s.head? != some '0' || s.length == 1)

def splitSign : List Char → Bool × List Char
  | '+' :: rest => (false, rest)
  | '-' :: rest => (true, rest)
  | s => (false, s)

/-- The value of digits in a base up to 16. -/
def valueInBase (base : Nat) (digits : List Char) : Nat :=
  digits.foldl (fun n c => n * base + (CodePoints.hexDigitValue? c).getD 0) 0

/-- Whole numbers are held in 64 bits with sign. -/
def integerLimit : Nat := 0x8000000000000000

def integerInBase? (base : Nat) (digits : List Char) : Option Int :=
  let isDigit (c : Char) := (CodePoints.hexDigitValue? c).any (· < base)
  let value := valueInBase base (withoutUnderscores digits)
  if isGrouped isDigit digits && value < integerLimit then some value else none

def integer? (s : List Char) : Option Int :=
  match s with
  | '0' :: 'x' :: digits => integerInBase? 16 digits
  | '0' :: 'o' :: digits => integerInBase? 8 digits
  | '0' :: 'b' :: digits => integerInBase? 2 digits
  | s =>
    let (negative, digits) := splitSign s
    if !isPlainDecimal digits then none
    else
      let value := digitsValue (withoutUnderscores digits)
      if negative then if value ≤ integerLimit then some (-(value : Int)) else none
      else if value < integerLimit then some value else none

def exponent? : List Char → Option Int
  | [] => some 0
  | c :: rest =>
    let (negative, digits) := splitSign rest
    if (c == 'e' || c == 'E') && isGrouped Char.isDigit digits then
      let value : Int := digitsValue (withoutUnderscores digits)
      some (if negative then -value else value)
    else none

/-- Whether a positive number `digits · 10 ^ exponent` is too large for binary64: it rounds to
2 ^ 1024 or beyond. -/
def overflows (digits : Nat) (exponent : Int) : Bool :=
  let bound := Nat.pow 2 1024 - Nat.pow 2 970
  if digits = 0 then false
  else if exponent ≥ 310 then true
  else if exponent ≥ 0 then bound ≤ digits * Nat.pow 10 exponent.toNat
  else
    let scale := exponent.natAbs
    if (Nat.toDigits 10 digits).length < scale then false else bound * Nat.pow 10 scale ≤ digits

/-- Whether a literal is a number with a fraction, an exponent or both, or one of the special
numbers. Positive numbers have to stay finite. -/
def isFloat (s : List Char) : Bool :=
  let (negative, unsigned) := splitSign s
  if unsigned = ['i', 'n', 'f'] || unsigned = ['n', 'a', 'n'] then true
  else
    let isDigitOrBar (c : Char) := c.isDigit || c == '_'
    let whole := unsigned.takeWhile isDigitOrBar
    let rest := unsigned.dropWhile isDigitOrBar
    let fits (fraction : List Char) (exponent : Option Int) : Bool :=
      match exponent with
      | none => false
      | some exponent =>
        let fraction := withoutUnderscores fraction
        negative || !overflows (digitsValue (withoutUnderscores whole ++ fraction))
          (exponent - fraction.length)
    isPlainDecimal whole &&
      match rest with
      | [] => false
      | '.' :: rest =>
        let fraction := rest.takeWhile isDigitOrBar
        isGrouped Char.isDigit fraction &&
          fits fraction (exponent? (rest.dropWhile isDigitOrBar))
      | rest => fits [] (exponent? rest)

/-- A number of exactly `count` digits at the front of `s`, and what follows it. -/
def readFixed? (count : Nat) (s : List Char) : Option (Nat × List Char) :=
  let digits := s.take count
  if digits.length = count && digits.all Char.isDigit then
    some (digitsValue digits, s.drop count)
  else none

def isLeapYear (year : Nat) : Bool :=
  year % 4 == 0 && (year % 100 != 0 || year % 400 == 0)

def daysInMonth (year month : Nat) : Nat :=
  if month = 2 then if isLeapYear year then 29 else 28
  else if month = 4 ∨ month = 6 ∨ month = 9 ∨ month = 11 then 30 else 31

/-- What follows a date at the front of `s`. -/
def afterDate? (s : List Char) : Option (List Char) := do
  let (year, rest) ← readFixed? 4 s
  let '-' :: rest := rest | none
  let (month, rest) ← readFixed? 2 rest
  let '-' :: rest := rest | none
  let (day, rest) ← readFixed? 2 rest
  if 1 ≤ month ∧ month ≤ 12 ∧ 1 ≤ day ∧ day ≤ daysInMonth year month then some rest else none

/-- What follows a time of day at the front of `s`. -/
def afterTime? (s : List Char) : Option (List Char) := do
  let (hour, rest) ← readFixed? 2 s
  let ':' :: rest := rest | none
  let (minute, rest) ← readFixed? 2 rest
  let ':' :: rest := rest | none
  let (second, rest) ← readFixed? 2 rest
  if ¬(hour < 24 ∧ minute < 60 ∧ second ≤ 60) then none
  match rest with
  | '.' :: rest => if leadingDigits rest = [] then none else some (afterDigits rest)
  | rest => some rest

/-- Whether `s` is nothing, or the distance from universal time. -/
def isZone : List Char → Bool
  | [] | ['Z'] | ['z'] => true
  | sign :: rest =>
    (sign == '+' || sign == '-') &&
      match readFixed? 2 rest with
      | some (hour, ':' :: rest) =>
        match readFixed? 2 rest with
        | some (minute, []) => hour < 24 && minute < 60
        | _ => false
      | _ => false

/-- Whether a literal is a date, a time of day, or both with or without a zone. -/
def isDatetime (s : List Char) : Bool :=
  match afterDate? s with
  | some [] => true
  | some (delimiter :: rest) =>
    (delimiter == 'T' || delimiter == 't' || delimiter == ' ') && (afterTime? rest).any isZone
  | none => afterTime? s == some []

/-- The value of a literal without quotes. -/
def scalar? (s : List Char) : Option Toml :=
  if s = ['t', 'r', 'u', 'e'] then some (.boolean true)
  else if s = ['f', 'a', 'l', 's', 'e'] then some (.boolean false)
  else if isDatetime s then some (.datetime (String.ofList s))
  else if isFloat s then some (.float (String.ofList s))
  else (integer? s).map .integer

/-- Whether `c` may stand in a literal without quotes. -/
def isScalarChar (c : Char) : Bool :=
  c.isAlphanum || c == '+' || c == '-' || c == '.' || c == '_' || c == ':'

/-- The literal at the front of `s`, and what follows it. A date may have a blank before its time
of day. -/
def splitScalar (s : List Char) : List Char × List Char :=
  let word := s.takeWhile isScalarChar
  let rest := s.dropWhile isScalarChar
  match rest with
  | ' ' :: a :: after =>
    if a.isDigit && afterDate? word == some [] then
      (word ++ ' ' :: (a :: after).takeWhile isScalarChar, (a :: after).dropWhile isScalarChar)
    else (word, rest)
  | _ => (word, rest)

end LineSelect.Toml
