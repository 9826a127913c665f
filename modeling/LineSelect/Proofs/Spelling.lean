import LineSelect.Range.Read

/-!
Spellings: the texts that are written forms of a position, an offset, an address or a range. A
spelling is put together from its parts; that reading takes every one of them apart again, and
accepts nothing else, is shown in `LineSelect.Proofs.Reading`.
-/

namespace LineSelect

open LineSelect.Text

inductive Sign where
  | plus
  | minus
deriving DecidableEq, Repr

namespace Sign

def char : Sign → Char
  | .plus => '+'
  | .minus => '-'

def apply : Sign → Nat → Int
  | .plus, n => n
  | .minus, n => -n

end Sign

/-- Any number of blanks, none included. -/
def AreBlanks (s : List Char) : Prop :=
  ∀ c ∈ s, isBlank c = true

/-- One or more of the digits `0` to `9`. -/
structure AreDigits (s : List Char) : Prop where
  nonempty : s ≠ []
  digits : ∀ c ∈ s, c.isDigit = true

/-- A search pattern as it stands after its opening slash. -/
structure IsSource (s : List Char) : Prop where
  nonempty : s ≠ []
  slashFree : ∀ c ∈ s, c ≠ '/'

namespace Position

/-- The ways to write a position that something may follow. -/
inductive Spelling : Position → List Char → Prop where
  /-- Leading zeros are allowed. -/
  | line {digits : List Char} (run : AreDigits digits)
      (small : digitsValue digits < Address.lineNumberLimit) :
      Spelling (.line (digitsValue digits)) digits
  | pattern {source : List Char} (form : IsSource source) :
      Spelling (.pattern (String.ofList source)) ('/' :: source ++ ['/'])
  | last : Spelling .last ['$']
  | dot : Spelling .current ['.']
  /-- The current line needs no text at all. -/
  | nothing : Spelling .current []

end Position

namespace Address

/-- The ways to write an offset after a position that is written as `base`, with the blanks `gap`
between the two. -/
inductive OffsetSpelling (base gap : List Char) : Int → List Char → Prop where
  | nothing : OffsetSpelling base gap 0 []
  | number (sign : Sign) {blanks digits : List Char} (blank : AreBlanks blanks)
      (run : AreDigits digits) (small : digitsValue digits < offsetLimit) :
      OffsetSpelling base gap (sign.apply (digitsValue digits)) (sign.char :: blanks ++ digits)
  /-- A number without a sign is an offset only where it cannot be taken for a line number, or
  for more digits of one. -/
  | bare {digits : List Char} (based : base ≠ []) (apart : AreDigits base → gap ≠ [])
      (run : AreDigits digits) (small : digitsValue digits < offsetLimit) :
      OffsetSpelling base gap (digitsValue digits) digits
  /-- Each sign is worth one line; the spaces after and between them do not count. -/
  | signs (sign : Sign) {run : List Char} (alike : ∀ c ∈ run, c = sign.char ∨ c = ' ') :
      OffsetSpelling base gap (sign.apply (run.count sign.char + 1)) (sign.char :: run)

/-- The ways to write an address that something may follow. -/
inductive Spelling : Address → List Char → Prop where
  | parts {position : Position} {offset : Int} {front base gap tail : List Char}
      (frontBlank : AreBlanks front) (basic : position.Spelling base) (gapBlank : AreBlanks gap)
      (ending : OffsetSpelling base gap offset tail) :
      Spelling ⟨position, offset⟩ (front ++ (base ++ (gap ++ tail)))

/-- The ways to write an address at the very end of an expression, where a pattern may lack its
closing slash. -/
inductive FinalSpelling : Address → List Char → Prop where
  | closed {address : Address} {s : List Char} (spelling : address.Spelling s) :
      FinalSpelling address s
  | unclosed {front source : List Char} (frontBlank : AreBlanks front) (form : IsSource source) :
      FinalSpelling ⟨.pattern (String.ofList source), 0⟩ (front ++ '/' :: source)

end Address

namespace Range

/-- The ways to write a range. -/
inductive Spelling : Range → List Char → Prop where
  | single {start : Address} {s : List Char} (spelling : start.FinalSpelling s) :
      Spelling ⟨start, none⟩ s
  | span {start stop : Address} {s t : List Char} (separator : Separator)
      (first : start.Spelling s) (second : stop.FinalSpelling t) :
      Spelling ⟨start, some (separator, stop)⟩ (s ++ separator.char :: t)

end Range

end LineSelect
