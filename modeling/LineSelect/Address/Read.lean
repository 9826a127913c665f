import LineSelect.Address
import LineSelect.SelectionError
import LineSelect.Text.Blank

/-!
Reading an address at the front of a text. Reading never fails on text it does not know: what is
left is handed back, and the caller decides whether that is a fault.
-/

namespace LineSelect

open LineSelect.Text

namespace Position

/-- The search pattern after its opening slash, and what follows its closing slash. An empty
pattern is no search; a missing closing slash ends the pattern with the text. -/
def readPattern? (body : List Char) : Option (String × List Char) :=
  let source := body.takeWhile (· ≠ '/')
  if source = [] then none
  else some (String.ofList source, (body.dropWhile (· ≠ '/')).drop 1)

/-- The position at the front of `s`, where no position means the current line. -/
def read (s : List Char) : Except SelectionError (Position × List Char) :=
  if leadingDigits s ≠ [] then
    match boundedValue? Address.lineNumberLimit (leadingDigits s) with
    | some number => .ok (.line number, afterDigits s)
    | none => .error (.invalidLineNumber (String.ofList (leadingDigits s)))
  else
    match s with
    | '/' :: body =>
      match readPattern? body with
      | some (source, rest) => .ok (.pattern source, rest)
      | none => .ok (.current, s)
    | '$' :: rest => .ok (.last, rest)
    | '.' :: rest => .ok (.current, rest)
    | _ => .ok (.current, s)

end Position

namespace Address

/-- Whether a sign at the front of `s` is a minus, and what follows the sign. -/
def readSign : List Char → Bool × List Char
  | '+' :: rest => (false, rest)
  | '-' :: rest => (true, rest)
  | s => (false, s)

def signed (negative : Bool) (magnitude : Nat) : Int :=
  if negative then -(magnitude : Int) else magnitude

/-- A number at the front of `s`, with or without a sign, where blanks may follow the sign. The
address that the offset belongs to is `whole`. -/
def readNumber (whole s : List Char) : Except SelectionError (Option (Int × List Char)) :=
  let (negative, unsigned) := readSign s
  let unsigned := dropBlanks unsigned
  if leadingDigits unsigned = [] then .ok none
  else match boundedValue? offsetLimit (leadingDigits unsigned) with
    | some magnitude => .ok (some (signed negative magnitude, afterDigits unsigned))
    | none => .error (.invalidDelta (String.ofList whole))

/-- Whether `c` may stand in a run of signs. -/
def isSignOrSpace (c : Char) : Bool :=
  c = ' ' || c = '+' || c = '-'

/-- A run of signs at the front of `s`, each worth one line; spaces between them do not count. -/
def readSigns (whole s : List Char) : Except SelectionError (Int × List Char) :=
  let signs := (s.takeWhile isSignOrSpace).filter (· ≠ ' ')
  let rest := s.dropWhile isSignOrSpace
  match signs with
  | [] => .ok (0, rest)
  | first :: _ =>
    if signs.all (· = first) then .ok (signed (first = '-') signs.length, rest)
    else .error (.invalidDelta (String.ofList whole))

/-- The offset at the front of `s`: a number if there is one, and a run of signs otherwise. -/
def readOffset (whole s : List Char) : Except SelectionError (Int × List Char) :=
  match readNumber whole s with
  | .error e => .error e
  | .ok (some result) => .ok result
  | .ok none => readSigns whole s

/-- The address at the front of `s`, and the text after it. -/
def read (s : List Char) : Except SelectionError (Address × List Char) :=
  match Position.read (dropBlanks s) with
  | .error e => .error e
  | .ok (position, rest) =>
    match readOffset s (dropBlanks rest) with
    | .error e => .error e
    | .ok (offset, rest) => .ok (⟨position, offset⟩, rest)

/-- The address at the front of `expr`, and the text after it. -/
def parse (expr : String) : Except SelectionError (Address × String) :=
  match read expr.toList with
  | .error e => .error e
  | .ok (address, rest) => .ok (address, String.ofList rest)

end Address

end LineSelect
