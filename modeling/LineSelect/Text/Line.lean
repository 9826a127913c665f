/-!
Lines with their endings still attached.
-/

namespace LineSelect.Text

/-- Cuts a text after each line feed; only the last line may lack one. -/
def splitLines : List Char → List (List Char)
  | [] => []
  | c :: rest =>
    if c = '\n' then [c] :: splitLines rest
    else match splitLines rest with
      | [] => [[c]]
      | line :: lines => (c :: line) :: lines

theorem flatten_splitLines (s : List Char) : (splitLines s).flatten = s := by
  induction s with
  | nil => rfl
  | cons c rest ih =>
    simp only [splitLines]
    split
    · simp [ih]
    · split
      · next h => simpa [h] using ih
      · next line lines h => simpa [h] using ih

/-- The content of a line and its ending, which is `\r\n`, `\n` or nothing. -/
def splitEnding (line : List Char) : List Char × List Char :=
  match line.reverse with
  | '\n' :: '\r' :: content => (content.reverse, ['\r', '\n'])
  | '\n' :: content => (content.reverse, ['\n'])
  | _ => (line, [])

def content (line : String) : List Char :=
  (splitEnding line.toList).1

def ending (line : String) : List Char :=
  (splitEnding line.toList).2

theorem splitEnding_append (line : List Char) :
    (splitEnding line).1 ++ (splitEnding line).2 = line := by
  unfold splitEnding
  split
  · next h => rw [← List.reverse_reverse line, h]; simp
  · next h => rw [← List.reverse_reverse line, h]; simp
  · simp

end LineSelect.Text
