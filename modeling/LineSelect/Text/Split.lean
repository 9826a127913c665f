/-!
Texts as pieces between separators.
-/

namespace LineSelect.Text

/-- The pieces between the separators of a text; there is one more piece than separators. -/
def splitOn (separator : Char) : List Char → List (List Char)
  | [] => [[]]
  | c :: rest =>
    if c = separator then [] :: splitOn separator rest
    else match splitOn separator rest with
      | [] => [[c]]
      | piece :: pieces => (c :: piece) :: pieces

end LineSelect.Text
