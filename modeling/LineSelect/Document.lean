import LineSelect.Selection
import LineSelect.Substitution

/-!
Documents: texts as lists of lines, each with its ending. Nothing changes a document; every
operation gives a new one.
-/

namespace LineSelect

open LineSelect.Text

/-- A text by its lines. A line may be any text when the lines are given one by one. -/
structure Document where
  lines : List String := []
deriving Repr, Inhabited

namespace Document

/-- The document whose lines are the pieces of a text after each line feed. -/
def ofText (text : String) : Document :=
  ⟨(splitLines text.toList).map String.ofList⟩

def ofLines (lines : List String) : Document :=
  ⟨lines⟩

def text (d : Document) : String :=
  String.join d.lines

theorem text_ofText (text : String) : (ofText text).text = text := by
  apply String.toList_inj.1
  simp only [Document.text, ofText, String.toList_join, List.flatMap_map, String.toList_ofList]
  exact List.flatMap_id.trans (flatten_splitLines text.toList)

def length (d : Document) : Nat :=
  d.lines.length

def isEmpty (d : Document) : Bool :=
  d.lines.isEmpty

/-- Documents are equal if their texts are, however they are cut into lines. -/
instance : BEq Document :=
  ⟨fun a b => a.text == b.text⟩

def lineNumbers (d : Document) (exprs : List String) : Except SelectionError (List Nat) :=
  selectIndices d.lines exprs

/-- The lines at given places; places beyond the end have none. -/
def linesAt (d : Document) (indices : List Nat) : List String :=
  indices.filterMap fun i => d.lines[i]?

def select (d : Document) (exprs : List String) : Except SelectionError Document :=
  match d.lineNumbers exprs with
  | .error e => .error e
  | .ok indices => .ok (ofLines (d.linesAt indices))

def range (d : Document) (expr : String) : Except SelectionError Document :=
  d.select [expr]

/-- The document with matches replaced on every line. New line feeds do not make new lines. -/
def substitute (d : Document) (pattern replacement : String) (scope : Scope) :
    Except SelectionError Document :=
  match Substitution.ofText pattern replacement scope with
  | .error e => .error e
  | .ok s => .ok (ofLines (d.lines.map s.applyLine))

/-- As many characters are shown of a text. -/
def previewLength : Nat := 50

/-- The front of the text, with dots after it if there is more. -/
def preview (d : Document) : String :=
  let chars := d.text.toList
  String.ofList (chars.take previewLength) ++ if previewLength < chars.length then "..." else ""

/-- A summary on one line. -/
def summary (d : Document) : String :=
  "Document \x7b text: " ++ quoted d.preview ++ ", lines: " ++ d.length.repr ++ " \x7d"

/-- A summary with a line for each part. -/
def summaryLines (d : Document) : String :=
  "Document \x7b\n    text: " ++ quoted d.preview ++ ",\n    lines: " ++ d.length.repr ++ ",\n\x7d"

end Document

end LineSelect
