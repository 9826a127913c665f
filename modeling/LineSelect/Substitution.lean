import LineSelect.Pattern
import LineSelect.Replacement.Template
import LineSelect.SelectionError
import LineSelect.Text.Line

/-!
Substitution: matches of a pattern give way to a filled-in template. A line ending is never part
of what the pattern sees.
-/

namespace LineSelect

open LineSelect.Text
open LineSelect.Replacement

/-- Which matches on a line are replaced. -/
inductive Scope where
  | first
  | every
deriving DecidableEq, Repr

/-- A pattern with the template for its matches. -/
structure Substitution where
  pattern : Pattern
  template : String
  scope : Scope

namespace Substitution

/-- The substitution for a pattern and a replacement as they are written. The pattern is looked at
first. -/
def ofText (pattern replacement : String) (scope : Scope) :
    Except SelectionError Substitution :=
  match Pattern.compile pattern with
  | .error cause => .error (.badPattern cause)
  | .ok compiled =>
    match Replacement.expand compiled.groupNames replacement with
    | .error cause => .error (.badReplacement cause)
    | .ok template => .ok ⟨compiled, template, scope⟩

def targets (s : Substitution) (text : List Char) : List Match :=
  match s.scope with
  | .first => (s.pattern.find? text 0).toList
  | .every => s.pattern.matchesOf text

/-- The text that a reference stands for in a match; a group that took no part has none. -/
def referenceText (s : Substitution) (text : List Char) (m : Match) (reference : List Char) :
    List Char :=
  ((groupIndex? s.pattern.groupNames reference).bind (m.groupText? text)).getD []

def render (s : Substitution) (text : List Char) (m : Match) : List Char :=
  fillIn (s.referenceText text m) s.template.toList

/-- The text from place `start` on, with `render` in the place of the matches; all that lies
between them is kept. -/
def splice (text : List Char) (render : Match → List Char) : Nat → List Match → List Char
  | start, [] => text.drop start
  | start, m :: rest =>
    Match.between text start m.start ++ render m ++ splice text render m.stop rest

/-- The text with its targets replaced. -/
def applyText (s : Substitution) (text : List Char) : List Char :=
  splice text (s.render text) 0 (s.targets text)

def applyLine (s : Substitution) (line : String) : String :=
  String.ofList (s.applyText (content line) ++ ending line)

end Substitution

end LineSelect
