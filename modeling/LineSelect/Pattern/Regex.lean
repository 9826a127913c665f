import LineSelect.Unicode.CodePoints

/-!
Regular expressions as trees. Flags are already worked in: a leaf is a set of characters or a
condition on a place.

Trees are built with `sequence`, `alternation`, `repeated` and `ofSet`, which keep them in a
reduced form. The form counts: a front that all alternatives share is matched once, before the
choice between what follows it, so that the front's own preferred way comes before the order of
the alternatives.
-/

namespace LineSelect.Pattern

open LineSelect.Unicode

/-- The characters that words and classes are drawn from. -/
inductive Alphabet where
  | ascii
  | unicode
deriving DecidableEq, Repr

inductive Anchor where
  | textStart
  | textEnd
  | lineStart
  | lineEnd
  /-- A line start where `\r`, `\n` and the pair `\r\n` end lines. -/
  | anyLineStart
  /-- A line end where `\r`, `\n` and the pair `\r\n` end lines. -/
  | anyLineEnd
  | wordBoundary (alphabet : Alphabet)
  | notWordBoundary (alphabet : Alphabet)
  | wordStart (alphabet : Alphabet)
  | wordEnd (alphabet : Alphabet)
  /-- No word character before the place. -/
  | wordStartHalf (alphabet : Alphabet)
  /-- No word character after the place. -/
  | wordEndHalf (alphabet : Alphabet)
deriving DecidableEq, Repr

inductive Regex where
  | empty
  /-- A character of a set; the alphabet is the one that the set was spelled in. -/
  | chars (alphabet : Alphabet) (set : CodePoints)
  | anchor (condition : Anchor)
  | concat (first second : Regex)
  /-- The first alternative is preferred. -/
  | alternative (first second : Regex)
  /-- At least `min` and, unless `max` is missing, at most `max` rounds; a greedy repetition
  prefers more rounds. -/
  | repetition (min : Nat) (max : Option Nat) (greedy : Bool) (body : Regex)
  | group (index : Nat) (name : Option String) (body : Regex)
deriving DecidableEq, Repr

namespace Regex

/-- Whether the expression can match nothing but the empty text. -/
def isZeroWidth : Regex → Bool
  | .empty | .anchor _ => true
  | .chars _ _ => false
  | .concat a b | .alternative a b => a.isZeroWidth && b.isZeroWidth
  | .repetition _ _ _ body | .group _ _ body => body.isZeroWidth

/-- Whether every match holds at least one character. -/
def isNonempty : Regex → Bool
  | .empty | .anchor _ => false
  | .chars _ set => set.ranges ≠ []
  | .concat a b => a.isNonempty || b.isNonempty
  | .alternative a b => a.isNonempty && b.isNonempty
  | .repetition min _ _ body => 0 < min && body.isNonempty
  | .group _ _ body => body.isNonempty

/-- A repetition in reduced form: rounds of an empty-only body beyond the first add nothing, and
no round at all is the empty expression, whose body (groups included) is gone. -/
def repeated (min : Nat) (max : Option Nat) (greedy : Bool) (body : Regex) : Regex :=
  let (min, max) :=
    if body.isZeroWidth then (Nat.min min 1, some ((max.map (Nat.min · 1)).getD 1)) else (min, max)
  match min, max with
  | 0, some 0 => .empty
  | 1, some 1 => body
  | min, max => .repetition min max greedy body

/-- The groups of an expression in the order of their opening parentheses. -/
def groups : Regex → List (Nat × Option String)
  | .empty | .chars _ _ | .anchor _ => []
  | .concat a b | .alternative a b => a.groups ++ b.groups
  | .repetition _ _ _ body => body.groups
  | .group index name body => (index, name) :: body.groups

/-- A character of a set. A set with one member, or with none, is the same in every alphabet. -/
def ofSet (alphabet : Alphabet) (set : CodePoints) : Regex :=
  .chars (if set.ranges = [] ∨ set.isSingleton then .unicode else alphabet) set

def isLiteral : Regex → Bool
  | .chars _ set => set.isSingleton
  | _ => false

/-- Whether the expression is a character of a set that does not have just one member. -/
def isClass : Regex → Bool
  | .chars _ set => !set.isSingleton
  | _ => false

/-- The characters that an expression for one character can match. -/
def members : Regex → CodePoints
  | .chars _ set => set
  | _ => .empty

/-- What an expression matches one after another. -/
def items : Regex → List Regex
  | .empty => []
  | .concat a b => a.items ++ b.items
  | r => [r]

/-- The expressions that an expression chooses from, the first preferred. -/
def branches : Regex → List Regex
  | .alternative a b => a.branches ++ b.branches
  | r => [r]

def ofItems : List Regex → Regex
  | [] => .empty
  | [r] => r
  | r :: rest => .concat r (ofItems rest)

def ofBranches : List Regex → Regex
  | [] => ofSet .unicode .empty
  | [r] => r
  | r :: rest => .alternative r (ofBranches rest)

/-- Expressions one after another. Sequences among them are part of the one sequence. -/
def sequence (rs : List Regex) : Regex :=
  ofItems (rs.flatMap items)

/-- A choice between expressions, the first preferred. Choices among them are part of the one
choice, and a choice between nothing but characters, or nothing but classes, is one class. -/
def choice (rs : List Regex) : Regex :=
  match rs.flatMap branches with
  | [r] => r
  | rs =>
    if rs.all isLiteral || rs.all isClass then
      ofSet .unicode (CodePoints.unions (rs.map members))
    else ofBranches rs

/-- The items of a sequence in parts: a stretch of single characters is one part, and any other
item is a part by itself. -/
def parts (r : Regex) : List (List Regex) :=
  r.items.splitBy fun a b => a.isLiteral && b.isLiteral

/-- What two lists have in common from their start on. -/
def commonFront {α : Type} [DecidableEq α] : List α → List α → List α
  | x :: xs, y :: ys => if x = y then x :: commonFront xs ys else []
  | _, _ => []

/-- The parts that all alternatives begin with; an alternative of a single part shares none. -/
def sharedFront : List (List (List Regex)) → List (List Regex)
  | [] => []
  | first :: others =>
    if (first :: others).all (2 ≤ ·.length) then others.foldl commonFront first else []

/-- Alternatives, the first preferred. What all of them begin with comes once, and the choice is
between what follows it. -/
def alternation (rs : List Regex) : Regex :=
  let alternatives := (rs.flatMap branches).map parts
  let front := sharedFront alternatives
  let rests := alternatives.map (·.drop front.length)
  sequence (front.flatten ++ [choice (rests.map (ofItems ·.flatten))])

theorem items_of_mem_items {r item : Regex} (h : item ∈ r.items) : item.items = [item] := by
  induction r with
  | concat a b iha ihb =>
    rcases List.mem_append.mp h with h | h
    · exact iha h
    · exact ihb h
  | empty => exact absurd h List.not_mem_nil
  | chars | anchor | alternative | repetition | group =>
    rw [List.mem_singleton.mp h]
    rfl

theorem items_ofItems (rs : List Regex) : (ofItems rs).items = rs.flatMap items := by
  fun_induction ofItems rs with
  | case1 => rfl
  | case2 r => simp
  | case3 r rest _ ih => simp [items, ih]

theorem items_sequence (rs : List Regex) : (sequence rs).items = rs.flatMap items := by
  rw [sequence, items_ofItems]
  induction rs with
  | nil => rfl
  | cons r rest ih =>
    have hself : r.items.flatMap items = r.items := by
      rw [List.flatMap_def, List.map_congr_left fun _ h => items_of_mem_items h,
        ← List.flatMap_def, List.flatMap_singleton']
    simp [hself, ih]

theorem groups_eq_flatMap_items (r : Regex) : r.groups = r.items.flatMap groups := by
  induction r with
  | concat a b iha ihb => simp [groups, items, iha, ihb]
  | _ => simp [groups, items]

theorem groups_sequence (rs : List Regex) : (sequence rs).groups = rs.flatMap groups := by
  rw [groups_eq_flatMap_items, items_sequence]
  induction rs with
  | nil => rfl
  | cons r rest ih => simp [ih, ← groups_eq_flatMap_items]

theorem commonFront_isPrefix {α : Type} [DecidableEq α] (xs ys : List α) :
    List.IsPrefix (commonFront xs ys) xs ∧ List.IsPrefix (commonFront xs ys) ys := by
  fun_induction commonFront xs ys with
  | case1 x xs ys ih => simpa [List.cons_prefix_cons] using ih
  | case2 => simp
  | case3 => simp

end Regex

end LineSelect.Pattern
