import LineSelect.Replacement.Error
import LineSelect.Text.Utf8

/-!
The units of a replacement as its author writes it. Every text splits into units; some of them
are faulty, and a replacement is refused for the first one that is.
-/

namespace LineSelect.Replacement

open LineSelect.Text

/-- A unit of a replacement. -/
inductive Token where
  | plain (c : Char)
  /-- A backslash before a character that makes no group reference. -/
  | escape (c : Char)
  /-- A backslash and one or two digits. -/
  | number (digits : List Char)
  /-- `\g<name>`. -/
  | named (name : List Char)
  /-- A backslash at the very end. -/
  | loneBackslash
  /-- `\g` without `<` after it. -/
  | unopenedName
  /-- `\g<` without `>` anywhere after it. -/
  | unclosedName (rest : List Char)
deriving DecidableEq, Repr

namespace Token

/-- The text that a unit is written as. -/
def spelling : Token → List Char
  | .plain c => [c]
  | .escape c => ['\\', c]
  | .number digits => '\\' :: digits
  | .named name => ['\\', 'g', '<'] ++ name ++ ['>']
  | .loneBackslash => ['\\']
  | .unopenedName => ['\\', 'g']
  | .unclosedName rest => ['\\', 'g', '<'] ++ rest

end Token

theorem length_dropWhile_lt {p : Char → Bool} {s after : List Char} {c : Char}
    (h : s.dropWhile p = c :: after) : after.length < s.length := by
  have := (List.dropWhile_suffix p (l := s)).length_le
  rw [h, List.length_cons] at this
  omega

/-- The units of a replacement from left to right; digits are taken two at a time where they
can be. -/
def tokens (s : List Char) : List Token :=
  match s with
  | [] => []
  | ['\\'] => [.loneBackslash]
  | '\\' :: 'g' :: '<' :: rest =>
    match h : rest.dropWhile (· ≠ '>') with
    | [] => [.unclosedName rest]
    | _ :: after =>
      have := length_dropWhile_lt h
      .named (rest.takeWhile (· ≠ '>')) :: tokens after
  | '\\' :: 'g' :: rest => .unopenedName :: tokens rest
  | '\\' :: c :: rest =>
    if c.isDigit then
      match rest with
      | d :: rest =>
        if d.isDigit then .number [c, d] :: tokens rest else .number [c] :: tokens (d :: rest)
      | [] => [.number [c]]
    else .escape c :: tokens rest
  | c :: rest => .plain c :: tokens rest
termination_by s.length

/-- No part of a replacement is lost between its units. -/
theorem flatMap_spelling_tokens (s : List Char) : (tokens s).flatMap Token.spelling = s := by
  fun_induction tokens s with
  | case1 => rfl
  | case2 => rfl
  | case3 rest => simp [Token.spelling]
  | case4 rest c after h _ ih =>
    have hne : rest.dropWhile (fun x => decide (x ≠ '>')) ≠ [] := by rw [h]; simp
    have hc : c = '>' := by
      have := List.head_dropWhile_not (fun x => decide (x ≠ '>')) hne
      simp only [h, List.head_cons] at this
      simpa using this
    have := List.takeWhile_append_dropWhile (p := fun x => decide (x ≠ '>')) (l := rest)
    rw [h, hc] at this
    rw [List.flatMap_cons, ih, Token.spelling, List.append_assoc, List.append_assoc,
      List.singleton_append, this]
    rfl
  | case5 rest _ ih => simp [Token.spelling, ih]
  | case6 => simp_all [Token.spelling]
  | case7 => simp_all [Token.spelling]
  | case8 => simp_all [Token.spelling]
  | case9 => simp_all [Token.spelling]
  | case10 => simp_all [Token.spelling]

end LineSelect.Replacement
