import LineSelect.Proofs.Interpolation
import LineSelect.Proofs.LinewiseSubstitution
import LineSelect.Proofs.Resolution

/-!
Texts as replacements. A text with every backslash doubled is accepted for every pattern, and its
template is filled in with that text whatever the groups are, so a substitution puts the text itself
in the place of the matches: doubling undoes the escapes, and dollar signs are never read as
references.
-/

namespace LineSelect.Replacement

open LineSelect.Text

def doubledBackslashes (text : List Char) : List Char :=
  text.flatMap fun c => if c = '\\' then ['\\', '\\'] else [c]

theorem doubledBackslashes_backslash (text : List Char) :
    doubledBackslashes ('\\' :: text) = '\\' :: '\\' :: doubledBackslashes text := rfl

theorem doubledBackslashes_cons {c : Char} (h : c ≠ '\\') (text : List Char) :
    doubledBackslashes (c :: text) = c :: doubledBackslashes text := by
  simp [doubledBackslashes, h]

/-- The replacement that means a text as it stands. -/
def verbatim (text : String) : String :=
  String.ofList (doubledBackslashes text.toList)

/-- The unit that a character becomes when backslashes are doubled. -/
def verbatimUnit (c : Char) : Token :=
  if c = '\\' then .escape '\\' else .plain c

theorem tokens_doubledBackslashes (text : List Char) :
    tokens (doubledBackslashes text) = text.map verbatimUnit := by
  induction text with
  | nil => exact tokens.eq_1
  | cons c text ih =>
      rw [List.map_cons, verbatimUnit]
      by_cases hc : c = '\\'
      · subst hc
        rw [doubledBackslashes_backslash, tokens_escape (by decide) (by decide), ih, if_pos rfl]
      · rw [doubledBackslashes_cons hc, tokens_plain hc, ih, if_neg hc]

theorem meaning_verbatimUnit (value : List Char → List Char) (c : Char) :
    (verbatimUnit c).meaning value = [c] := by
  unfold verbatimUnit
  split
  · next hc => rw [hc]; rfl
  · rfl

section Units

variable {names : List (Option String)} {text : List Char} {token : Token} {units : List Token}

theorem expandTokens_of_forall (position : ℕ)
    (h : ∀ token ∈ units, ∀ position, token.expand names position = .ok token.part) :
    expandTokens names position units = .ok (units.flatMap Token.part) := by
  induction units generalizing position with
  | nil => rfl
  | cons token units ih =>
      obtain ⟨htoken, hunits⟩ := List.forall_mem_cons.mp h
      rw [expandTokens, htoken position]
      dsimp only
      rw [ih _ hunits, List.flatMap_cons]

theorem expand_verbatimUnit (c : Char) (position : ℕ) :
    (verbatimUnit c).expand names position = .ok (verbatimUnit c).part := by
  unfold verbatimUnit
  split
  · rfl
  · unfold Token.expand Token.part
    split <;> simp_all

theorem verbatimUnit_cases (h : token ∈ text.map verbatimUnit) :
    token = .escape '\\' ∨ ∃ c, token = .plain c := by
  obtain ⟨c, -, rfl⟩ := List.mem_map.mp h
  unfold verbatimUnit
  split
  · exact .inl rfl
  · exact .inr ⟨c, rfl⟩

theorem fillIn_verbatimUnits (value : List Char → List Char) (text : List Char) :
    fillIn value ((text.map verbatimUnit).flatMap Token.part) = text := by
  have hwhole : ∀ token ∈ text.map verbatimUnit, token.IsWhole := by
    intro token htoken
    rcases verbatimUnit_cases htoken with rfl | ⟨c, rfl⟩ <;> trivial
  have hclosed : ∀ token ∈ text.map verbatimUnit, token.IsClosed := by
    intro token htoken
    rcases verbatimUnit_cases htoken with rfl | ⟨c, rfl⟩ <;> trivial
  have hdollar : Token.escape '$' ∉ text.map verbatimUnit := by
    intro htoken
    rcases verbatimUnit_cases htoken with heq | ⟨c, heq⟩ <;> simp at heq
  calc
    _ = (text.map verbatimUnit).flatMap (Token.meaning value) :=
      fillIn_flatMap_part hwhole hclosed (hasInertDollars_of_notMem hdollar)
    _ = text := by simp [List.flatMap_map, meaning_verbatimUnit]

theorem exists_expand_verbatim (names : List (Option String)) (text : String) :
    ∃ template, expand names (verbatim text) = .ok template ∧
      ∀ value, fillIn value template.toList = text.toList := by
  refine ⟨String.ofList ((text.toList.map verbatimUnit).flatMap Token.part), ?_, ?_⟩
  · have hunits : ∀ token ∈ text.toList.map verbatimUnit, ∀ position,
        token.expand names position = .ok token.part := by
      intro token htoken position
      obtain ⟨c, -, rfl⟩ := List.mem_map.mp htoken
      exact expand_verbatimUnit c position
    rw [expand, verbatim, String.toList_ofList, tokens_doubledBackslashes,
      expandTokens_of_forall 0 hunits]
  · intro value
    rw [String.toList_ofList, fillIn_verbatimUnits]

end Units

end LineSelect.Replacement

namespace LineSelect

open LineSelect.Text
open LineSelect.Replacement

/-- Those of the matches in a row that are replaced. -/
def Scope.among : Scope → List Match → List Match
  | .first, ms => ms.take 1
  | .every, ms => ms

section Verbatim

variable {pattern : String} {p : Pattern}

theorem Substitution.replaced_applyText (compiled : Pattern.compile pattern = .ok p)
    (template : String) (scope : Scope) (text : List Char) :
    Replaced (render ⟨p, template, scope⟩ text) 0 (scope.among (p.matchesOf text)) text
      (applyText ⟨p, template, scope⟩ text) := by
  cases scope with
  | first => exact replaced_applyText_first compiled template text
  | every => exact replaced_applyText_every compiled template text

/-- Every text can be put in the place of matches. With its backslashes doubled it is accepted for
every pattern that compiles, each match is rendered with the text itself, and so a substitution
leaves the text where the first match of a line was, or where all of them were. -/
theorem Document.substitute_verbatim (compiled : Pattern.compile pattern = .ok p) (text : String) :
    ∃ template, Replacement.expand p.groupNames (verbatim text) = .ok template ∧
      (∀ scope content m, Substitution.render ⟨p, template, scope⟩ content m = text.toList) ∧
      ∀ (d : Document) (scope : Scope), ∃ d',
        d.substitute pattern (verbatim text) scope = .ok d' ∧ d'.length = d.length ∧
        ∀ (i : ℕ) (line : String), d.lines[i]? = some line →
          ∃ content ending ms result, LineParts line.toList content ending ∧
            p.Succession content 0 none ms ∧
            Replaced (fun _ => text.toList) 0 (scope.among ms) content result ∧
            d'.lines[i]? = some (String.ofList (result ++ ending)) := by
  obtain ⟨template, expanded, hfill⟩ := exists_expand_verbatim p.groupNames text
  have hrender : ∀ scope content m,
      Substitution.render ⟨p, template, scope⟩ content m = text.toList := by
    intro scope content m
    exact hfill _
  have hreplaced : ∀ (scope : Scope) (content : List Char),
      Replaced (fun _ => text.toList) 0 (scope.among (p.matchesOf content)) content
        (Substitution.applyText ⟨p, template, scope⟩ content) := by
    intro scope content
    have hconst : Substitution.render ⟨p, template, scope⟩ content = fun _ => text.toList := by
      funext m
      exact hrender scope content m
    rw [← hconst]
    exact Substitution.replaced_applyText compiled template scope content
  refine ⟨template, expanded, hrender, ?_⟩
  intro d scope
  refine ⟨_, substitute_eq_ok (s := ⟨p, template, scope⟩)
    (Substitution.ofText_eq_ok_of_expand compiled expanded), by simp [length, ofLines], ?_⟩
  intro i line hline
  refine ⟨content line, ending line, p.matchesOf (content line),
    Substitution.applyText ⟨p, template, scope⟩ (content line), lineParts_splitEnding line.toList,
    Pattern.succession_matchesOf compiled _, hreplaced scope _, ?_⟩
  simp only [ofLines, List.getElem?_map, hline]
  rfl

theorem Document.substitute_verbatim_references :
    verbatim "$1\\1" = "$1\\\\1" ∧ ∃ p, Pattern.compile "(b)|$" = .ok p ∧
      ∃ d', (ofLines ["ba\n"]).substitute "(b)|$" (verbatim "$1\\1") .every = .ok d' ∧
        d'.lines = ["$1\\1a$1\\1\n"] ∧
        ∃ content ending ms result, LineParts "ba\n".toList content ending ∧
          p.Succession content 0 none ms ∧
          Replaced (fun _ => "$1\\1".toList) 0 ms content result ∧
          d'.lines[0]? = some (String.ofList (result ++ ending)) := by
  refine ⟨by decide +kernel, ?_⟩
  have hvalue : ((ofLines ["ba\n"]).substitute "(b)|$" (verbatim "$1\\1") .every).toOption.map
      lines = some ["$1\\1a$1\\1\n"] := by
    decide +kernel
  have hcompiles : (Pattern.compile "(b)|$").toOption.isSome = true := by decide +kernel
  obtain ⟨p, compiled⟩ := exists_eq_ok_of_isSome hcompiles
  obtain ⟨template, -, -, hlines⟩ := substitute_verbatim compiled "$1\\1"
  obtain ⟨d', hd', -, hline⟩ := hlines (ofLines ["ba\n"]) .every
  rw [hd'] at hvalue
  exact ⟨p, compiled, d', hd', Option.some.inj hvalue, hline 0 "ba\n" rfl⟩

end Verbatim

end LineSelect
