import LineSelect.Document
import LineSelect.Proofs.MatchPlaces

/-!
What a substitution does to a document. Each line is cut into its content and its ending, and the
content alone is rewritten: the matches in it, or the first of them, give way to what is rendered for
them, and all text before, between and after them is kept. The matches are all that come one after
the other, so their number is not limited. The main statement says this of every document, and that
a substitution is refused for reasons that do not depend on the document.
-/

namespace LineSelect

open LineSelect.Text

/-! ### Matches in a row -/

namespace Pattern

/-- Matches in a row from a place on, up to the last that there is. -/
inductive Succession (p : Pattern) (text : List Char) : Nat → Option Nat → List Match → Prop where
  | done {place : Nat} {last : Option Nat} (missing : p.findNext? text place last = none) :
      Succession p text place last []
  | next {place : Nat} {last : Option Nat} {m : Match} {ms : List Match}
      (found : p.findNext? text place last = some m)
      (more : Succession p text m.stop (some m.stop) ms) :
      Succession p text place last (m :: ms)

variable {source : String} {p : Pattern}

theorem succession_matchesFrom (compiled : compile source = .ok p) (text : List Char) {fuel : Nat}
    {place : Nat} (enough : text.length ≤ place + fuel) :
    p.Succession text place (some place) (p.matchesFrom text fuel place (some place)) := by
  -- Each match stops later than the one before, so the fuel lasts as long as the text.
  induction fuel generalizing place with
  | zero =>
      apply Succession.done
      cases hnext : p.findNext? text place (some place) with
      | none => rfl
      | some m =>
          obtain ⟨within, hlater⟩ := within_of_findNext? compiled hnext
          have := within.le_high
          have := hlater rfl
          omega
  | succ fuel ih =>
      rw [matchesFrom]
      split
      · next hnext => exact .done hnext
      · next m hnext =>
        obtain ⟨-, hlater⟩ := within_of_findNext? compiled hnext
        have := hlater rfl
        exact .next hnext (ih (by omega))

theorem succession_matchesOf (compiled : compile source = .ok p) (text : List Char) :
    p.Succession text 0 none (p.matchesOf text) := by
  rw [matchesOf, matchesFrom]
  split
  · next hnext => exact .done hnext
  · next m hnext => exact .next hnext (succession_matchesFrom compiled text (by omega))

theorem toList_find?_eq_take (text : List Char) :
    (p.find? text 0).toList = (p.matchesOf text).take 1 := by
  rw [matchesOf, matchesFrom, findNext?_none_eq]
  cases p.find? text 0 <;> rfl

end Pattern

/-! ### Replacing in a text -/

/-- The text from a place on, and what it becomes when matches in it give way to what is rendered
for them: the gaps before, between and after the matches are the same on both sides. -/
inductive Replaced (render : Match → List Char) :
    Nat → List Match → List Char → List Char → Prop where
  | rest {place : Nat} {rest : List Char} : Replaced render place [] rest rest
  | next {m : Match} {ms : List Match} {place : Nat} {gap taken rest result : List Char}
      (start : m.start = place + gap.length) (stop : m.stop = m.start + taken.length)
      (more : Replaced render m.stop ms rest result) :
      Replaced render place (m :: ms) (gap ++ (taken ++ rest)) (gap ++ (render m ++ result))

/-- Matches lie one behind the other between two places. -/
inductive InOrder (high : Nat) : Nat → List Match → Prop where
  | nil {low : Nat} : InOrder high low []
  | cons {low : Nat} {m : Match} {ms : List Match} (first : m.Within low high)
      (more : InOrder high m.stop ms) : InOrder high low (m :: ms)

theorem Pattern.Succession.inOrder {source : String} {p : Pattern}
    (compiled : Pattern.compile source = .ok p) {text : List Char} {place : Nat}
    {last : Option Nat} {ms : List Match} (succession : p.Succession text place last ms) :
    InOrder text.length place ms := by
  induction succession with
  | done => exact .nil
  | next found more ih => exact .cons (Pattern.within_of_findNext? compiled found).1 ih

theorem InOrder.take {high low : Nat} {ms : List Match} (ordered : InOrder high low ms) (n : Nat) :
    InOrder high low (ms.take n) := by
  induction ordered generalizing n with
  | nil =>
      rw [List.take_nil]
      exact .nil
  | cons first more ih =>
      cases n with
      | zero => exact .nil
      | succ n => exact .cons first (ih n)

theorem drop_eq_between_append {text : List Char} {low start stop : Nat} (hlow : low ≤ start)
    (hstart : start ≤ stop) :
    text.drop low =
      Match.between text low start ++ (Match.between text start stop ++ text.drop stop) := by
  have split {a b : Nat} (hab : a ≤ b) :
      text.drop a = Match.between text a b ++ text.drop b := by
    rw [Match.between, List.drop_take]
    have := List.take_append_drop (b - a) (text.drop a)
    rwa [List.drop_drop, Nat.add_sub_cancel' hab, eq_comm] at this
  rw [← split hstart, ← split hlow]

theorem length_between {text : List Char} {start stop : Nat} (hstop : stop ≤ text.length) :
    (Match.between text start stop).length = stop - start := by
  rw [Match.between, List.length_drop, List.length_take, Nat.min_eq_left hstop]

theorem replaced_splice (render : Match → List Char) {text : List Char} {low : Nat}
    {ms : List Match} (ordered : InOrder text.length low ms) :
    Replaced render low ms (text.drop low) (Substitution.splice text render low ms) := by
  induction ordered with
  | nil => exact .rest
  | @cons low m ms within more ih =>
      have hlow := within.low_le
      have hstart := within.start_le
      have hhigh := within.le_high
      rw [drop_eq_between_append hlow hstart, Substitution.splice, List.append_assoc]
      apply Replaced.next
      · rw [length_between (by omega)]
        omega
      · rw [length_between hhigh]
        omega
      · exact ih

/-- A line with its content and its ending: `\r\n` if the line ends so, else `\n` if it ends so, else
nothing. -/
inductive LineParts : List Char → List Char → List Char → Prop where
  | crlf {content : List Char} : LineParts (content ++ ['\r', '\n']) content ['\r', '\n']
  | lf {content : List Char} (bare : content.getLast? ≠ some '\r') :
      LineParts (content ++ ['\n']) content ['\n']
  | unended {content : List Char} (bare : content.getLast? ≠ some '\n') :
      LineParts content content []

theorem lineParts_splitEnding (line : List Char) :
    LineParts line (splitEnding line).1 (splitEnding line).2 := by
  unfold splitEnding
  split
  · next content h =>
    have hline : line = content.reverse ++ ['\r', '\n'] := by
      rw [← List.reverse_reverse line, h]
      simp
    rw [hline]
    exact .crlf
  · next content hcontent h =>
    have hline : line = content.reverse ++ ['\n'] := by
      rw [← List.reverse_reverse line, h]
      simp
    rw [hline]
    apply LineParts.lf
    rw [List.getLast?_reverse]
    intro hhead
    obtain ⟨rest, rfl⟩ := List.head?_eq_some_iff.mp hhead
    exact hcontent rest rfl
  · next hcrlf hlf =>
    apply LineParts.unended
    rw [← List.reverse_reverse line, List.getLast?_reverse]
    intro hhead
    obtain ⟨rest, h⟩ := List.head?_eq_some_iff.mp hhead
    exact hlf rest h

/-! ### Documents -/

namespace Substitution

variable {source : String} {p : Pattern} {scope : Scope} {template : String}

theorem ofText_eq_ok_of_expand {pattern replacement : String}
    (compiled : Pattern.compile pattern = .ok p)
    (expanded : Replacement.expand p.groupNames replacement = .ok template) :
    ofText pattern replacement scope = .ok ⟨p, template, scope⟩ := by
  rw [ofText, compiled]
  simp only [expanded]

theorem replaced_applyText_first (compiled : Pattern.compile source = .ok p) (template : String)
    (text : List Char) :
    Replaced (render ⟨p, template, .first⟩ text) 0 ((p.matchesOf text).take 1) text
      (applyText ⟨p, template, .first⟩ text) := by
  have ordered := ((Pattern.succession_matchesOf compiled text).inOrder compiled).take 1
  have htargets : targets ⟨p, template, .first⟩ text = (p.matchesOf text).take 1 :=
    Pattern.toList_find?_eq_take text
  rw [applyText, htargets]
  exact replaced_splice _ ordered

theorem replaced_applyText_every (compiled : Pattern.compile source = .ok p) (template : String)
    (text : List Char) :
    Replaced (render ⟨p, template, .every⟩ text) 0 (p.matchesOf text) text
      (applyText ⟨p, template, .every⟩ text) :=
  replaced_splice _ ((Pattern.succession_matchesOf compiled text).inOrder compiled)

end Substitution

namespace Document

theorem substitute_eq_ok {d : Document} {pattern replacement : String} {s : Substitution}
    (h : Substitution.ofText pattern replacement s.scope = .ok s) :
    d.substitute pattern replacement s.scope = .ok (ofLines (d.lines.map s.applyLine)) := by
  rw [substitute, h]

theorem substitute_eq_error_iff_ofText {d : Document} {pattern replacement : String}
    {scope : Scope} {e : SelectionError} :
    d.substitute pattern replacement scope = .error e ↔
      Substitution.ofText pattern replacement scope = .error e := by
  unfold substitute
  cases Substitution.ofText pattern replacement scope <;> simp

end Document

end LineSelect
