import LineSelect.Proofs.Dependence
import LineSelect.Proofs.LinewiseSubstitution

/-!
Selecting and substituting in either order. Places are drawn from the lines in the same way before
and after the lines are rewritten, so the two orders agree as soon as they select the same places.
The main statement says that they do if no address searches for a pattern: what a substitution writes
cannot be seen then, not even the line feeds and the empty lines that it makes.
-/

namespace LineSelect

theorem Substitution.exists_expand_of_ofText {pattern replacement : String} {scope : Scope}
    (accepted : (ofText pattern replacement scope).toOption.isSome = true) :
    ∃ p template, Pattern.compile pattern = .ok p ∧
      Replacement.expand p.groupNames replacement = .ok template := by
  cases hcompile : Pattern.compile pattern with
  | error cause =>
      rw [ofText, hcompile] at accepted
      cases accepted
  | ok p =>
      cases hexpand : Replacement.expand p.groupNames replacement with
      | error cause =>
          rw [ofText, hcompile] at accepted
          simp only [hexpand] at accepted
          cases accepted
      | ok template => exact ⟨p, template, rfl, hexpand⟩

namespace Document

theorem linesAt_map (d : Document) (f : String → String) (indices : List ℕ) :
    (ofLines (d.lines.map f)).linesAt indices = (d.linesAt indices).map f := by
  simp only [linesAt, ofLines, List.getElem?_map, List.map_filterMap]

theorem select_map {d : Document} {f : String → String} {exprs : List String}
    (same : (ofLines (d.lines.map f)).lineNumbers exprs = d.lineNumbers exprs) :
    (ofLines (d.lines.map f)).select exprs =
      (d.select exprs).map fun selected => ofLines (selected.lines.map f) := by
  rw [select, select, same]
  cases d.lineNumbers exprs with
  | error e => rfl
  | ok indices =>
      change Except.ok (ofLines ((ofLines (d.lines.map f)).linesAt indices)) = _
      rw [linesAt_map]
      rfl

theorem lineNumbers_map {exprs : List String} (fixed : EveryAddress (fun a => ¬ a.isSearch) exprs)
    (d : Document) (f : String → String) :
    (ofLines (d.lines.map f)).lineNumbers exprs = d.lineNumbers exprs :=
  selectIndices_eq_of_length fixed (List.length_map f)

/-- If no address searches, a substitution that is accepted changes no place that is selected, and
selecting before it or after it gives the same lines, or fails for the same cause. -/
theorem substitute_select_comm {pattern replacement : String} {p : Pattern} {template : String}
    (compiled : Pattern.compile pattern = .ok p)
    (expanded : Replacement.expand p.groupNames replacement = .ok template)
    {exprs : List String} (fixed : EveryAddress (fun a => ¬ a.isSearch) exprs)
    (d : Document) (scope : Scope) :
    ∃ d', d.substitute pattern replacement scope = .ok d' ∧
      d'.lineNumbers exprs = d.lineNumbers exprs ∧
      ((∃ e, d'.select exprs = .error e ∧ d.select exprs = .error e) ∨
        ∃ selected result, d.select exprs = .ok selected ∧
          selected.substitute pattern replacement scope = .ok result ∧
          d'.select exprs = .ok result) := by
  have haccepted : Substitution.ofText pattern replacement scope = .ok ⟨p, template, scope⟩ :=
    Substitution.ofText_eq_ok_of_expand compiled expanded
  have hsubstitute : ∀ d : Document, d.substitute pattern replacement scope =
      .ok (ofLines (d.lines.map (Substitution.applyLine ⟨p, template, scope⟩))) :=
    fun d => substitute_eq_ok (s := ⟨p, template, scope⟩) haccepted
  have hsame := lineNumbers_map fixed d (Substitution.applyLine ⟨p, template, scope⟩)
  refine ⟨_, hsubstitute d, hsame, ?_⟩
  rw [select_map hsame]
  cases d.select exprs with
  | error e => exact .inl ⟨e, rfl, rfl⟩
  | ok selected => exact .inr ⟨selected, _, rfl, hsubstitute selected, rfl⟩

theorem substitute_select_comm_line_feed :
    ∃ d', (ofLines ["b\r\n", "abc", "c\n"]).substitute "b+" "\\n" .every = .ok d' ∧
      d'.lineNumbers ["2;+", "$-1"] = .ok [1, 2, 1] ∧
      ∃ selected result, (ofLines ["b\r\n", "abc", "c\n"]).select ["2;+", "$-1"] = .ok selected ∧
        selected.substitute "b+" "\\n" .every = .ok result ∧
        d'.select ["2;+", "$-1"] = .ok result := by
  have haccepted : (Substitution.ofText "b+" "\\n" .every).toOption.isSome = true := by
    decide +kernel
  have fixed : EveryAddress (fun a => ¬ a.isSearch) ["2;+", "$-1"] := by decide +kernel
  obtain ⟨p, template, compiled, expanded⟩ := Substitution.exists_expand_of_ofText haccepted
  have hplaces : (ofLines ["b\r\n", "abc", "c\n"]).lineNumbers ["2;+", "$-1"] = .ok [1, 2, 1] := by
    decide +kernel
  obtain ⟨d', hd', hsame, hboth⟩ := substitute_select_comm compiled expanded fixed
    (ofLines ["b\r\n", "abc", "c\n"]) .every
  refine ⟨d', hd', hsame.trans hplaces, ?_⟩
  rcases hboth with ⟨e, -, he⟩ | hboth
  · rw [select, hplaces] at he
    cases he
  · exact hboth

end Document

end LineSelect
