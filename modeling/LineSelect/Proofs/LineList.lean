import LineSelect.Document
import LineSelect.Proofs.Resolution

/-!
The lists of lines that texts are cut into. A text has exactly one list of lines that are not empty,
hold a line feed at most at their end, and of which only the last may lack one. A document that is
given by its lines shows these lines again when its text is cut anew just if they are of that shape,
and a selection loses it only where a last line without a line feed comes before another.
-/

namespace LineSelect

open LineSelect.Text

/-- Lines as a text is cut into them: none is empty, a line feed stands only at the end of a line,
and every line but the last one has it. -/
structure IsLineList (lines : List String) : Prop where
  nonempty : ∀ line ∈ lines, line ≠ ""
  inner : ∀ line ∈ lines, '\n' ∉ line.toList.dropLast
  ended : ∀ line ∈ lines.dropLast, line.toList.getLast? = some '\n'

namespace Text

/-- The same shape, built up from the last line. -/
inductive Cut : List (List Char) → Prop where
  | nil : Cut []
  | unended {body : List Char} (nonempty : body ≠ []) (unbroken : '\n' ∉ body) : Cut [body]
  | ended {body : List Char} {lines : List (List Char)} (unbroken : '\n' ∉ body)
      (more : Cut lines) : Cut ((body ++ ['\n']) :: lines)

theorem cut_splitLines (s : List Char) : Cut (splitLines s) := by
  induction s with
  | nil => exact .nil
  | cons c s ih =>
      rw [splitLines]
      split
      · next hc =>
        subst hc
        have hempty : '\n' ∉ ([] : List Char) := by simp
        exact .ended hempty ih
      · next hc =>
        have hunbroken : ∀ {body : List Char}, '\n' ∉ body → '\n' ∉ c :: body := by
          intro body hbody
          simp [hbody, Ne.symm hc]
        cases hlines : splitLines s with
        | nil => exact .unended (by simp) (hunbroken (by simp))
        | cons line lines =>
            rw [hlines] at ih
            cases ih with
            | unended _ unbroken => exact .unended (by simp) (hunbroken unbroken)
            | ended unbroken more => exact .ended (hunbroken unbroken) more

theorem splitLines_of_notMem {body : List Char} (nonempty : body ≠ []) (unbroken : '\n' ∉ body) :
    splitLines body = [body] := by
  induction body with
  | nil => exact absurd rfl nonempty
  | cons c body ih =>
      rw [List.mem_cons, not_or] at unbroken
      obtain ⟨hc, hbody⟩ := unbroken
      rw [splitLines, if_neg (Ne.symm hc)]
      cases body with
      | nil => rfl
      | cons d body => rw [ih (by simp) hbody]

theorem splitLines_append_lineFeed {body : List Char} (unbroken : '\n' ∉ body) (s : List Char) :
    splitLines (body ++ '\n' :: s) = (body ++ ['\n']) :: splitLines s := by
  induction body with
  | nil => rfl
  | cons c body ih =>
      rw [List.mem_cons, not_or] at unbroken
      obtain ⟨hc, hbody⟩ := unbroken
      rw [List.cons_append, splitLines, if_neg (Ne.symm hc), ih hbody]
      rfl

theorem Cut.splitLines_flatten {lines : List (List Char)} (cut : Cut lines) :
    splitLines lines.flatten = lines := by
  induction cut with
  | nil => rfl
  | unended nonempty unbroken =>
      rw [List.flatten_singleton]
      exact splitLines_of_notMem nonempty unbroken
  | @ended body lines unbroken more ih =>
      rw [List.flatten_cons, List.append_assoc, List.singleton_append,
        splitLines_append_lineFeed unbroken, ih]

theorem notMem_of_notMem_dropLast {line : List Char} (inner : '\n' ∉ line.dropLast)
    (unended : line.getLast? ≠ some '\n') : '\n' ∉ line := by
  rcases List.eq_nil_or_concat' line with rfl | ⟨body, last, rfl⟩
  · simp
  · rw [List.dropLast_concat] at inner
    rw [List.getLast?_concat] at unended
    rw [List.mem_append, List.mem_singleton, not_or]
    exact ⟨inner, fun h => unended (h ▸ rfl)⟩

theorem cut_cons_iff {line : List Char} {lines : List (List Char)} :
    Cut (line :: lines) ↔ line ≠ [] ∧ '\n' ∉ line.dropLast ∧
      (lines ≠ [] → line.getLast? = some '\n') ∧ Cut lines := by
  constructor
  · intro cut
    cases cut with
    | unended nonempty unbroken =>
        exact ⟨nonempty, fun h => unbroken (List.dropLast_subset _ h), fun h => absurd rfl h,
          .nil⟩
    | ended unbroken more => exact ⟨by simp, by simpa using unbroken, fun _ => by simp, more⟩
  · rintro ⟨nonempty, inner, ended, more⟩
    by_cases hend : line.getLast? = some '\n'
    · obtain ⟨body, rfl⟩ := List.getLast?_eq_some_iff.mp hend
      exact .ended (by simpa using inner) more
    · obtain rfl : lines = [] := by
        by_contra hne
        exact hend (ended hne)
      exact .unended nonempty (notMem_of_notMem_dropLast inner hend)

theorem splitLines_eq_iff {s : List Char} {lines : List (List Char)} :
    splitLines s = lines ↔ lines.flatten = s ∧ Cut lines := by
  constructor
  · rintro rfl
    exact ⟨flatten_splitLines s, cut_splitLines s⟩
  · rintro ⟨rfl, cut⟩
    exact cut.splitLines_flatten

end Text

theorem isLineList_nil : IsLineList [] :=
  ⟨by simp, by simp, by simp⟩

theorem forall_mem_dropLast_cons_iff {α : Type} {P : α → Prop} {a : α} {l : List α} :
    (∀ b ∈ (a :: l).dropLast, P b) ↔ (l ≠ [] → P a) ∧ ∀ b ∈ l.dropLast, P b := by
  cases l <;> simp

theorem isLineList_cons_iff {line : String} {lines : List String} :
    IsLineList (line :: lines) ↔ line ≠ "" ∧ '\n' ∉ line.toList.dropLast ∧
      (lines ≠ [] → line.toList.getLast? = some '\n') ∧ IsLineList lines := by
  constructor
  · rintro ⟨nonempty, inner, ended⟩
    rw [List.forall_mem_cons] at nonempty inner
    rw [forall_mem_dropLast_cons_iff] at ended
    exact ⟨nonempty.1, inner.1, ended.1, nonempty.2, inner.2, ended.2⟩
  · rintro ⟨nonempty, inner, ended, more⟩
    exact ⟨List.forall_mem_cons.mpr ⟨nonempty, more.nonempty⟩,
      List.forall_mem_cons.mpr ⟨inner, more.inner⟩,
      forall_mem_dropLast_cons_iff.mpr ⟨ended, more.ended⟩⟩

theorem IsLineList.replace_last {front : List String} {last line : String}
    (h : IsLineList (front ++ [last])) (nonempty : line ≠ "") (unbroken : '\n' ∉ line.toList) :
    IsLineList (front ++ [line]) := by
  refine ⟨?_, ?_, ?_⟩
  · intro l hl
    rcases List.mem_append.mp hl with hl | hl
    · exact h.nonempty l (List.mem_append_left _ hl)
    · exact List.mem_singleton.mp hl ▸ nonempty
  · intro l hl
    rcases List.mem_append.mp hl with hl | hl
    · exact h.inner l (List.mem_append_left _ hl)
    · rw [List.mem_singleton.mp hl]
      exact fun hmem => unbroken (List.dropLast_subset _ hmem)
  · have hended := h.ended
    rw [List.dropLast_concat] at hended ⊢
    exact hended

theorem isLineList_iff_cut {lines : List String} :
    IsLineList lines ↔ Cut (lines.map String.toList) := by
  induction lines with
  | nil => exact ⟨fun _ => .nil, fun _ => isLineList_nil⟩
  | cons line lines ih =>
      rw [isLineList_cons_iff, ih, List.map_cons, cut_cons_iff]
      simp

namespace Document

theorem lines_ofText_eq_iff {text : String} {lines : List String} :
    (ofText text).lines = lines ↔ String.join lines = text ∧ IsLineList lines := by
  have hlines : (ofText text).lines = lines ↔
      splitLines text.toList = lines.map String.toList := by
    constructor
    · rintro rfl
      simp [ofText, Function.comp_def]
    · intro h
      simp [ofText, h, Function.comp_def]
  have hjoin : String.join lines = text ↔ (lines.map String.toList).flatten = text.toList := by
    rw [← String.toList_inj, String.toList_join, List.flatMap_def]
  rw [hlines, splitLines_eq_iff, hjoin, isLineList_iff_cut]

theorem isLineList_ofText (text : String) : IsLineList (ofText text).lines :=
  (lines_ofText_eq_iff.mp rfl).2

theorem lines_ofText_text_iff {lines : List String} :
    (ofText (ofLines lines).text).lines = lines ↔ IsLineList lines := by
  rw [lines_ofText_eq_iff]
  exact ⟨fun h => h.2, fun h => ⟨rfl, h⟩⟩

theorem toList_eq_of_lines_concat {text last : String} {front : List String}
    (h : (ofText text).lines = front ++ [last]) :
    text.toList = front.flatMap String.toList ++ last.toList := by
  conv_lhs => rw [← text_ofText text, Document.text, h]
  simp

theorem ends_iff_of_getElem? {text line : String} {i : ℕ}
    (h : (ofText text).lines[i]? = some line) :
    line.toList.getLast? = some '\n' ↔
      text.toList.getLast? = some '\n' ∨ i + 1 ≠ (ofText text).length := by
  obtain ⟨nonempty, -, ended⟩ := isLineList_ofText text
  obtain ⟨hi, hline⟩ := List.getElem?_eq_some_iff.mp h
  by_cases hlast : i + 1 = (ofText text).length
  -- The last line is not empty, so the text ends with the character that this line ends with.
  · have hsplit : (ofText text).lines = (ofText text).lines.take i ++ [line] := by
      rw [← hline, List.take_append_getElem, hlast]
      exact List.take_length.symm
    have hne : line.toList ≠ [] := by
      simpa using nonempty line (List.mem_of_getElem? h)
    rw [toList_eq_of_lines_concat hsplit, List.getLast?_append_of_ne_nil _ hne]
    simp [hlast]
  · have hmem : line ∈ (ofText text).lines.dropLast := by
      refine List.mem_of_getElem? (i := i) ?_
      rw [List.getElem?_dropLast, if_pos (by simp only [length] at hlast; omega), h]
    simp [ended line hmem, hlast]

theorem drawn_linesAt {d : Document} {indices : List ℕ}
    (inside : ∀ i ∈ indices, i < d.lines.length) :
    List.Forall₂ (fun i line => d.lines[i]? = some line) indices (d.linesAt indices) := by
  induction indices with
  | nil => exact .nil
  | cons i indices ih =>
      rw [List.forall_mem_cons] at inside
      have hline : d.lines[i]? = some d.lines[i] := List.getElem?_eq_getElem inside.1
      rw [linesAt, List.filterMap_cons_some hline]
      exact .cons hline (ih inside.2)

/-- Lines drawn from a text are in the shape of a text's lines, unless the text's last line, without
a line feed, comes before another. -/
theorem isLineList_iff_of_drawn {text : String} {indices : List ℕ} {selected : List String}
    (drawn : List.Forall₂ (fun i line => (ofText text).lines[i]? = some line) indices selected) :
    IsLineList selected ↔ text.toList.getLast? = some '\n' ∨
      ∀ i ∈ indices.dropLast, i + 1 ≠ (ofText text).length := by
  obtain ⟨nonempty, inner, -⟩ := isLineList_ofText text
  induction drawn with
  | nil => simp [isLineList_nil]
  | @cons i line indices selected hline drawn ih =>
      have hmem := List.mem_of_getElem? hline
      have hrest : selected ≠ [] ↔ indices ≠ [] := by
        cases drawn <;> simp
      rw [isLineList_cons_iff, ih, ends_iff_of_getElem? hline, forall_mem_dropLast_cons_iff, hrest]
      -- If the text ends with a line feed, all its lines do, and nothing is asked of the places.
      by_cases hend : text.toList.getLast? = some '\n'
      · simp [hend, nonempty line hmem, inner line hmem]
      · simp only [hend, false_or]
        exact ⟨fun h => h.2.2, fun h => ⟨nonempty line hmem, inner line hmem, h⟩⟩

/-- How the lines of a document and its text go together, in three parts. A text is cut into the
only list of lines of its shape that makes it up. A list of lines comes back when its text is cut
just if it has that shape. And so do the lines of a selection, unless the text's last line, without
a line feed, is selected somewhere before the end. -/
theorem lines_agree_with_text :
    (∀ text lines, (ofText text).lines = lines ↔ String.join lines = text ∧ IsLineList lines) ∧
    (∀ lines, (ofText (ofLines lines).text).lines = lines ↔ IsLineList lines) ∧
    ∀ text exprs selected, (ofText text).select exprs = .ok selected →
      ∃ indices, (ofText text).lineNumbers exprs = .ok indices ∧
        List.Forall₂ (fun i line => (ofText text).lines[i]? = some line) indices selected.lines ∧
        ((ofText selected.text).lines = selected.lines ↔
          text.toList.getLast? = some '\n' ∨
            ∀ i ∈ indices.dropLast, i + 1 ≠ (ofText text).length) := by
  refine ⟨fun _ _ => lines_ofText_eq_iff, fun _ => lines_ofText_text_iff, ?_⟩
  intro text exprs selected h
  rw [select] at h
  split at h
  · cases h
  · next indices hindices =>
    obtain rfl := Except.ok.inj h
    have drawn := drawn_linesAt (d := ofText text) (lt_length_of_selectIndices hindices)
    exact ⟨indices, hindices, drawn, lines_ofText_text_iff.trans (isLineList_iff_of_drawn drawn)⟩

/-- The last of two lines has no line feed: selected first, it runs into the other one. -/
theorem lines_agree_with_text_unended :
    (ofText "a\nb").select ["$", "1"] = .ok (ofLines ["b", "a\n"]) ∧
      (ofText (ofLines ["b", "a\n"]).text).lines ≠ ["b", "a\n"] ∧
      (ofText "a\nb").select ["1", "$"] = .ok (ofLines ["a\n", "b"]) ∧
      (ofText (ofLines ["a\n", "b"]).text).lines = ["a\n", "b"] := by
  have hfirst : (ofText "a\nb").lineNumbers ["$", "1"] = .ok [1, 0] := by decide +kernel
  have hlast : (ofText "a\nb").lineNumbers ["1", "$"] = .ok [0, 1] := by decide +kernel
  have hselect : (ofText "a\nb").select ["$", "1"] = .ok (ofLines ["b", "a\n"]) := by
    rw [select, hfirst]
    rfl
  have hselect' : (ofText "a\nb").select ["1", "$"] = .ok (ofLines ["a\n", "b"]) := by
    rw [select, hlast]
    rfl
  refine ⟨hselect, ?_, hselect', ?_⟩
  · obtain ⟨indices, hindices, -, hiff⟩ := lines_agree_with_text.2.2 _ _ _ hselect
    obtain rfl := Except.ok.inj (hfirst.symm.trans hindices)
    exact fun h => absurd (hiff.mp h) (by decide +kernel)
  · obtain ⟨indices, hindices, -, hiff⟩ := lines_agree_with_text.2.2 _ _ _ hselect'
    obtain rfl := Except.ok.inj (hlast.symm.trans hindices)
    exact hiff.mpr (by decide +kernel)

end Document

end LineSelect
