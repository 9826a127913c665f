import Mathlib.Data.List.Forall2
import LineSelect.Proofs.Dependence
import LineSelect.Proofs.LineList
import LineSelect.Proofs.LinewiseSubstitution

/-!
Line endings have no say. Two documents whose lines have the same contents, each with endings of its
own, give the same selection or the same error for all expressions, and a substitution writes the
same contents into both, before the endings that were there. So a text may be written with line feeds
or with carriage returns before them, and with or without an ending after its last line.
-/

namespace LineSelect

open LineSelect.Text

/-! ### Lines with the same content -/

theorem LineParts.splitEnding_eq {line content ending : List Char}
    (parts : LineParts line content ending) : splitEnding line = (content, ending) := by
  cases parts with
  | crlf => simp [splitEnding]
  | lf bare =>
      have hreverse : (content ++ ['\n']).reverse = '\n' :: content.reverse := by simp
      rw [splitEnding, hreverse]
      split
      · next rest h =>
        obtain ⟨-, hrest⟩ := List.cons.inj h
        rw [← List.head?_reverse, hrest] at bare
        exact absurd rfl bare
      · next rest _ h =>
        obtain ⟨-, rfl⟩ := List.cons.inj h
        rw [List.reverse_reverse]
      · next _ h => exact absurd rfl (h content.reverse)
  | unended bare =>
      rw [← List.head?_reverse] at bare
      rw [splitEnding]
      split
      · next rest h =>
        rw [h] at bare
        exact absurd rfl bare
      · next rest _ h =>
        rw [h] at bare
        exact absurd rfl bare
      · rfl

theorem LineParts.content_eq {line : String} {chars ending : List Char}
    (parts : LineParts line.toList chars ending) : content line = chars :=
  congrArg Prod.fst parts.splitEnding_eq

theorem LineParts.append_left {line content ending : List Char}
    (parts : LineParts line content ending) (nonempty : content ≠ []) (front : List Char) :
    LineParts (front ++ line) (front ++ content) ending := by
  cases parts with
  | crlf =>
      rw [← List.append_assoc]
      exact .crlf
  | lf bare =>
      rw [← List.append_assoc]
      apply LineParts.lf
      rwa [List.getLast?_append_of_ne_nil _ nonempty]
  | unended bare =>
      apply LineParts.unended
      rwa [List.getLast?_append_of_ne_nil _ nonempty]

theorem LineParts.notMem_content {line content ending : List Char}
    (parts : LineParts line content ending) (inner : '\n' ∉ line.dropLast) : '\n' ∉ content := by
  cases parts with
  | crlf =>
      intro h
      exact inner (by simp [h])
  | lf bare => simpa using inner
  | unended bare => exact notMem_of_notMem_dropLast inner bare

/-- Two lines that differ at most in their endings. -/
def SameContent (a b : String) : Prop :=
  ∃ content ending ending', LineParts a.toList content ending ∧ LineParts b.toList content ending'

theorem sameContent_iff {a b : String} : SameContent a b ↔ content a = content b := by
  constructor
  · rintro ⟨chars, _, _, ha, hb⟩
    rw [ha.content_eq, hb.content_eq]
  · intro h
    refine ⟨content a, ending a, ending b, lineParts_splitEnding a.toList, ?_⟩
    rw [h]
    exact lineParts_splitEnding b.toList

/-- Two documents of as many lines, of which the lines differ at most in their endings. -/
def Document.SameContents (a b : Document) : Prop :=
  List.Forall₂ SameContent a.lines b.lines

theorem Document.sameContents_iff {a b : Document} :
    a.SameContents b ↔ a.lines.map content = b.lines.map content := by
  have hrelation : SameContent = fun line other => content line = content other := by
    funext line other
    exact propext sameContent_iff
  have hequal : ∀ x y : List (List Char), x = y ↔ List.Forall₂ (· = ·) x y := by
    intro x y
    rw [List.forall₂_eq_eq_eq]
  rw [SameContents, hrelation, hequal, List.forall₂_map_left_iff, List.forall₂_map_right_iff]

/-! ### Selecting and substituting -/

namespace Document

variable {a b : Document}

theorem lineNumbers_eq_of_sameContents (same : a.SameContents b) (exprs : List String) :
    a.lineNumbers exprs = b.lineNumbers exprs :=
  selectIndices_eq_of_contents (sameContents_iff.mp same)

/-- The documents `a'` and `b'` come from `a` and `b` in the same way: where two lines had the same
content, both have got the same text, and each has kept its own ending. -/
structure RewrittenAlike (a b a' b' : Document) : Prop where
  length_left : a'.length = a.length
  length_right : b'.length = b.length
  lines : ∀ (i : ℕ) (line other : String), a.lines[i]? = some line → b.lines[i]? = some other →
    ∃ content replaced ending ending', LineParts line.toList content ending ∧
      LineParts other.toList content ending' ∧
      a'.lines[i]? = some (String.ofList (replaced ++ ending)) ∧
      b'.lines[i]? = some (String.ofList (replaced ++ ending'))

theorem substitute_of_sameContents (same : a.SameContents b) (pattern replacement : String)
    (scope : Scope) :
    (∃ e, a.substitute pattern replacement scope = .error e ∧
      b.substitute pattern replacement scope = .error e) ∨
    ∃ a' b', a.substitute pattern replacement scope = .ok a' ∧
      b.substitute pattern replacement scope = .ok b' ∧ RewrittenAlike a b a' b' := by
  cases haccepted : Substitution.ofText pattern replacement scope with
  | error e =>
      left
      exact ⟨e, substitute_eq_error_iff_ofText.mpr haccepted,
        substitute_eq_error_iff_ofText.mpr haccepted⟩
  | ok s =>
      right
      refine ⟨ofLines (a.lines.map s.applyLine), ofLines (b.lines.map s.applyLine),
        by rw [substitute, haccepted], by rw [substitute, haccepted],
        ⟨List.length_map _, List.length_map _, ?_⟩⟩
      intro i line other hline hother
      have hcontent : content line = content other := by
        have hmap := congrArg (·[i]?) (sameContents_iff.mp same)
        simpa [hline, hother] using hmap
      refine ⟨content line, s.applyText (content line), ending line, ending other,
        lineParts_splitEnding line.toList, ?_, ?_, ?_⟩
      · rw [hcontent]
        exact lineParts_splitEnding other.toList
      · simp only [ofLines, List.getElem?_map, hline, Option.map_some, Substitution.applyLine]
      · simp only [ofLines, List.getElem?_map, hother, Option.map_some, Substitution.applyLine,
          hcontent]

end Document

/-! ### Writing a text with other endings -/

/-- How lines are ended. -/
inductive LineBreak where
  | lf
  | crlf
deriving DecidableEq, Repr

def LineBreak.chars : LineBreak → List Char
  | .lf => ['\n']
  | .crlf => ['\r', '\n']

namespace Text

/-- The text with one kind of line break in the place of both. -/
def convertBreaks (style : LineBreak) : List Char → List Char
  | [] => []
  | '\r' :: '\n' :: s => style.chars ++ convertBreaks style s
  | '\n' :: s => style.chars ++ convertBreaks style s
  | c :: s => c :: convertBreaks style s

/-- The line with its ending, if it has one, written in the given way. -/
def convertEnding (style : LineBreak) (line : List Char) : List Char :=
  (splitEnding line).1 ++ if (splitEnding line).2 = [] then [] else style.chars

variable (style : LineBreak)

theorem convertBreaks_append {kept s : List Char} (unbroken : '\n' ∉ kept)
    (apart : kept.getLast? = some '\r' → s.head? ≠ some '\n') :
    convertBreaks style (kept ++ s) = kept ++ convertBreaks style s := by
  induction kept with
  | nil => rfl
  | cons c kept ih =>
      rw [List.mem_cons, not_or] at unbroken
      have hkept : kept.getLast? = some '\r' → s.head? ≠ some '\n' := by
        intro h
        apply apart
        rw [List.getLast?_cons, h]
        rfl
      -- The first character is kept as well: a carriage return could only be lost before a line
      -- feed, and none comes next, neither in the rest that is kept nor behind it.
      have hnext : c = '\r' → (kept ++ s).head? ≠ some '\n' := by
        rintro rfl
        cases kept with
        | nil => exact apart rfl
        | cons d kept =>
            intro h
            exact unbroken.2 (by simp [Option.some.inj h])
      rw [List.cons_append, List.cons_append, convertBreaks, ih unbroken.2 hkept]
      · intro rest hc hrest
        exact hnext hc (by rw [hrest]; rfl)
      · intro hc
        exact unbroken.1 hc.symm

theorem convertBreaks_of_notMem {body : List Char} (unbroken : '\n' ∉ body) :
    convertBreaks style body = body := by
  have h := convertBreaks_append style (s := []) unbroken (by simp)
  simpa [convertBreaks] using h

theorem convertBreaks_line {body : List Char} (unbroken : '\n' ∉ body) (s : List Char) :
    ∃ kept, '\n' ∉ kept ∧ convertEnding style (body ++ ['\n']) = kept ++ style.chars ∧
      convertBreaks style (body ++ '\n' :: s) =
        (kept ++ style.chars) ++ convertBreaks style s := by
  by_cases hreturn : body.getLast? = some '\r'
  · obtain ⟨kept, rfl⟩ := List.getLast?_eq_some_iff.mp hreturn
    have hkept : '\n' ∉ kept := fun h => unbroken (by simp [h])
    have hending : splitEnding (kept ++ ['\r', '\n']) = (kept, ['\r', '\n']) :=
      LineParts.crlf.splitEnding_eq
    refine ⟨kept, hkept, by simp [convertEnding, hending], ?_⟩
    rw [List.append_assoc, List.append_assoc]
    exact convertBreaks_append style hkept (by simp)
  · have hending : splitEnding (body ++ ['\n']) = (body, ['\n']) :=
      (LineParts.lf hreturn).splitEnding_eq
    refine ⟨body, unbroken, by simp [convertEnding, hending], ?_⟩
    rw [List.append_assoc]
    exact convertBreaks_append style unbroken fun h => absurd h hreturn

theorem cut_convertEnding {lines : List (List Char)} (cut : Cut lines) :
    Cut (lines.map (convertEnding style)) ∧
      (lines.map (convertEnding style)).flatten = convertBreaks style lines.flatten := by
  induction cut with
  | nil => exact ⟨.nil, rfl⟩
  | @unended body nonempty unbroken =>
      have hbare : body.getLast? ≠ some '\n' := fun h => unbroken (List.mem_of_getLast? h)
      have hkept : convertEnding style body = body := by
        simp [convertEnding, (LineParts.unended hbare).splitEnding_eq]
      rw [List.map_singleton, hkept, List.flatten_singleton, convertBreaks_of_notMem style unbroken]
      exact ⟨.unended nonempty unbroken, rfl⟩
  | @ended body lines unbroken more ih =>
      obtain ⟨kept, hkept, hline, htext⟩ := convertBreaks_line style unbroken lines.flatten
      rw [List.map_cons, List.flatten_cons, List.flatten_cons, hline, ih.2, List.append_assoc body,
        List.singleton_append, htext]
      refine ⟨?_, rfl⟩
      cases style with
      | lf => exact .ended hkept ih.1
      | crlf =>
          have hreturn : '\n' ∉ kept ++ ['\r'] := by simp [hkept]
          simpa [LineBreak.chars] using Cut.ended hreturn ih.1

theorem splitLines_convertBreaks (s : List Char) :
    splitLines (convertBreaks style s) = (splitLines s).map (convertEnding style) := by
  obtain ⟨cut, htext⟩ := cut_convertEnding style (cut_splitLines s)
  rw [flatten_splitLines] at htext
  exact splitLines_eq_iff.mpr ⟨htext, cut⟩

example : splitLines (convertBreaks .crlf "a\r\nb\n\n\rc".toList) =
    ["a\r\n", "b\r\n", "\r\n", "\rc"].map String.toList := by
  decide

theorem splitEnding_convertEnding {line : List Char}
    (bare : (splitEnding line).1.getLast? ≠ some '\r') :
    (splitEnding (convertEnding style line)).1 = (splitEnding line).1 := by
  rw [convertEnding]
  split
  · next h =>
    have hline : (splitEnding line).1 = line := by
      simpa [h] using splitEnding_append line
    rw [List.append_nil, hline, hline]
  · cases style with
    -- A carriage return at the end of the content would become a part of the ending.
    | lf => rw [LineBreak.chars, (LineParts.lf bare).splitEnding_eq]
    | crlf => rw [LineBreak.chars, LineParts.crlf.splitEnding_eq]

end Text

namespace Document

theorem lines_convertBreaks (style : LineBreak) (text : String) :
    (ofText (String.ofList (convertBreaks style text.toList))).lines =
      (ofText text).lines.map fun line => String.ofList (convertEnding style line.toList) := by
  simp only [ofText, String.toList_ofList, splitLines_convertBreaks, List.map_map]
  refine List.map_congr_left fun line _ => ?_
  simp only [Function.comp_apply, String.toList_ofList]

theorem sameContents_convertBreaks {text : String}
    (bare : ∀ line ∈ (ofText text).lines, (content line).getLast? ≠ some '\r')
    (style : LineBreak) :
    (ofText text).SameContents (ofText (String.ofList (convertBreaks style text.toList))) := by
  rw [sameContents_iff, lines_convertBreaks, List.map_map]
  refine List.map_congr_left fun line hline => ?_
  simp only [Function.comp_apply, content, String.toList_ofList]
  exact (splitEnding_convertEnding style (bare line hline)).symm

theorem sameContents_without_ending {text : String} {body ending : List Char}
    (parts : LineParts text.toList body ending)
    (full : ∀ last ∈ (ofText text).lines.getLast?, content last ≠ []) :
    (ofText text).SameContents (ofText (String.ofList body)) := by
  rcases List.eq_nil_or_concat' (ofText text).lines with hnil | ⟨front, last, hlines⟩
  · have htext : text.toList = [] := by
      rw [← text_ofText text, Document.text, hnil]
      rfl
    rw [htext] at parts
    obtain ⟨rfl, -⟩ := Prod.mk.inj parts.splitEnding_eq
    rw [← htext, String.ofList_toList]
    exact sameContents_iff.mpr rfl
  · have shape : IsLineList (front ++ [last]) := hlines ▸ isLineList_ofText text
    have hlast : LineParts last.toList (content last) (Text.ending last) :=
      lineParts_splitEnding last.toList
    have hfull : content last ≠ [] := full last (by rw [hlines]; simp)
    have hunbroken : '\n' ∉ content last := hlast.notMem_content (shape.inner last (by simp))
    have htext := toList_eq_of_lines_concat hlines
    have hbody : body = front.flatMap String.toList ++ content last := by
      have hwhole := (hlast.append_left hfull (front.flatMap String.toList)).splitEnding_eq
      rw [← htext, parts.splitEnding_eq] at hwhole
      exact (Prod.mk.inj hwhole).1
    have hshort : (ofText (String.ofList body)).lines =
        front ++ [String.ofList (content last)] := by
      refine lines_ofText_eq_iff.mpr ⟨?_, shape.replace_last (by simpa using hfull) ?_⟩
      · apply String.toList_inj.mp
        simp [String.toList_join, hbody]
      · simpa using hunbroken
    have hbare : (content last).getLast? ≠ some '\n' :=
      fun h => hunbroken (List.mem_of_getLast? h)
    have hcontent : content (String.ofList (content last)) = content last := by
      rw [content, String.toList_ofList, (LineParts.unended hbare).splitEnding_eq]
    rw [sameContents_iff, hlines, hshort, List.map_append, List.map_append, List.map_singleton,
      List.map_singleton, hcontent]

/-- Line endings have no say, in three parts. Documents whose lines have the same contents give the
same places, or the same error, for all expressions, and substitutions refuse both or rewrite both
alike. A text may be written with line breaks of one kind, if no content ends with a carriage return.
And it may lose its last ending, if there is a content before it. -/
theorem endings_irrelevant :
    (∀ a b : Document, a.SameContents b →
      (∀ exprs, a.lineNumbers exprs = b.lineNumbers exprs) ∧
      ∀ pattern replacement scope,
        (∃ e, a.substitute pattern replacement scope = .error e ∧
          b.substitute pattern replacement scope = .error e) ∨
        ∃ a' b', a.substitute pattern replacement scope = .ok a' ∧
          b.substitute pattern replacement scope = .ok b' ∧ RewrittenAlike a b a' b') ∧
    (∀ text : String, (∀ line ∈ (ofText text).lines, ∀ content ending,
        LineParts line.toList content ending → content.getLast? ≠ some '\r') →
      ∀ style exprs, (ofText (String.ofList (convertBreaks style text.toList))).lineNumbers exprs =
        (ofText text).lineNumbers exprs) ∧
    ∀ (text : String) (body ending : List Char), LineParts text.toList body ending →
      (∀ last ∈ (ofText text).lines.getLast?, ∀ ending, ¬ LineParts last.toList [] ending) →
      ∀ exprs, (ofText (String.ofList body)).lineNumbers exprs =
        (ofText text).lineNumbers exprs := by
  refine ⟨fun a b same => ⟨lineNumbers_eq_of_sameContents same, substitute_of_sameContents same⟩,
    ?_, ?_⟩
  · intro text bare style exprs
    have same := sameContents_convertBreaks
      (fun line hline => bare line hline _ _ (lineParts_splitEnding line.toList)) style
    exact (lineNumbers_eq_of_sameContents same exprs).symm
  · intro text body ending parts full exprs
    have same := sameContents_without_ending parts fun last hlast hcontent =>
      full last hlast (Text.ending last) (hcontent ▸ lineParts_splitEnding last.toList)
    exact (lineNumbers_eq_of_sameContents same exprs).symm

theorem endings_irrelevant_searches :
    ((ofLines ["a", "ab\r\n"]).SameContents (ofLines ["a\r\n", "ab\n"]) ∧
      (ofLines ["a\r\n", "ab\n"]).lineNumbers ["/b$/", "1;."] = .ok [1, 0]) ∧
    (ofText (String.ofList (convertBreaks .crlf "a\n\r\nb".toList))).lineNumbers ["/^$/;+"] =
      (ofText "a\n\r\nb").lineNumbers ["/^$/;+"] ∧
    (ofText "a\nb").lineNumbers ["/b$/"] = (ofText "a\nb\r\n").lineNumbers ["/b$/"] := by
  obtain ⟨alike, convert, shorten⟩ := endings_irrelevant
  have same : (ofLines ["a", "ab\r\n"]).SameContents (ofLines ["a\r\n", "ab\n"]) :=
    sameContents_iff.mpr (by decide +kernel)
  have bare : ∀ line ∈ (ofText "a\n\r\nb").lines, (content line).getLast? ≠ some '\r' := by
    decide +kernel
  have full : ∀ last ∈ (ofText "a\nb\r\n").lines.getLast?, content last ≠ [] := by
    decide +kernel
  refine ⟨⟨same, ?_⟩, ?_, ?_⟩
  · rw [← (alike _ _ same).1]
    decide +kernel
  · apply convert
    intro line hline chars ending parts
    exact parts.content_eq ▸ bare line hline
  · apply shorten "a\nb\r\n" "a\nb".toList "\r\n".toList
    · exact lineParts_splitEnding "a\nb\r\n".toList
    · intro last hlast ending parts
      exact full last hlast parts.content_eq

end Document

end LineSelect
