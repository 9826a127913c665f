import LineSelect.Document
import LineSelect.Proofs.Resolution

/-!
What a selection depends on. Of the lines, resolving uses no more than their number and the lines
that the addresses mean, so two lists of lines on which all addresses agree give the same selection,
or the same error. The main statement is about longer texts: lines added at the end change nothing
about a selection that succeeds and does not mention the last line.
-/

namespace LineSelect

open LineSelect.Text

/-! ### Addresses of expressions -/

/-- All addresses in the expressions satisfy `P`; an expression that cannot be read has none. -/
def EveryAddress (P : Address → Prop) (exprs : List String) : Prop :=
  ∀ expr ∈ exprs, ∀ range, Range.parse expr = .ok range → ∀ a ∈ range.addresses, P a

namespace EveryAddress

variable {P Q : Address → Prop} {expr : String} {exprs : List String}

theorem head (every : EveryAddress P (expr :: exprs)) {range : Range}
    (hparse : Range.parse expr = .ok range) : ∀ a ∈ range.addresses, P a :=
  every expr (by simp) range hparse

theorem tail (every : EveryAddress P (expr :: exprs)) : EveryAddress P exprs :=
  fun expr hexpr => every expr (.tail _ hexpr)

theorem imp (every : EveryAddress P exprs) (h : ∀ a, P a → Q a) : EveryAddress Q exprs :=
  fun expr hexpr range hparse a ha => h a (every expr hexpr range hparse a ha)

instance [DecidablePred P] : Decidable (EveryAddress P exprs) :=
  decidable_of_iff
    (∀ expr ∈ exprs, ∀ range ∈ (Range.parse expr).toOption, ∀ a ∈ range.addresses, P a) <| by
      simp only [EveryAddress, Option.mem_def, toOption_eq_some_iff]

end EveryAddress

def Address.isSearch (a : Address) : Bool :=
  match a.position with
  | .pattern _ => true
  | _ => false

/-! ### Lines on which addresses agree -/

section Agreement

variable {lines others : List String} {exprs : List String}

theorem Address.resolve_congr {a : Address} {cursor : Int} (length : lines.length = others.length)
    (search : ∀ source, a.position = .pattern source →
      searchForward source lines cursor = searchForward source others cursor) :
    a.resolve lines cursor = a.resolve others cursor := by
  have hposition : a.position.resolve lines cursor = a.position.resolve others cursor := by
    cases h : a.position with
    | pattern source => exact search source h
    | last => simp only [Position.resolve, length]
    | line | current => rfl
  rw [resolve, resolve, hposition]

theorem Range.resolve_congr {range : Range} (length : lines.length = others.length)
    (agree : ∀ a ∈ range.addresses, ∀ cursor, a.resolve lines cursor = a.resolve others cursor)
    (cursor : Int) : range.resolve lines cursor = range.resolve others cursor := by
  have hstop : ∀ start, range.resolveStop lines start = range.resolveStop others start := by
    intro start
    unfold resolveStop
    split
    · rfl
    · next stop hstop => rw [agree stop (by simp [addresses, hstop])]
    · next stop hstop => rw [agree stop (by simp [addresses, hstop])]
  unfold resolve
  simp only [agree range.start (by simp [addresses]), hstop, length]

theorem resolveBlocks_congr (length : lines.length = others.length)
    (agree : EveryAddress (fun a => ∀ cursor, a.resolve lines cursor = a.resolve others cursor)
      exprs) (cursor : Int) :
    resolveBlocks lines cursor exprs = resolveBlocks others cursor exprs := by
  -- The first expression leaves the same cursor to both runs, so the induction is over all cursors.
  induction exprs generalizing cursor with
  | nil => rfl
  | cons expr exprs ih =>
      have hexpr : resolveExpression lines cursor expr = resolveExpression others cursor expr := by
        unfold resolveExpression
        cases hparse : Range.parse expr with
        | error e => rfl
        | ok range =>
            dsimp only
            rw [Range.resolve_congr length (agree.head hparse)]
      simp only [resolveBlocks, hexpr, ih agree.tail]

theorem selectIndices_eq_of_length (fixed : EveryAddress (fun a => ¬ a.isSearch) exprs)
    (length : lines.length = others.length) :
    selectIndices lines exprs = selectIndices others exprs := by
  have agree : EveryAddress (fun a => ∀ cursor, a.resolve lines cursor = a.resolve others cursor)
      exprs := by
    refine fixed.imp fun a hfixed cursor => Address.resolve_congr length fun source hsource => ?_
    simp [Address.isSearch, hsource] at hfixed
  rw [selectIndices, selectIndices, resolveBlocks_congr length agree]

theorem searchForward_eq_of_contents (same : lines.map content = others.map content)
    (source : String) (cursor : Int) :
    searchForward source lines cursor = searchForward source others cursor := by
  unfold searchForward
  cases Pattern.compile source with
  | error cause => rfl
  | ok pattern =>
      have hfind : ∀ list : List String,
          (list.drop cursor.toNat).findIdx? (fun line => pattern.matchesIn (content line)) =
            ((list.map content).drop cursor.toNat).findIdx? pattern.matchesIn := by
        intro list
        rw [← List.map_drop, List.findIdx?_map]
        rfl
      dsimp only
      rw [hfind lines, hfind others, same]

theorem selectIndices_eq_of_contents (same : lines.map content = others.map content) :
    selectIndices lines exprs = selectIndices others exprs := by
  have length : lines.length = others.length := by simpa using congrArg List.length same
  have agree : EveryAddress (fun a => ∀ cursor, a.resolve lines cursor = a.resolve others cursor)
      exprs := by
    intro _ _ _ _ a _ cursor
    exact Address.resolve_congr length fun source _ =>
      searchForward_eq_of_contents same source cursor
  rw [selectIndices, selectIndices, resolveBlocks_congr length agree]

end Agreement

/-! ### Lines that are added -/

section Longer

variable {lines others more : List String} {exprs : List String} {cursor : Int}

theorem Range.StopLine.imp {start line : Int} {stop : Option (Separator × Address)}
    (kept : ∀ pair ∈ stop, ∀ cursor line, pair.2.resolve lines cursor = .ok line →
      pair.2.resolve others cursor = .ok line)
    (h : StopLine lines start stop line) : StopLine others start stop line := by
  cases h with
  | alone => exact .alone
  | fromBeginning fixed resolved => exact .fromBeginning fixed (kept _ rfl _ _ resolved)
  | fromStart resolved => exact .fromStart (kept _ rfl _ _ resolved)

theorem Range.resolve_mono {range : Range} {block : Block} (length : lines.length ≤ others.length)
    (kept : ∀ a ∈ range.addresses, ∀ cursor line, a.resolve lines cursor = .ok line →
      a.resolve others cursor = .ok line)
    (h : range.resolve lines cursor = .ok block) : range.resolve others cursor = .ok block := by
  obtain ⟨hstart, hstop, hfirst, hordered, hlast⟩ := resolve_eq_ok_iff.mp h
  refine resolve_eq_ok_iff.mpr ⟨kept range.start (by simp [addresses]) _ _ hstart,
    hstop.imp fun pair hpair => kept pair.2 ?_, hfirst, hordered, hlast.trans length⟩
  simp [addresses, Option.mem_def.mp hpair]

theorem resolveBlocks_mono {blocks : List Block} (length : lines.length ≤ others.length)
    (kept : EveryAddress (fun a => ∀ cursor line, a.resolve lines cursor = .ok line →
      a.resolve others cursor = .ok line) exprs)
    (h : resolveBlocks lines cursor exprs = .ok blocks) :
    resolveBlocks others cursor exprs = .ok blocks := by
  induction exprs generalizing cursor blocks with
  | nil => exact h
  | cons expr exprs ih =>
      obtain ⟨block, rest, hblock, hrest, rfl⟩ := resolveBlocks_cons_eq_ok_iff.mp h
      obtain ⟨range, hparse, hresolve⟩ := resolveExpression_eq_ok_iff.mp hblock
      refine resolveBlocks_cons_eq_ok_iff.mpr ⟨block, rest, ?_, ih kept.tail hrest, rfl⟩
      exact resolveExpression_eq_ok_iff.mpr
        ⟨range, hparse, Range.resolve_mono length (kept.head hparse) hresolve⟩

theorem searchForward_append {source : String} {line : Int}
    (h : searchForward source lines cursor = .ok line) :
    searchForward source (lines ++ more) cursor = .ok line := by
  unfold searchForward at h ⊢
  split at h
  · cases h
  · next pattern hcompile =>
    split at h
    · next i hfound =>
      -- A cursor behind the lines finds nothing, so what is found lies in the first part.
      rw [List.drop_append, List.findIdx?_append, hfound]
      exact h
    · cases h

theorem Address.resolve_append {a : Address} (inner : a.position ≠ .last) {line : Int}
    (h : a.resolve lines cursor = .ok line) : a.resolve (lines ++ more) cursor = .ok line := by
  unfold resolve at h ⊢
  cases hbase : a.position.resolve lines cursor with
  | error e =>
      rw [hbase] at h
      cases h
  | ok base =>
      have hmore : a.position.resolve (lines ++ more) cursor = .ok base := by
        cases hposition : a.position with
        | pattern source => exact searchForward_append (by rwa [hposition] at hbase)
        | last => exact absurd hposition inner
        | line | current => rwa [hposition] at hbase
      rw [hbase] at h
      rw [hmore]
      exact h

theorem Document.linesAt_append {indices : List ℕ} (inside : ∀ i ∈ indices, i < lines.length)
    (more : List String) :
    (ofLines (lines ++ more)).linesAt indices = (ofLines lines).linesAt indices := by
  refine List.filterMap_congr fun i hi => ?_
  exact List.getElem?_append_left (inside i hi)

end Longer

/-- Lines that are added at the end change nothing about a selection that succeeds, if none of its
addresses is the last line: the same places are selected, and the same lines. -/
theorem selectIndices_append_lines {lines exprs : List String} {indices : List ℕ}
    (inner : EveryAddress (fun a => a.position ≠ .last) exprs)
    (selected : selectIndices lines exprs = .ok indices) (more : List String) :
    selectIndices (lines ++ more) exprs = .ok indices ∧
      (Document.ofLines (lines ++ more)).select exprs = (Document.ofLines lines).select exprs := by
  have hmore : selectIndices (lines ++ more) exprs = .ok indices := by
    unfold selectIndices at selected ⊢
    split at selected
    · cases selected
    · next blocks hblocks =>
      have kept : EveryAddress (fun a => ∀ cursor line, a.resolve lines cursor = .ok line →
          a.resolve (lines ++ more) cursor = .ok line) exprs :=
        inner.imp fun a ha cursor line => Address.resolve_append ha
      rw [resolveBlocks_mono (by simp) kept hblocks]
      exact selected
  refine ⟨hmore, ?_⟩
  have hplain : (Document.ofLines lines).lineNumbers exprs = .ok indices := selected
  have hlonger : (Document.ofLines (lines ++ more)).lineNumbers exprs = .ok indices := hmore
  rw [Document.select, Document.select, hplain, hlonger]
  dsimp only
  rw [Document.linesAt_append (lt_length_of_selectIndices selected)]

theorem selectIndices_append_lines_searches :
    EveryAddress (fun a => a.position ≠ .last) ["/b/;.", "1,/b/+1", ".-1"] ∧
      selectIndices ["a\n", "b\n", "c"] ["/b/;.", "1,/b/+1", ".-1"] = .ok [1, 0, 1, 2, 1] ∧
      selectIndices (["a\n", "b\n", "c"] ++ ["b\n"]) ["/b/;.", "1,/b/+1", ".-1"] =
        .ok [1, 0, 1, 2, 1] := by
  have inner : EveryAddress (fun a => a.position ≠ .last) ["/b/;.", "1,/b/+1", ".-1"] := by
    decide +kernel
  have selected : selectIndices ["a\n", "b\n", "c"] ["/b/;.", "1,/b/+1", ".-1"] =
      .ok [1, 0, 1, 2, 1] := by
    decide +kernel
  exact ⟨inner, selected, (selectIndices_append_lines inner selected ["b\n"]).1⟩

end LineSelect
