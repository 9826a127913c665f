import LineSelect.Proofs.Resolution

/-!
Ranges that start at a line number or at the last line. The cursor is looked at by nothing but the
start of a range, so such a range means the same lines wherever the range before it ended; and a
list of expressions that all start so selects, in any order, what its expressions select alone.
-/

namespace LineSelect

/-- Whether the address counts from a place that is fixed by the text alone. -/
def Address.isAbsolute (a : Address) : Bool :=
  match a.position with
  | .line _ | .last => true
  | .pattern _ | .current => false

/-- The expression can be read, and its range starts at a line number or at the last line. -/
def StartsAbsolute (expr : String) : Prop :=
  ∃ range, Range.parse expr = .ok range ∧ range.start.isAbsolute = true

instance {expr : String} : Decidable (StartsAbsolute expr) :=
  decidable_of_iff (∃ range ∈ (Range.parse expr).toOption, range.start.isAbsolute = true) <| by
    simp only [StartsAbsolute, Option.mem_def, toOption_eq_some_iff]

section Cursor

variable {lines : List String} {expr : String} {exprs : List String}

theorem Address.resolve_of_isAbsolute {a : Address} (absolute : a.isAbsolute = true)
    (cursor other : Int) : a.resolve lines cursor = a.resolve lines other := by
  have hposition : a.position.resolve lines cursor = a.position.resolve lines other := by
    cases hposition : a.position with
    | line | last => rfl
    | pattern | current => simp [isAbsolute, hposition] at absolute
  rw [resolve, resolve, hposition]

theorem Range.resolve_of_isAbsolute {range : Range} (absolute : range.start.isAbsolute = true)
    (cursor other : Int) : range.resolve lines cursor = range.resolve lines other := by
  -- The end counts from line 1 or from the start, so the cursor is seen by the start alone.
  rw [resolve, resolve, Address.resolve_of_isAbsolute absolute cursor other]

theorem StartsAbsolute.resolveExpression_eq (absolute : StartsAbsolute expr)
    (cursor other : Int) :
    resolveExpression lines cursor expr = resolveExpression lines other expr := by
  obtain ⟨range, hparse, hstart⟩ := absolute
  rw [resolveExpression, resolveExpression, hparse]
  dsimp only
  rw [Range.resolve_of_isAbsolute hstart cursor other]

theorem exists_resolveBlocks_of_parts (absolute : ∀ expr ∈ exprs, StartsAbsolute expr)
    {part : String → List ℕ} (alone : ∀ expr ∈ exprs, selectIndices lines [expr] = .ok (part expr))
    (cursor : Int) :
    ∃ blocks, resolveBlocks lines cursor exprs = .ok blocks ∧
      blocks.flatMap Block.indices = exprs.flatMap part := by
  induction exprs generalizing cursor with
  | nil => exact ⟨[], rfl, rfl⟩
  | cons expr exprs ih =>
      obtain ⟨block, hblock, hpart⟩ :=
        selectIndices_singleton_eq_ok_iff.mp (alone expr List.mem_cons_self)
      rw [(absolute expr List.mem_cons_self).resolveExpression_eq 0 cursor] at hblock
      obtain ⟨more, hmore, hparts⟩ := ih (fun expr hexpr => absolute expr (.tail _ hexpr))
        (fun expr hexpr => alone expr (.tail _ hexpr)) block.last
      refine ⟨block :: more, resolveBlocks_cons_eq_ok_iff.mpr ⟨block, more, hblock, hmore, rfl⟩, ?_⟩
      rw [List.flatMap_cons, List.flatMap_cons, hpart, hparts]

theorem exists_selectIndices_of_mem (absolute : ∀ expr ∈ exprs, StartsAbsolute expr)
    {cursor : Int} {blocks : List Block} (resolved : resolveBlocks lines cursor exprs = .ok blocks)
    (hexpr : expr ∈ exprs) : ∃ indices, selectIndices lines [expr] = .ok indices := by
  induction exprs generalizing cursor blocks with
  | nil => cases hexpr
  | cons first exprs ih =>
      obtain ⟨block, more, hblock, hmore, rfl⟩ := resolveBlocks_cons_eq_ok_iff.mp resolved
      rcases List.mem_cons.mp hexpr with rfl | hexpr
      · rw [(absolute expr List.mem_cons_self).resolveExpression_eq cursor 0] at hblock
        exact ⟨_, selectIndices_singleton_eq_ok_iff.mpr ⟨block, hblock, rfl⟩⟩
      · exact ih (fun expr hexpr => absolute expr (.tail _ hexpr)) hmore hexpr

theorem selectIndices_of_parts (absolute : ∀ expr ∈ exprs, StartsAbsolute expr)
    {part : String → List ℕ}
    (alone : ∀ expr ∈ exprs, selectIndices lines [expr] = .ok (part expr)) :
    selectIndices lines exprs = .ok (exprs.flatMap part) := by
  obtain ⟨blocks, hblocks, hparts⟩ := exists_resolveBlocks_of_parts absolute alone 0
  exact selectIndices_eq_ok_iff.mpr ⟨blocks, hblocks, hparts⟩

theorem exists_selectIndices_iff (absolute : ∀ expr ∈ exprs, StartsAbsolute expr) :
    (∃ indices, selectIndices lines exprs = .ok indices) ↔
      ∀ expr ∈ exprs, ∃ indices, selectIndices lines [expr] = .ok indices := by
  constructor
  · rintro ⟨indices, selected⟩ expr hexpr
    obtain ⟨blocks, hblocks, -⟩ := selectIndices_eq_ok_iff.mp selected
    exact exists_selectIndices_of_mem absolute hblocks hexpr
  · intro alone
    choose! part hpart using alone
    exact ⟨_, selectIndices_of_parts absolute hpart⟩

end Cursor

/-- Where the order of ranges has no influence, in four parts. A range that starts at a line number
or at the last line is resolved alike from every cursor. A list of expressions that all start so
succeeds just if each of them succeeds alone. In that case it selects what they select alone, one
after the other, and so does each reordering of the list. And all reorderings of the list succeed or
fail together. -/
theorem selectIndices_order_irrelevant (lines : List String) :
    (∀ range : Range, range.start.isAbsolute = true → ∀ cursor other : Int,
      range.resolve lines cursor = range.resolve lines other) ∧
    ∀ exprs : List String, (∀ expr ∈ exprs, StartsAbsolute expr) →
      ((∃ indices, selectIndices lines exprs = .ok indices) ↔
        ∀ expr ∈ exprs, ∃ indices, selectIndices lines [expr] = .ok indices) ∧
      (∀ indices, selectIndices lines exprs = .ok indices →
        ∃ part : String → List ℕ,
          (∀ expr ∈ exprs, selectIndices lines [expr] = .ok (part expr)) ∧
          indices = exprs.flatMap part ∧
          ∀ others, others.Perm exprs → selectIndices lines others = .ok (others.flatMap part)) ∧
      ∀ others, others.Perm exprs →
        ((∃ indices, selectIndices lines others = .ok indices) ↔
          ∃ indices, selectIndices lines exprs = .ok indices) := by
  refine ⟨fun range absolute => Range.resolve_of_isAbsolute absolute, ?_⟩
  intro exprs absolute
  have reordered : ∀ others : List String, others.Perm exprs →
      ∀ expr ∈ others, StartsAbsolute expr :=
    fun others perm expr hexpr => absolute expr (perm.mem_iff.mp hexpr)
  refine ⟨exists_selectIndices_iff absolute, ?_, ?_⟩
  · intro indices selected
    have alone := (exists_selectIndices_iff absolute).mp ⟨indices, selected⟩
    choose! part hpart using alone
    refine ⟨part, hpart, ?_, ?_⟩
    · exact Except.ok.inj (selected.symm.trans (selectIndices_of_parts absolute hpart))
    · intro others perm
      apply selectIndices_of_parts (reordered others perm)
      exact fun expr hexpr => hpart expr (perm.mem_iff.mp hexpr)
  · intro others perm
    rw [exists_selectIndices_iff absolute, exists_selectIndices_iff (reordered others perm)]
    simp only [perm.mem_iff]

theorem selectIndices_order_irrelevant_three_ends :
    selectIndices ["a\n", "b\n", "a\n", "b"] ["$-1;/b/", "2;.+1", "1,/b/"] =
        .ok [2, 3, 1, 2, 0, 1] ∧
      selectIndices ["a\n", "b\n", "a\n", "b"] ["1,/b/", "$-1;/b/", "2;.+1"] =
        .ok [0, 1, 2, 3, 1, 2] ∧
      Range.resolve ⟨⟨.last, -1⟩, some (.semicolon, ⟨.pattern "b", 0⟩)⟩
          ["a\n", "b\n", "a\n", "b"] 4 =
        Range.resolve ⟨⟨.last, -1⟩, some (.semicolon, ⟨.pattern "b", 0⟩)⟩
          ["a\n", "b\n", "a\n", "b"] 0 := by
  obtain ⟨hcursor, horder⟩ := selectIndices_order_irrelevant ["a\n", "b\n", "a\n", "b"]
  have absolute : ∀ expr ∈ ["$-1;/b/", "2;.+1", "1,/b/"], StartsAbsolute expr := by
    decide +kernel
  have hlast : selectIndices ["a\n", "b\n", "a\n", "b"] ["$-1;/b/"] = .ok [2, 3] := by
    decide +kernel
  have hrelative : selectIndices ["a\n", "b\n", "a\n", "b"] ["2;.+1"] = .ok [1, 2] := by
    decide +kernel
  have hsearch : selectIndices ["a\n", "b\n", "a\n", "b"] ["1,/b/"] = .ok [0, 1] := by
    decide +kernel
  obtain ⟨hsucceeds, hparts, -⟩ := horder _ absolute
  obtain ⟨indices, hselected⟩ := hsucceeds.mpr (by simp [hlast, hrelative, hsearch])
  obtain ⟨part, alone, rfl, hothers⟩ := hparts indices hselected
  have hreordered := hothers ["1,/b/", "$-1;/b/", "2;.+1"] (by decide)
  have hlast := Except.ok.inj ((alone _ (by decide)).symm.trans hlast)
  have hrelative := Except.ok.inj ((alone _ (by decide)).symm.trans hrelative)
  have hsearch := Except.ok.inj ((alone _ (by decide)).symm.trans hsearch)
  simp only [List.flatMap_cons, List.flatMap_nil, hlast, hrelative, hsearch] at hselected hreordered
  exact ⟨hselected, hreordered, hcursor ⟨⟨.last, -1⟩, _⟩ rfl 4 0⟩

end LineSelect
