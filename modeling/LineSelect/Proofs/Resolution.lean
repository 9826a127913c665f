import Mathlib.Data.List.Intervals
import LineSelect.Selection

/-!
What resolving succeeds with: the two lines of a range and the bounds on them, one expression, and
a list of expressions with the cursor that it leaves.
-/

namespace LineSelect

/-- The cursor that the end of a range counts from, if its start means line `start`. -/
def Separator.anchor (separator : Separator) (start : Int) : Int :=
  match separator with
  | .comma => 1
  | .semicolon => start

@[simp] theorem Separator.anchor_comma (start : Int) : comma.anchor start = 1 := rfl

@[simp] theorem Separator.anchor_semicolon (start : Int) : semicolon.anchor start = start := rfl

namespace Range

/-- The line that the end of a range means, if its start means line `start`. -/
inductive StopLine (lines : List String) (start : Int) :
    Option (Separator × Address) → Int → Prop where
  | alone : StopLine lines start none start
  | fromBeginning {stop : Address} {line : Int} (fixed : stop.position ≠ .current)
      (resolved : stop.resolve lines 1 = .ok line) :
      StopLine lines start (some (.comma, stop)) line
  | fromStart {stop : Address} {line : Int} (resolved : stop.resolve lines start = .ok line) :
      StopLine lines start (some (.semicolon, stop)) line

theorem resolveStop_eq_ok_iff {range : Range} {lines : List String} {start line : Int} :
    range.resolveStop lines start = .ok line ↔ StopLine lines start range.stop line := by
  unfold resolveStop
  constructor
  · intro h
    split at h
    · next hstop =>
      obtain rfl := Except.ok.inj h
      exact hstop ▸ .alone
    · next stop hstop =>
      split at h
      · cases h
      · next hrelative =>
        exact hstop ▸ .fromBeginning (by simpa [Address.isRelative] using hrelative) h
    · next stop hstop => exact hstop ▸ .fromStart h
  · intro h
    split
    · next hstop =>
      rw [hstop] at h
      cases h
      rfl
    · next stop hstop =>
      rw [hstop] at h
      cases h with
      | fromBeginning fixed resolved => simpa [Address.isRelative, fixed] using resolved
    · next stop hstop =>
      rw [hstop] at h
      cases h with
      | fromStart resolved => exact resolved

theorem checkBlock_eq_ok_iff {start stop : Int} {total : Nat} {block : Block} :
    checkBlock start stop total = .ok block ↔
      start = block.first ∧ stop = block.last ∧
        1 ≤ block.first ∧ block.first ≤ block.last ∧ block.last ≤ total := by
  unfold checkBlock
  constructor
  · intro h
    split at h
    · cases h
    split at h
    · cases h
    split at h
    · cases h
    obtain rfl := Except.ok.inj h
    dsimp only
    omega
  · rintro ⟨rfl, rfl, hfirst, hordered, hlast⟩
    rw [if_neg (by omega), if_neg (by omega), if_neg (by omega)]
    simp

/-- A range means a block if its two lines are in order and the text has both of them. -/
theorem resolve_eq_ok_iff {range : Range} {lines : List String} {cursor : Int} {block : Block} :
    range.resolve lines cursor = .ok block ↔
      range.start.resolve lines cursor = .ok (block.first : Int) ∧
        StopLine lines block.first range.stop block.last ∧
        1 ≤ block.first ∧ block.first ≤ block.last ∧ block.last ≤ lines.length := by
  unfold resolve
  constructor
  · intro h
    split at h
    · cases h
    · next start hstart =>
      split at h
      · cases h
      · next stop hstop =>
        obtain ⟨rfl, rfl, hbounds⟩ := checkBlock_eq_ok_iff.mp h
        exact ⟨hstart, resolveStop_eq_ok_iff.mp hstop, hbounds⟩
  · rintro ⟨hstart, hstop, hbounds⟩
    rw [hstart]
    dsimp only
    rw [resolveStop_eq_ok_iff.mpr hstop]
    exact checkBlock_eq_ok_iff.mpr ⟨rfl, rfl, hbounds⟩

end Range

/-! ### Expressions -/

theorem toOption_eq_some_iff {ε α : Type} {result : Except ε α} {a : α} :
    result.toOption = some a ↔ result = .ok a := by
  cases result <;> simp [Except.toOption]

theorem exists_eq_ok_of_isSome {ε α : Type} {result : Except ε α}
    (h : result.toOption.isSome = true) : ∃ a, result = .ok a := by
  obtain ⟨a, ha⟩ := Option.isSome_iff_exists.mp h
  exact ⟨a, toOption_eq_some_iff.mp ha⟩

theorem resolveExpression_eq_ok_iff {lines : List String} {cursor : Int} {expr : String}
    {block : Block} :
    resolveExpression lines cursor expr = .ok block ↔
      ∃ range, Range.parse expr = .ok range ∧ range.resolve lines cursor = .ok block := by
  unfold resolveExpression
  constructor
  · intro h
    split at h
    · cases h
    · next range hparse =>
      refine ⟨range, hparse, ?_⟩
      split at h
      · cases h
      · exact h
  · rintro ⟨range, hparse, hresolve⟩
    rw [hparse]
    dsimp only
    rw [hresolve]

theorem bounds_of_resolveExpression {lines : List String} {cursor : Int} {expr : String}
    {block : Block} (h : resolveExpression lines cursor expr = .ok block) :
    1 ≤ block.first ∧ block.first ≤ block.last ∧ block.last ≤ lines.length := by
  obtain ⟨range, -, hresolve⟩ := resolveExpression_eq_ok_iff.mp h
  exact (Range.resolve_eq_ok_iff.mp hresolve).2.2

theorem resolveBlocks_cons_eq_ok_iff {lines : List String} {cursor : Int} {expr : String}
    {exprs : List String} {blocks : List Block} :
    resolveBlocks lines cursor (expr :: exprs) = .ok blocks ↔
      ∃ block more, resolveExpression lines cursor expr = .ok block ∧
        resolveBlocks lines block.last exprs = .ok more ∧ blocks = block :: more := by
  rw [resolveBlocks]
  constructor
  · intro h
    split at h
    · cases h
    · next block hblock =>
      split at h
      · cases h
      · next more hmore => exact ⟨block, more, hblock, hmore, (Except.ok.inj h).symm⟩
  · rintro ⟨block, more, hblock, hmore, rfl⟩
    rw [hblock]
    dsimp only
    rw [hmore]

/-- The cursor after blocks: the last line of the last block, or the cursor before if there is no
block. -/
def cursorAfter (cursor : Int) : List Block → Int
  | [] => cursor
  | block :: blocks => cursorAfter block.last blocks

theorem cursorAfter_append (cursor : Int) (xs ys : List Block) :
    cursorAfter cursor (xs ++ ys) = cursorAfter (cursorAfter cursor xs) ys := by
  induction xs generalizing cursor with
  | nil => rfl
  | cons block xs ih => exact ih block.last

theorem resolveBlocks_append (lines : List String) (cursor : Int) (xs ys : List String) :
    resolveBlocks lines cursor (xs ++ ys) =
      match resolveBlocks lines cursor xs with
      | .error e => .error e
      | .ok blocks =>
        match resolveBlocks lines (cursorAfter cursor blocks) ys with
        | .error e => .error e
        | .ok more => .ok (blocks ++ more) := by
  induction xs generalizing cursor with
  | nil =>
      simp only [List.nil_append, resolveBlocks, cursorAfter]
      split <;> simp_all
  | cons expr xs ih =>
      simp only [List.cons_append, resolveBlocks]
      cases resolveExpression lines cursor expr with
      | error e => rfl
      | ok block =>
          dsimp only
          rw [ih]
          cases resolveBlocks lines block.last xs with
          | error e => rfl
          | ok blocks =>
              dsimp only [cursorAfter]
              cases resolveBlocks lines (cursorAfter block.last blocks) ys <;> rfl

theorem Block.indices_eq_Ico {block : Block} (nonzero : 1 ≤ block.first) :
    block.indices = List.Ico (block.first - 1) block.last := by
  rw [indices, size, List.Ico]
  congr 1
  omega

theorem lt_length_of_resolveBlocks {lines exprs : List String} {cursor : Int}
    {blocks : List Block} (h : resolveBlocks lines cursor exprs = .ok blocks) :
    ∀ i ∈ blocks.flatMap Block.indices, i < lines.length := by
  induction exprs generalizing cursor blocks with
  | nil =>
      obtain rfl := Except.ok.inj h
      simp
  | cons expr exprs ih =>
      obtain ⟨block, more, hblock, hmore, rfl⟩ := resolveBlocks_cons_eq_ok_iff.mp h
      obtain ⟨hfirst, hordered, hlast⟩ := bounds_of_resolveExpression hblock
      intro i hi
      rw [List.flatMap_cons, List.mem_append] at hi
      rcases hi with hi | hi
      · rw [Block.mem_indices_iff hfirst hordered] at hi
        omega
      · exact ih hmore i hi

theorem selectIndices_eq_ok_iff {lines exprs : List String} {indices : List Nat} :
    selectIndices lines exprs = .ok indices ↔
      ∃ blocks, resolveBlocks lines 0 exprs = .ok blocks ∧
        blocks.flatMap Block.indices = indices := by
  unfold selectIndices
  cases resolveBlocks lines 0 exprs <;> simp

theorem selectIndices_singleton_eq_ok_iff {lines : List String} {expr : String}
    {indices : List Nat} :
    selectIndices lines [expr] = .ok indices ↔
      ∃ block, resolveExpression lines 0 expr = .ok block ∧ block.indices = indices := by
  rw [selectIndices_eq_ok_iff]
  constructor
  · rintro ⟨blocks, hblocks, rfl⟩
    obtain ⟨block, more, hblock, hmore, rfl⟩ := resolveBlocks_cons_eq_ok_iff.mp hblocks
    obtain rfl := Except.ok.inj hmore
    exact ⟨block, hblock, (List.flatMap_singleton _ _).symm⟩
  · rintro ⟨block, hblock, rfl⟩
    exact ⟨[block], resolveBlocks_cons_eq_ok_iff.mpr ⟨block, [], hblock, rfl, rfl⟩,
      List.flatMap_singleton _ _⟩

theorem lt_length_of_selectIndices {lines exprs : List String} {indices : List Nat}
    (h : selectIndices lines exprs = .ok indices) : ∀ i ∈ indices, i < lines.length := by
  obtain ⟨blocks, hblocks, rfl⟩ := selectIndices_eq_ok_iff.mp h
  exact lt_length_of_resolveBlocks hblocks

end LineSelect
