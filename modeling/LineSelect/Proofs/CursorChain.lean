import LineSelect.Proofs.Resolution
import LineSelect.Proofs.Search

/-!
Cursor chains: what a selection of any length means. Each expression starts from the cursor that
the one before it leaves, and the lines it selects run from its start to the next cursor. The main
statement says that selecting succeeds exactly along such a chain, and with the lines of its links.
-/

namespace LineSelect

/-- Expressions linked by cursors: expression `k` is resolved from `cursor k` and selects the lines
from `start k` to `cursor (k + 1)`. -/
structure CursorChain (lines : List String) (origin : Int) (exprs : List String)
    (cursor start : ℕ → ℕ) : Prop where
  first : (cursor 0 : Int) = origin
  link : ∀ (k : ℕ) (h : k < exprs.length), ∃ range, Range.parse exprs[k] = .ok range ∧
    range.start.resolve lines (cursor k) = .ok (start k : Int) ∧
    Range.StopLine lines (start k) range.stop (cursor (k + 1)) ∧
    1 ≤ start k ∧ start k ≤ cursor (k + 1) ∧ cursor (k + 1) ≤ lines.length

/-- The places of the lines that the links of a chain select, in the order of the links. -/
def linkedIndices (count : ℕ) (cursor start : ℕ → ℕ) : List ℕ :=
  (List.range count).flatMap fun k => List.Ico (start k - 1) (cursor (k + 1))

theorem linkedIndices_succ (count : ℕ) (cursor start : ℕ → ℕ) :
    linkedIndices (count + 1) cursor start =
      List.Ico (start 0 - 1) (cursor 1) ++
        linkedIndices count (fun k => cursor (k + 1)) (fun k => start (k + 1)) := by
  rw [linkedIndices, List.range_succ_eq_map, List.flatMap_cons, List.flatMap_map]
  rfl

namespace CursorChain

variable {lines : List String} {origin : Int} {expr : String} {exprs : List String}
  {cursor start : ℕ → ℕ}

theorem tail (chain : CursorChain lines origin (expr :: exprs) cursor start) :
    CursorChain lines (cursor 1) exprs (fun k => cursor (k + 1)) (fun k => start (k + 1)) :=
  ⟨rfl, fun k hk => chain.link (k + 1) (by simpa using hk)⟩

theorem head (chain : CursorChain lines origin (expr :: exprs) cursor start) :
    resolveExpression lines origin expr = .ok ⟨start 0, cursor 1⟩ ∧ 1 ≤ start 0 := by
  obtain ⟨range, hparse, hstart, hstop, hbounds⟩ := chain.link 0 (by simp)
  refine ⟨resolveExpression_eq_ok_iff.mpr ⟨range, hparse, ?_⟩, hbounds.1⟩
  rw [← chain.first]
  exact Range.resolve_eq_ok_iff.mpr ⟨hstart, hstop, hbounds⟩

theorem cons {origin : ℕ} {block : Block}
    (hblock : resolveExpression lines origin expr = .ok block)
    (chain : CursorChain lines block.last exprs cursor start) :
    CursorChain lines origin (expr :: exprs)
      (fun k => k.casesOn origin cursor) (fun k => k.casesOn block.first start) := by
  refine ⟨rfl, fun k hk => ?_⟩
  cases k with
  | zero =>
      obtain ⟨range, hparse, hresolve⟩ := resolveExpression_eq_ok_iff.mp hblock
      obtain ⟨hstart, hstop, hbounds⟩ := Range.resolve_eq_ok_iff.mp hresolve
      have hlast : cursor 0 = block.last := by exact_mod_cast chain.first
      exact ⟨range, hparse, hstart, by simpa [hlast] using hstop, by simpa [hlast] using hbounds⟩
  | succ k => exact chain.link k (by simpa using hk)

end CursorChain

theorem exists_chain_of_resolveBlocks {lines : List String} {exprs : List String} {origin : ℕ}
    {blocks : List Block} (h : resolveBlocks lines origin exprs = .ok blocks) :
    ∃ cursor start, CursorChain lines origin exprs cursor start ∧
      blocks.flatMap Block.indices = linkedIndices exprs.length cursor start ∧
      cursorAfter origin blocks = cursor exprs.length := by
  induction exprs generalizing origin blocks with
  | nil =>
      obtain rfl := Except.ok.inj h
      exact ⟨fun _ => origin, fun _ => 0, ⟨rfl, by simp⟩, rfl, rfl⟩
  | cons expr exprs ih =>
      obtain ⟨block, more, hblock, hmore, rfl⟩ := resolveBlocks_cons_eq_ok_iff.mp h
      obtain ⟨cursor, start, chain, hindices, hcursor⟩ := ih hmore
      have hfirst : 1 ≤ block.first := (bounds_of_resolveExpression hblock).1
      refine ⟨_, _, CursorChain.cons hblock chain, ?_, hcursor⟩
      have hlast : cursor 0 = block.last := by exact_mod_cast chain.first
      rw [List.flatMap_cons, hindices, List.length_cons, linkedIndices_succ,
        Block.indices_eq_Ico hfirst, ← hlast]
      rfl

theorem exists_resolveBlocks_of_chain {lines : List String} {exprs : List String} {origin : Int}
    {cursor start : ℕ → ℕ} (chain : CursorChain lines origin exprs cursor start) :
    ∃ blocks, resolveBlocks lines origin exprs = .ok blocks ∧
      blocks.flatMap Block.indices = linkedIndices exprs.length cursor start := by
  induction exprs generalizing origin cursor start with
  | nil => exact ⟨[], rfl, rfl⟩
  | cons expr exprs ih =>
      obtain ⟨hblock, hfirst⟩ := chain.head
      obtain ⟨more, hmore, hindices⟩ := ih chain.tail
      refine ⟨⟨start 0, cursor 1⟩ :: more,
        resolveBlocks_cons_eq_ok_iff.mpr ⟨_, more, hblock, hmore, rfl⟩, ?_⟩
      rw [List.flatMap_cons, hindices, List.length_cons, linkedIndices_succ,
        Block.indices_eq_Ico hfirst]

/-- Selects from a given cursor; gives the places of the lines, and the cursor that is left. -/
def selectFrom (lines : List String) (cursor : Int) (exprs : List String) :
    Except SelectionError (List Nat × Int) :=
  match resolveBlocks lines cursor exprs with
  | .error e => .error e
  | .ok blocks => .ok (blocks.flatMap Block.indices, cursorAfter cursor blocks)

theorem selectFrom_append (lines : List String) (cursor : Int) (xs ys : List String) :
    selectFrom lines cursor (xs ++ ys) =
      match selectFrom lines cursor xs with
      | .error e => .error e
      | .ok (indices, left) =>
        match selectFrom lines left ys with
        | .error e => .error e
        | .ok (more, next) => .ok (indices ++ more, next) := by
  simp only [selectFrom, resolveBlocks_append]
  cases resolveBlocks lines cursor xs with
  | error e => rfl
  | ok blocks =>
      dsimp only
      cases resolveBlocks lines (cursorAfter cursor blocks) ys with
      | error e => rfl
      | ok more => simp [cursorAfter_append]

theorem selectIndices_eq_selectFrom (lines exprs : List String) :
    selectIndices lines exprs = (selectFrom lines 0 exprs).map Prod.fst := by
  rw [selectIndices, selectFrom]
  cases resolveBlocks lines 0 exprs <;> rfl

theorem CursorChain.getLast?_linkedIndices {lines : List String} {origin : Int}
    {exprs : List String} {cursor start : ℕ → ℕ} {k : ℕ}
    (chain : CursorChain lines origin exprs cursor start) (hk : exprs.length = k + 1) :
    (linkedIndices exprs.length cursor start).getLast? = some (cursor (k + 1) - 1) := by
  obtain ⟨range, -, -, -, hfirst, hordered, -⟩ := chain.link k (by omega)
  have hlast : List.Ico (start k - 1) (cursor (k + 1)) =
      List.Ico (start k - 1) (cursor (k + 1) - 1) ++ [cursor (k + 1) - 1] := by
    obtain ⟨m, hm⟩ : ∃ m, cursor (k + 1) = m + 1 := ⟨cursor (k + 1) - 1, by omega⟩
    rw [hm, List.Ico.succ_top (by omega), Nat.add_sub_cancel]
  rw [hk, linkedIndices, List.range_succ, List.flatMap_append, List.flatMap_singleton, hlast,
    ← List.append_assoc, List.getLast?_concat]

/-- What a selection of any number of expressions means, in four parts. It succeeds exactly if a
chain of cursors from 0 on links the expressions, and selects the lines of the links. A pattern
means the least line after the cursor that matches. Expressions added at the end go on from the
cursor that is left. And that cursor is the number of the last line selected, which exists. -/
theorem selectIndices_iff_cursorChain (lines : List String) :
    (∀ exprs indices, selectIndices lines exprs = .ok indices ↔
      ∃ cursor start, CursorChain lines 0 exprs cursor start ∧
        indices = linkedIndices exprs.length cursor start) ∧
    (∀ source cursor line, (Position.pattern source).resolve lines cursor = .ok line ↔
      ∃ pattern, Pattern.compile source = .ok pattern ∧
        IsLeast {n | max cursor 0 < n ∧ pattern.MatchesLine lines n} line) ∧
    (∀ xs ys, selectIndices lines (xs ++ ys) =
      match selectFrom lines 0 xs with
      | .error e => .error e
      | .ok (indices, left) =>
        match selectFrom lines left ys with
        | .error e => .error e
        | .ok (more, _) => .ok (indices ++ more)) ∧
    (∀ x xs indices left, selectFrom lines 0 (x :: xs) = .ok (indices, left) →
      1 ≤ left ∧ left ≤ lines.length ∧
        ∃ last, indices.getLast? = some last ∧ left = last + 1) := by
  refine ⟨fun exprs indices => ⟨fun h => ?_, ?_⟩, fun _ _ _ => searchForward_eq_ok_iff,
    fun xs ys => ?_, fun x xs indices left h => ?_⟩
  · rw [selectIndices] at h
    split at h
    · cases h
    · next blocks hblocks =>
      obtain ⟨cursor, start, chain, hindices, -⟩ := exists_chain_of_resolveBlocks hblocks
      exact ⟨cursor, start, chain, by rw [← hindices, Except.ok.inj h]⟩
  · rintro ⟨cursor, start, chain, rfl⟩
    obtain ⟨blocks, hblocks, hindices⟩ := exists_resolveBlocks_of_chain chain
    rw [selectIndices, hblocks, ← hindices]
  · rw [selectIndices_eq_selectFrom, selectFrom_append]
    cases selectFrom lines 0 xs with
    | error e => rfl
    | ok selected =>
        dsimp only
        cases selectFrom lines selected.2 ys <;> rfl
  · rw [selectFrom] at h
    split at h
    · cases h
    · next blocks hblocks =>
      obtain ⟨rfl, rfl⟩ := Prod.mk.inj (Except.ok.inj h)
      obtain ⟨cursor, start, chain, hindices, hcursor⟩ := exists_chain_of_resolveBlocks hblocks
      obtain ⟨range, -, -, -, hfirst, hordered, hbound⟩ := chain.link xs.length (by simp)
      have hlast := chain.getLast?_linkedIndices (List.length_cons (a := x))
      have hleft : cursorAfter 0 blocks = cursor (xs.length + 1) := hcursor
      rw [hindices, hlast, hleft]
      exact ⟨by omega, by omega, _, rfl, by omega⟩

theorem selectIndices_two_links :
    (∃ cursor start, CursorChain ["a\n", "b\n", "c\n"] 0 ["2,$", "1"] cursor start ∧
      [1, 2, 0] = linkedIndices 2 cursor start) ∧
    ∃ last : Nat, [1, 2].getLast? = some last ∧ (3 : Int) = last + 1 :=
  have chains := selectIndices_iff_cursorChain ["a\n", "b\n", "c\n"]
  ⟨(chains.1 ["2,$", "1"] [1, 2, 0]).mp (by decide +kernel),
    (chains.2.2.2 "2,$" [] [1, 2] 3 (by decide +kernel)).2.2⟩

end LineSelect
