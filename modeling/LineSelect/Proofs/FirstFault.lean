import LineSelect.Proofs.ReadingFaults
import LineSelect.Proofs.Resolution
import LineSelect.Proofs.Search

/-!
Why selecting fails. The faults of an expression are described one by one, in the order in which
they are found: those of reading come first, then those of the start, of the end, of their order, and
of the bounds. The main statement says that selecting fails exactly if an expression has a fault
when all before it are resolved, and what is reported is that fault.
-/

namespace LineSelect

theorem searchForward_eq_error_iff {source : String} {lines : List String} {cursor : Int}
    {e : SelectionError} :
    searchForward source lines cursor = .error e ↔
      (∃ cause, Pattern.compile source = .error cause ∧ e = .badPattern cause) ∨
      ∃ pattern, Pattern.compile source = .ok pattern ∧
        (∀ n, max cursor 0 < n → ¬ pattern.MatchesLine lines n) ∧ e = .patternNotFound source := by
  have hcursor : max cursor 0 = (cursor.toNat : Int) := by omega
  rw [hcursor, searchForward]
  cases hcompile : Pattern.compile source with
  | error cause => simp [eq_comm]
  | ok pattern =>
      simp only [reduceCtorEq, false_and, exists_false, false_or, Except.ok.injEq, exists_eq_left']
      split
      · next i hfound =>
        obtain ⟨hskip, hmatch⟩ := (isLeast_of_findIdx? hfound).1
        constructor
        · intro h
          cases h
        · rintro ⟨hnone, -⟩
          exact absurd hmatch (hnone _ hskip)
      · next hmissing =>
        constructor
        · intro h
          exact ⟨fun n => not_matchesLine_of_findIdx? hmissing, (Except.error.inj h).symm⟩
        · rintro ⟨-, rfl⟩
          rfl

namespace Address

/-- What can be wrong with an address that is resolved from a cursor, and what is reported. -/
inductive ResolveFault (lines : List String) (cursor : Int) (a : Address) :
    SelectionError → Prop where
  | pattern {source : String} {cause : PatternError} (position : a.position = .pattern source)
      (bad : Pattern.compile source = .error cause) :
      ResolveFault lines cursor a (.badPattern cause)
  | missing {source : String} {pattern : Pattern} (position : a.position = .pattern source)
      (good : Pattern.compile source = .ok pattern)
      (nowhere : ∀ n, max cursor 0 < n → ¬ pattern.MatchesLine lines n) :
      ResolveFault lines cursor a (.patternNotFound source)

theorem resolve_eq_error_iff {a : Address} {lines : List String} {cursor : Int}
    {e : SelectionError} : a.resolve lines cursor = .error e ↔ a.ResolveFault lines cursor e := by
  have hresolve : a.resolve lines cursor = .error e ↔
      a.position.resolve lines cursor = .error e := by
    rw [resolve]
    split <;> simp_all
  rw [hresolve]
  constructor
  · intro h
    cases hposition : a.position with
    | pattern source =>
        rw [hposition] at h
        rcases searchForward_eq_error_iff.mp h with
          ⟨cause, bad, rfl⟩ | ⟨pattern, good, nowhere, rfl⟩
        · exact .pattern hposition bad
        · exact .missing hposition good nowhere
    | line | last | current =>
        rw [hposition] at h
        cases h
  · intro fault
    cases fault with
    | pattern position bad =>
        rw [position]
        exact searchForward_eq_error_iff.mpr (.inl ⟨_, bad, rfl⟩)
    | missing position good nowhere =>
        rw [position]
        exact searchForward_eq_error_iff.mpr (.inr ⟨_, good, nowhere, rfl⟩)

end Address

namespace Range

/-- What can be wrong with a range that is resolved from a cursor, and what is reported. A range
whose end counts from nothing is reported as the text `shown`. -/
inductive ResolveFault (lines : List String) (cursor : Int) (range : Range) (shown : String) :
    SelectionError → Prop where
  | start {e : SelectionError} (fault : range.start.ResolveFault lines cursor e) :
      ResolveFault lines cursor range shown e
  | relative {start : Int} {stop : Address} (first : range.start.resolve lines cursor = .ok start)
      (joined : range.stop = some (.comma, stop)) (floating : stop.position = .current) :
      ResolveFault lines cursor range shown (.invalidRange shown)
  | stop {start : Int} {separator : Separator} {stop : Address} {e : SelectionError}
      (first : range.start.resolve lines cursor = .ok start)
      (joined : range.stop = some (separator, stop))
      (fixed : separator = .comma → stop.position ≠ .current)
      (fault : stop.ResolveFault lines (separator.anchor start) e) :
      ResolveFault lines cursor range shown e
  | order {start stop : Int} (first : range.start.resolve lines cursor = .ok start)
      (second : StopLine lines start range.stop stop) (reversed : stop < start) :
      ResolveFault lines cursor range shown (.startAfterEnd start stop)
  | startOutside {start stop : Int} (first : range.start.resolve lines cursor = .ok start)
      (second : StopLine lines start range.stop stop) (ordered : start ≤ stop)
      (outside : ¬ (1 ≤ start ∧ start ≤ lines.length)) :
      ResolveFault lines cursor range shown (.outOfBounds start lines.length)
  | stopOutside {start stop : Int} (first : range.start.resolve lines cursor = .ok start)
      (second : StopLine lines start range.stop stop) (ordered : start ≤ stop)
      (inside : 1 ≤ start ∧ start ≤ lines.length) (outside : ¬ (1 ≤ stop ∧ stop ≤ lines.length)) :
      ResolveFault lines cursor range shown (.outOfBounds stop lines.length)

variable {range : Range} {lines : List String} {cursor start stop : Int} {e : SelectionError}

theorem resolveStop_eq_error_iff :
    range.resolveStop lines start = .error e ↔
      (∃ stop, range.stop = some (.comma, stop) ∧ stop.position = .current ∧
        e = .invalidRange range.text) ∨
      ∃ separator stop, range.stop = some (separator, stop) ∧
        (separator = .comma → stop.position ≠ .current) ∧
        stop.ResolveFault lines (separator.anchor start) e := by
  unfold resolveStop
  split
  · next hstop => simp [hstop]
  · next stop hstop =>
    simp only [hstop, Option.some.injEq, Prod.mk.injEq]
    by_cases hrelative : stop.position = .current
    · simp [Address.isRelative, hrelative, eq_comm]
    · simp [Address.isRelative, hrelative, Address.resolve_eq_error_iff]
  · next stop hstop => simp [hstop, Address.resolve_eq_error_iff]

theorem checkBlock_eq_error_iff {total : Nat} :
    checkBlock start stop total = .error e ↔
      (stop < start ∧ e = .startAfterEnd start stop) ∨
      (start ≤ stop ∧ ¬ (1 ≤ start ∧ start ≤ total) ∧ e = .outOfBounds start total) ∨
      (start ≤ stop ∧ (1 ≤ start ∧ start ≤ total) ∧ ¬ (1 ≤ stop ∧ stop ≤ total) ∧
        e = .outOfBounds stop total) := by
  unfold checkBlock
  by_cases hordered : stop < start
  · simp [hordered, not_le.mpr hordered, eq_comm]
  · rw [if_neg hordered]
    by_cases hstart : start < 1 ∨ (total : Int) < start
    · have houtside : ¬ (1 ≤ start ∧ start ≤ total) := by omega
      simp [hstart, houtside, hordered, not_lt.mp hordered, eq_comm]
    · have hinside : 1 ≤ start ∧ start ≤ total := by omega
      rw [if_neg hstart]
      by_cases hstop : stop < 1 ∨ (total : Int) < stop
      · have houtside : ¬ (1 ≤ stop ∧ stop ≤ total) := by omega
        simp [hstop, houtside, hinside, hordered, not_lt.mp hordered, eq_comm]
      · have hboth : 1 ≤ stop ∧ stop ≤ total := by omega
        simp [hstop, hboth, hinside, hordered]

theorem resolve_eq_error_iff :
    range.resolve lines cursor = .error e ↔ range.ResolveFault lines cursor range.text e := by
  constructor
  · intro h
    unfold resolve at h
    split at h
    · next hstart =>
      obtain rfl := Except.error.inj h
      exact .start (Address.resolve_eq_error_iff.mp hstart)
    · next start first =>
      split at h
      · next hstop =>
        obtain rfl := Except.error.inj h
        rcases resolveStop_eq_error_iff.mp hstop with
          ⟨stop, joined, floating, rfl⟩ | ⟨separator, stop, joined, fixed, fault⟩
        · exact .relative first joined floating
        · exact .stop first joined fixed fault
      · next stop hstop =>
        have second := resolveStop_eq_ok_iff.mp hstop
        rcases checkBlock_eq_error_iff.mp h with
          ⟨reversed, rfl⟩ | ⟨ordered, outside, rfl⟩ | ⟨ordered, inside, outside, rfl⟩
        · exact .order first second reversed
        · exact .startOutside first second ordered outside
        · exact .stopOutside first second ordered inside outside
  · intro fault
    cases fault with
    | start fault => rw [resolve, Address.resolve_eq_error_iff.mpr fault]
    | relative first joined floating =>
        rw [resolve, first]
        simp only [resolveStop_eq_error_iff.mpr (.inl ⟨_, joined, floating, rfl⟩)]
    | stop first joined fixed fault =>
        rw [resolve, first]
        simp only [resolveStop_eq_error_iff.mpr (.inr ⟨_, _, joined, fixed, fault⟩)]
    | order first second reversed =>
        rw [resolve, first]
        simp only [resolveStop_eq_ok_iff.mpr second]
        exact checkBlock_eq_error_iff.mpr (.inl ⟨reversed, rfl⟩)
    | startOutside first second ordered outside =>
        rw [resolve, first]
        simp only [resolveStop_eq_ok_iff.mpr second]
        exact checkBlock_eq_error_iff.mpr (.inr (.inl ⟨ordered, outside, rfl⟩))
    | stopOutside first second ordered inside outside =>
        rw [resolve, first]
        simp only [resolveStop_eq_ok_iff.mpr second]
        exact checkBlock_eq_error_iff.mpr (.inr (.inr ⟨ordered, inside, outside, rfl⟩))

end Range

/-- The error with another text for the range that it shows. -/
def SelectionError.showing (shown : String) : SelectionError → SelectionError
  | .invalidRange _ => .invalidRange shown
  | e => e

theorem Address.ResolveFault.showing_eq {a : Address} {lines : List String} {cursor : Int}
    {e : SelectionError} (fault : a.ResolveFault lines cursor e) (shown : String) :
    e.showing shown = e := by
  cases fault <;> rfl

theorem Range.ResolveFault.showing {range : Range} {lines : List String} {cursor : Int}
    {shown : String} {e : SelectionError} (fault : range.ResolveFault lines cursor shown e)
    (other : String) : range.ResolveFault lines cursor other (e.showing other) := by
  -- Only the fault of an end that counts from nothing holds the text that is shown.
  cases fault with
  | start fault =>
      rw [fault.showing_eq]
      exact .start fault
  | relative first joined floating => exact .relative first joined floating
  | stop first joined fixed fault =>
      rw [fault.showing_eq]
      exact .stop first joined fixed fault
  | order first second reversed => exact .order first second reversed
  | startOutside first second ordered outside => exact .startOutside first second ordered outside
  | stopOutside first second ordered inside outside =>
      exact .stopOutside first second ordered inside outside

theorem Range.ResolveFault.showing_eq {range : Range} {lines : List String} {cursor : Int}
    {shown : String} {e : SelectionError} (fault : range.ResolveFault lines cursor shown e) :
    e.showing shown = e := by
  cases fault with
  | start fault | stop _ _ _ fault => exact fault.showing_eq shown
  | relative | order | startOutside | stopOutside => rfl

/-! ### Expressions -/

/-- What can be wrong with an expression that is resolved from a cursor, and what is reported. -/
inductive Fault (lines : List String) (cursor : Int) (expr : String) : SelectionError → Prop where
  | reading {e : SelectionError} (fault : Range.ReadFault expr.toList e) :
      Fault lines cursor expr e
  | resolving {range : Range} {e : SelectionError} (spelled : Range.parse expr = .ok range)
      (fault : range.ResolveFault lines cursor expr e) : Fault lines cursor expr e

section Expressions

variable {lines : List String} {cursor : Int} {expr : String} {exprs : List String}
  {e : SelectionError}

theorem resolveExpression_of_parse {range : Range} (h : Range.parse expr = .ok range) :
    resolveExpression lines cursor expr =
      (range.resolve lines cursor).mapError (SelectionError.showing expr) := by
  rw [resolveExpression, h]
  dsimp only
  cases range.resolve lines cursor with
  | error cause => cases cause <;> rfl
  | ok block => rfl

theorem resolveExpression_eq_error_iff :
    resolveExpression lines cursor expr = .error e ↔ Fault lines cursor expr e := by
  constructor
  · intro h
    cases hparse : Range.parse expr with
    | error cause =>
        rw [resolveExpression, hparse] at h
        obtain rfl := Except.error.inj h
        exact .reading (Range.parse_eq_error_iff.mp hparse)
    | ok range =>
        rw [resolveExpression_of_parse hparse] at h
        cases hresolve : range.resolve lines cursor with
        | error cause =>
            rw [hresolve] at h
            obtain rfl := Except.error.inj h
            exact .resolving hparse ((Range.resolve_eq_error_iff.mp hresolve).showing expr)
        | ok block =>
            rw [hresolve] at h
            cases h
  · intro fault
    cases fault with
    | reading fault => rw [resolveExpression, Range.parse_eq_error_iff.mpr fault]
    | @resolving range _ hparse fault =>
        have hresolve := Range.resolve_eq_error_iff.mpr (fault.showing range.text)
        rw [resolveExpression_of_parse hparse, hresolve]
        have hshown : (e.showing range.text).showing expr = e.showing expr := by
          cases e <;> rfl
        exact congrArg Except.error (hshown.trans fault.showing_eq)

theorem exists_fault_of_resolveBlocks (h : resolveBlocks lines cursor exprs = .error e) :
    ∃ done expr rest blocks, exprs = done ++ expr :: rest ∧
      resolveBlocks lines cursor done = .ok blocks ∧
      Fault lines (cursorAfter cursor blocks) expr e := by
  induction exprs generalizing cursor with
  | nil => cases h
  | cons first exprs ih =>
      rw [resolveBlocks] at h
      split at h
      · next hfirst =>
        obtain rfl := Except.error.inj h
        exact ⟨[], first, exprs, [], rfl, rfl, resolveExpression_eq_error_iff.mp hfirst⟩
      · next block hblock =>
        split at h
        · next hrest =>
          obtain rfl := Except.error.inj h
          obtain ⟨done, expr, rest, blocks, rfl, hdone, fault⟩ := ih hrest
          refine ⟨first :: done, expr, rest, block :: blocks, rfl, ?_, fault⟩
          exact resolveBlocks_cons_eq_ok_iff.mpr ⟨block, blocks, hblock, hdone, rfl⟩
        · cases h

theorem resolveBlocks_of_fault {done rest : List String} {blocks : List Block}
    (hdone : resolveBlocks lines cursor done = .ok blocks)
    (fault : Fault lines (cursorAfter cursor blocks) expr e) :
    resolveBlocks lines cursor (done ++ expr :: rest) = .error e := by
  rw [resolveBlocks_append, hdone]
  simp only [resolveBlocks, resolveExpression_eq_error_iff.mpr fault]

end Expressions

/-- Selecting fails exactly if some expression has a fault, when it is resolved from the cursor that
those before it leave, and all of those are resolved. What is reported is that fault, whatever
expressions come later. -/
theorem selectIndices_eq_error_iff_firstFault (lines exprs : List String) (e : SelectionError) :
    selectIndices lines exprs = .error e ↔
      ∃ done expr rest blocks, exprs = done ++ expr :: rest ∧
        resolveBlocks lines 0 done = .ok blocks ∧
        Fault lines (cursorAfter 0 blocks) expr e := by
  have hblocks : selectIndices lines exprs = .error e ↔ resolveBlocks lines 0 exprs = .error e := by
    rw [selectIndices]
    split <;> simp_all
  rw [hblocks]
  constructor
  · exact exists_fault_of_resolveBlocks
  · rintro ⟨done, expr, rest, blocks, rfl, hdone, fault⟩
    exact resolveBlocks_of_fault hdone fault

/-- The second of three expressions has two faults; the one that is found first is reported. -/
example : selectIndices ["a\n", "b\n"] ["1", "5,++", "+-"] = .error (.invalidRange "5,++") := by
  decide +kernel

end LineSelect
