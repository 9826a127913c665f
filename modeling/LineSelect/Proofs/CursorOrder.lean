import LineSelect.Proofs.FirstFault

/-!
How lines depend on the cursor. An address that is resolved from a cursor is resolved from every
earlier one too, to the same line or a line before it. Since the end of a range counts from line 1
after a comma, and from the start after a semicolon, the two separators differ in no more than that;
the main statement says in which way, and for which ends they do not differ at all.
-/

namespace LineSelect

section Search

variable {source : String} {lines : List String} {early late : Int}

theorem searchForward_mono (h : early ≤ late) {line : Int}
    (found : searchForward source lines late = .ok line) :
    ∃ before ≤ line, searchForward source lines early = .ok before := by
  obtain ⟨pattern, hcompile, ⟨hlate, hmatch⟩, -⟩ := searchForward_eq_ok_iff.mp found
  have hskip : max early 0 < line := by omega
  rcases hearly : searchForward source lines early with e | before
  · rcases searchForward_eq_error_iff.mp hearly with ⟨cause, hbad, -⟩ | ⟨other, hother, hnone, -⟩
    · rw [hcompile] at hbad
      cases hbad
    · obtain rfl := Except.ok.inj (hcompile.symm.trans hother)
      exact absurd hmatch (hnone line hskip)
  · obtain ⟨other, hother, hleast⟩ := searchForward_eq_ok_iff.mp hearly
    obtain rfl := Except.ok.inj (hcompile.symm.trans hother)
    exact ⟨before, hleast.2 ⟨hskip, hmatch⟩, rfl⟩

theorem searchForward_of_nonpos (h : early ≤ 0) :
    searchForward source lines early = searchForward source lines 0 := by
  have hskip : early.toNat = 0 := by omega
  rw [searchForward, searchForward, hskip]
  rfl

theorem searchForward_eq_of_unmatched (h : early ≤ late)
    (unmatched : ∀ pattern, Pattern.compile source = .ok pattern →
      ∀ n, max early 0 < n → n ≤ late → ¬ pattern.MatchesLine lines n) :
    searchForward source lines early = searchForward source lines late := by
  -- A line that matches lies behind the one cursor just if it lies behind the other.
  have hsame : ∀ pattern, Pattern.compile source = .ok pattern → ∀ n,
      pattern.MatchesLine lines n → (max early 0 < n ↔ max late 0 < n) := by
    intro pattern hcompile n hmatch
    constructor
    · intro hn
      by_contra hlate
      exact unmatched pattern hcompile n hn (by omega) hmatch
    · intro hn
      omega
  rcases hlate : searchForward source lines late with e | line
  · apply searchForward_eq_error_iff.mpr
    rcases searchForward_eq_error_iff.mp hlate with hbad | ⟨pattern, hcompile, hnone, he⟩
    · exact .inl hbad
    · refine .inr ⟨pattern, hcompile, ?_, he⟩
      intro n hn hmatch
      exact hnone n ((hsame pattern hcompile n hmatch).mp hn) hmatch
  · obtain ⟨pattern, hcompile, ⟨hn, hmatch⟩, hleast⟩ := searchForward_eq_ok_iff.mp hlate
    apply searchForward_eq_ok_iff.mpr
    refine ⟨pattern, hcompile, ⟨(hsame pattern hcompile line hmatch).mpr hn, hmatch⟩, ?_⟩
    rintro n ⟨hn, hmatch⟩
    exact hleast ⟨(hsame pattern hcompile n hmatch).mp hn, hmatch⟩

end Search

section Resolve

variable {lines : List String} {early late line : Int}

theorem Position.resolve_mono {position : Position} (h : early ≤ late)
    (resolved : position.resolve lines late = .ok line) :
    ∃ before ≤ line, position.resolve lines early = .ok before := by
  cases position with
  | pattern source => exact searchForward_mono h resolved
  | line number => exact ⟨line, le_rfl, resolved⟩
  | last => exact ⟨line, le_rfl, resolved⟩
  | current =>
      obtain rfl := Except.ok.inj resolved
      refine ⟨_, ?_, rfl⟩
      split <;> split <;> omega

theorem Position.resolve_of_nonpos {position : Position} (h : early ≤ 0) :
    position.resolve lines early = position.resolve lines 0 := by
  cases position with
  | pattern source => exact searchForward_of_nonpos h
  | current => simp [resolve, not_lt.mpr h]
  | line | last => rfl

theorem Address.resolve_mono {a : Address} (h : early ≤ late)
    (resolved : a.resolve lines late = .ok line) :
    ∃ before ≤ line, a.resolve lines early = .ok before := by
  unfold resolve at resolved
  split at resolved
  · cases resolved
  · next base hbase =>
    obtain rfl := Except.ok.inj resolved
    obtain ⟨before, hle, hbefore⟩ := Position.resolve_mono h hbase
    -- Lines keep their order where the sum is cut off.
    refine ⟨saturate (before + a.offset), saturate_mono (by omega), ?_⟩
    rw [resolve, hbefore]

theorem Address.resolve_of_nonpos {a : Address} (h : early ≤ 0) :
    a.resolve lines early = a.resolve lines 0 := by
  rw [resolve, resolve, Position.resolve_of_nonpos h]

end Resolve

/-! ### The two separators -/

/-- Ends that mean the same line after the first line as after line `start`. -/
inductive Position.IgnoresAnchor (lines : List String) (start : Int) : Position → Prop where
  | line {number : Nat} : IgnoresAnchor lines start (.line number)
  | last : IgnoresAnchor lines start .last
  | pattern {source : String}
      (unmatched : ∀ pattern, Pattern.compile source = .ok pattern →
        ∀ n, 2 ≤ n → n ≤ start → ¬ pattern.MatchesLine lines n) :
      IgnoresAnchor lines start (.pattern source)

namespace Position.IgnoresAnchor

variable {lines : List String} {start : Int} {position : Position}

theorem ne_current (ignores : position.IgnoresAnchor lines start) : position ≠ .current := by
  rintro rfl
  cases ignores

theorem resolve_eq (ignores : position.IgnoresAnchor lines start) (positive : 1 ≤ start) :
    position.resolve lines 1 = position.resolve lines start := by
  cases ignores with
  | line | last => rfl
  | pattern unmatched =>
      apply searchForward_eq_of_unmatched positive
      intro pattern hcompile n hone
      exact unmatched pattern hcompile n (by omega)

end Position.IgnoresAnchor

namespace Range

variable {lines : List String} {start stop : Address} {first cursor : Int}

theorem resolveStop_comma_le (fixed : stop.isRelative = false) (positive : 1 ≤ first) {line : Int}
    (resolved : resolveStop ⟨start, some (.semicolon, stop)⟩ lines first = .ok line) :
    ∃ before ≤ line, resolveStop ⟨start, some (.comma, stop)⟩ lines first = .ok before := by
  obtain ⟨before, hle, hbefore⟩ := Address.resolve_mono positive resolved
  refine ⟨before, hle, ?_⟩
  simpa [resolveStop, fixed] using hbefore

theorem resolveStop_comma_eq (ignores : stop.position.IgnoresAnchor lines first)
    (positive : 1 ≤ first) :
    resolveStop ⟨start, some (.comma, stop)⟩ lines first =
      resolveStop ⟨start, some (.semicolon, stop)⟩ lines first := by
  have hfixed : stop.isRelative = false := by
    simpa [Address.isRelative] using ignores.ne_current
  simp [resolveStop, hfixed, Address.resolve, ignores.resolve_eq positive]

theorem resolve_comma_eq (resolved : start.resolve lines cursor = .ok first)
    (ignores : stop.position.IgnoresAnchor lines first) (positive : 1 ≤ first) :
    resolve ⟨start, some (.comma, stop)⟩ lines cursor =
      resolve ⟨start, some (.semicolon, stop)⟩ lines cursor := by
  rw [resolve, resolve]
  simp only [resolved, resolveStop_comma_eq ignores positive]

/-- How lines follow the cursor, in four parts. What is resolved from a cursor is resolved from
every earlier one, to no later line. Cursors up to 0 are all alike. If the start of a range is line
1 or a later one and an end is resolved after a semicolon, it is resolved after a comma, to no later
line. And the range is the same with both separators if the end is a line number or the last line,
or a search that finds nothing behind line 1 up to the start. -/
theorem resolve_follows_cursor (lines : List String) :
    (∀ (a : Address) (early late line : Int), early ≤ late → a.resolve lines late = .ok line →
      ∃ before ≤ line, a.resolve lines early = .ok before) ∧
    (∀ (a : Address) (early late : Int), early ≤ 0 → late ≤ 0 →
      a.resolve lines early = a.resolve lines late) ∧
    ∀ (start stop : Address) (cursor first : Int), start.resolve lines cursor = .ok first →
      1 ≤ first → stop.isRelative = false →
      (∀ line, resolveStop ⟨start, some (.semicolon, stop)⟩ lines first = .ok line →
        ∃ before ≤ line, resolveStop ⟨start, some (.comma, stop)⟩ lines first = .ok before) ∧
      (stop.position.IgnoresAnchor lines first →
        resolve ⟨start, some (.comma, stop)⟩ lines cursor =
          resolve ⟨start, some (.semicolon, stop)⟩ lines cursor) := by
  refine ⟨?_, ?_, ?_⟩
  · intro a early late line h resolved
    exact Address.resolve_mono h resolved
  · intro a early late hearly hlate
    rw [Address.resolve_of_nonpos hearly, Address.resolve_of_nonpos hlate]
  · intro start stop cursor first resolved positive fixed
    constructor
    · intro line hline
      exact resolveStop_comma_le fixed positive hline
    · intro ignores
      exact resolve_comma_eq resolved ignores positive

/-- From line 2, which does not match, a search finds line 3 after either separator; from line 3 it
finds line 4 after a semicolon, and line 3 itself after a comma. -/
theorem resolve_follows_cursor_searches :
    (∃ before ≤ 4, Address.resolve ⟨.pattern "b", 0⟩ ["b\n", "a\n", "b\n", "b"] (-1) =
      .ok before) ∧
    Address.resolve ⟨.pattern "b", -2⟩ ["b\n", "a\n", "b\n", "b"] (-1) =
      Address.resolve ⟨.pattern "b", -2⟩ ["b\n", "a\n", "b\n", "b"] 0 ∧
    (∃ before ≤ 4, resolveStop ⟨⟨.line 3, 0⟩, some (.comma, ⟨.pattern "b", 0⟩)⟩
      ["b\n", "a\n", "b\n", "b"] 3 = .ok before) ∧
    resolve ⟨⟨.line 2, 0⟩, some (.comma, ⟨.pattern "b", 0⟩)⟩ ["b\n", "a\n", "b\n", "b"] 0 =
      resolve ⟨⟨.line 2, 0⟩, some (.semicolon, ⟨.pattern "b", 0⟩)⟩
        ["b\n", "a\n", "b\n", "b"] 0 := by
  obtain ⟨mono, nonpos, separators⟩ := resolve_follows_cursor ["b\n", "a\n", "b\n", "b"]
  have hlate : Address.resolve ⟨.pattern "b", 0⟩ ["b\n", "a\n", "b\n", "b"] 3 = .ok 4 := by
    decide +kernel
  have hmatch : (Pattern.compile "b").toOption.map (fun p => p.matchesIn ['a']) = some false := by
    decide +kernel
  refine ⟨mono _ (-1) 3 4 (by decide) hlate, nonpos _ (-1) 0 (by decide) (by decide), ?_, ?_⟩
  · exact (separators ⟨.line 3, 0⟩ _ 0 3 (by decide) (by decide) (by decide)).1 4 hlate
  · apply (separators ⟨.line 2, 0⟩ _ 0 2 (by decide) (by decide) (by decide)).2
    constructor
    rintro pattern hcompile n htwo hn ⟨-, line, hline, hmatches⟩
    obtain rfl : n = 2 := by omega
    obtain rfl := Option.some.inj hline
    rw [hcompile] at hmatch
    exact absurd ((Option.some.inj hmatch).symm.trans hmatches) (by decide)

end Range

end LineSelect
