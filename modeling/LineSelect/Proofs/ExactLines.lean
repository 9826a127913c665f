import LineSelect.Proofs.Resolution
import LineSelect.Proofs.Search

/-!
Selecting with exact line numbers. Lines are computed here over all integers, and the result is
compared with that of selecting, which caps a line number before the offset is added and the sum
after it. Both agree where no cap is reached, and elsewhere only if neither line is in the text.
-/

namespace LineSelect

/-! ### Exact evaluation -/

namespace Position

/-- The line that a position means, whatever its size, or nothing if no line matches. -/
def exactBase? (position : Position) (lines : List String) (cursor : Int) : Option Int :=
  match position with
  | .line number => some number
  | .pattern source => (searchForward source lines cursor).toOption
  | .last => some lines.length
  | .current => some (max cursor 1)

end Position

namespace Address

/-- The line that an address means: the exact sum of its base and its offset. -/
def exactLine? (address : Address) (lines : List String) (cursor : Int) : Option Int :=
  (address.position.exactBase? lines cursor).map (· + address.offset)

end Address

namespace Range

/-- The line that the end of a range means exactly. -/
def exactStop? (range : Range) (lines : List String) (start : Int) : Option Int :=
  match range.stop with
  | none => some start
  | some (separator, stop) =>
    if separator = .comma ∧ stop.position = .current then none
    else stop.exactLine? lines (separator.anchor start)

/-- The block that a range means exactly: its lines are in order, and the text has them. -/
def exactBlock? (range : Range) (lines : List String) (cursor : Int) : Option Block := do
  let start ← range.start.exactLine? lines cursor
  let stop ← range.exactStop? lines start
  if 1 ≤ start ∧ start ≤ stop ∧ stop ≤ lines.length then some ⟨start.toNat, stop.toNat⟩ else none

end Range

/-- The blocks that expressions mean exactly, each from the last line of the one before. -/
def exactBlocks? (lines : List String) (cursor : Int) : List String → Option (List Block)
  | [] => some []
  | expr :: exprs => do
    let range ← (Range.parse expr).toOption
    let block ← range.exactBlock? lines cursor
    let blocks ← exactBlocks? lines block.last exprs
    some (block :: blocks)

def exactIndices? (lines : List String) (exprs : List String) : Option (List Nat) :=
  (exactBlocks? lines 0 exprs).map fun blocks => blocks.flatMap Block.indices

theorem Range.exactBlock?_eq_some_iff {range : Range} {lines : List String} {cursor : Int}
    {block : Block} :
    range.exactBlock? lines cursor = some block ↔
      range.start.exactLine? lines cursor = some (block.first : Int) ∧
        range.exactStop? lines block.first = some (block.last : Int) ∧
        1 ≤ block.first ∧ block.first ≤ block.last ∧ block.last ≤ lines.length := by
  unfold exactBlock?
  constructor
  · intro h
    obtain ⟨start, hstart, h⟩ := Option.bind_eq_some_iff.mp h
    obtain ⟨stop, hstop, h⟩ := Option.bind_eq_some_iff.mp h
    split at h
    · next bounds =>
      obtain rfl := Option.some.inj h
      have hfirst : (start.toNat : Int) = start := by omega
      have hlast : (stop.toNat : Int) = stop := by omega
      dsimp only
      rw [hfirst, hlast]
      exact ⟨hstart, hstop, by omega⟩
    · cases h
  · rintro ⟨hstart, hstop, hbounds⟩
    simp only [hstart, hstop, Option.bind_eq_bind, Option.bind_some]
    rw [if_pos (by omega)]
    simp

theorem exactBlocks?_cons_eq_some_iff {lines : List String} {cursor : Int} {expr : String}
    {exprs : List String} {blocks : List Block} :
    exactBlocks? lines cursor (expr :: exprs) = some blocks ↔
      ∃ range block more, Range.parse expr = .ok range ∧
        range.exactBlock? lines cursor = some block ∧
        exactBlocks? lines block.last exprs = some more ∧ blocks = block :: more := by
  rw [exactBlocks?]
  constructor
  · intro h
    obtain ⟨range, hparse, h⟩ := Option.bind_eq_some_iff.mp h
    obtain ⟨block, hblock, h⟩ := Option.bind_eq_some_iff.mp h
    obtain ⟨more, hmore, h⟩ := Option.bind_eq_some_iff.mp h
    exact ⟨range, block, more, toOption_eq_some_iff.mp hparse, hblock, hmore,
      (Option.some.inj h).symm⟩
  · rintro ⟨range, block, more, hparse, hblock, hmore, rfl⟩
    simp [toOption_eq_some_iff.mpr hparse, hblock, hmore]

/-! ### Sums that the caps leave alone -/

/-- A base and an offset for which the capped sum means the same line of a text as the exact one.
Either neither the base nor the sum is above the cap; or the capped sum lies behind the text, and
so does the exact one; or the capped sum lies before it, and the exact one is not in it either. -/
def Fits (total : ℕ) (base offset : Int) : Prop :=
  (base ≤ greatestLine ∧ base + offset ≤ greatestLine) ∨
    (total < greatestLine ∧ total < greatestLine + offset) ∨
    (greatestLine + offset < 1 ∧ (base + offset < 1 ∨ total < base + offset))

theorem fits_iff {total : ℕ} {base offset : Int} (short : total ≤ greatestLine) :
    Fits total base offset ↔ ∀ line : Int, 1 ≤ line → line ≤ total →
      (saturate (min base greatestLine + offset) = line ↔ base + offset = line) := by
  unfold Fits saturate leastLine greatestLine at *
  constructor
  · intro h line hfirst hlast
    omega
  · intro h
    -- Only the capped sum and the exact one can tell the two apart.
    have hcapped := h (max (-0x8000000000000000)
      (min 0x7FFFFFFFFFFFFFFF (min base 0x7FFFFFFFFFFFFFFF + offset)))
    have hexact := h (base + offset)
    omega

section Caps

variable {lines : List String} {cursor : Int}

theorem bounds_of_searchForward {source : String} {line : Int}
    (h : searchForward source lines cursor = .ok line) : 0 < line ∧ line ≤ lines.length := by
  obtain ⟨pattern, -, hleast⟩ := searchForward_eq_ok_iff.mp h
  obtain ⟨-, hpositive, content, hline, -⟩ := hleast.1
  obtain ⟨hplace, -⟩ := List.getElem?_eq_some_iff.mp hline
  omega

theorem Position.resolve_eq_ok_iff_exactBase? {position : Position} {base : Int}
    (short : lines.length ≤ greatestLine) (low : cursor ≤ greatestLine) :
    position.resolve lines cursor = .ok base ↔
      ∃ exact, position.exactBase? lines cursor = some exact ∧ min exact greatestLine = base := by
  cases position with
  | line number => simp [resolve, exactBase?]
  | pattern source =>
      simp only [resolve, exactBase?, toOption_eq_some_iff]
      constructor
      · intro h
        exact ⟨base, h, min_eq_left ((bounds_of_searchForward h).2.trans short)⟩
      · rintro ⟨exact, h, rfl⟩
        rwa [min_eq_left ((bounds_of_searchForward h).2.trans short)]
  | last => simp [resolve, exactBase?, min_eq_left short]
  | current =>
      have hcursor : min (max cursor 1) greatestLine = if 0 < cursor then cursor else 1 := by
        unfold greatestLine at *
        split <;> omega
      simp [resolve, exactBase?, hcursor]

theorem Address.resolve_eq_ok_iff_exactBase? {address : Address} {line : Int}
    (short : lines.length ≤ greatestLine) (low : cursor ≤ greatestLine) :
    address.resolve lines cursor = .ok line ↔
      ∃ base, address.position.exactBase? lines cursor = some base ∧
        saturate (min base greatestLine + address.offset) = line := by
  have hposition : ∀ base, address.position.resolve lines cursor = .ok base ↔
      ∃ exact, address.position.exactBase? lines cursor = some exact ∧
        min exact greatestLine = base :=
    fun _ => Position.resolve_eq_ok_iff_exactBase? short low
  unfold resolve
  constructor
  · intro h
    split at h
    · cases h
    · next base hbase =>
      obtain ⟨exact, hexact, rfl⟩ := (hposition base).mp hbase
      exact ⟨exact, hexact, Except.ok.inj h⟩
  · rintro ⟨base, hbase, rfl⟩
    rw [(hposition _).mpr ⟨base, hbase, rfl⟩]

end Caps

/-! ### Addresses, ranges and runs that fit -/

/-- The sum of an address fits, if it has one. -/
def Address.Fits (address : Address) (lines : List String) (cursor : Int) : Prop :=
  ∀ base, address.position.exactBase? lines cursor = some base →
    LineSelect.Fits lines.length base address.offset

/-- The start of a range fits, and so does its end if the start is a line of the text. -/
def Range.Fits (range : Range) (lines : List String) (cursor : Int) : Prop :=
  range.start.Fits lines cursor ∧
    ∀ start, range.start.exactLine? lines cursor = some start → 1 ≤ start →
      start ≤ lines.length →
      ∀ separator stop, range.stop = some (separator, stop) →
        stop.Fits lines (separator.anchor start)

/-- Every range fits that an exact run comes to. -/
def RunFits (lines : List String) (cursor : Int) : List String → Prop
  | [] => True
  | expr :: exprs => ∀ range, Range.parse expr = .ok range → range.Fits lines cursor ∧
      ∀ block, range.exactBlock? lines cursor = some block → RunFits lines block.last exprs

/-- An address fits exactly if resolving it gives the same lines of the text as adding. -/
theorem Address.fits_iff {address : Address} {lines : List String} {cursor : Int}
    (short : lines.length ≤ greatestLine) (low : cursor ≤ greatestLine) :
    address.Fits lines cursor ↔ ∀ line : Int, 1 ≤ line → line ≤ lines.length →
      (address.resolve lines cursor = .ok line ↔ address.exactLine? lines cursor = some line) := by
  simp only [Fits, exactLine?, resolve_eq_ok_iff_exactBase? short low, LineSelect.fits_iff short]
  cases address.position.exactBase? lines cursor <;> simp

section Agreement

variable {lines : List String} {cursor : Int}

theorem Address.fits_of_agreement {address : Address} {line : Int}
    (short : lines.length ≤ greatestLine) (low : cursor ≤ greatestLine)
    (h : address.resolve lines cursor = .ok line)
    (hexact : address.exactLine? lines cursor = some line) : address.Fits lines cursor := by
  rw [fits_iff short low, h, hexact]
  simp

theorem Separator.anchor_le_greatestLine {separator : Separator} {start : Int}
    (low : start ≤ greatestLine) : separator.anchor start ≤ greatestLine := by
  cases separator with
  | comma =>
      rw [anchor_comma]
      decide
  | semicolon => exact low

theorem Range.resolveStop_iff_exactStop? {range : Range} {start line : Int}
    (short : lines.length ≤ greatestLine) (hstart : start ≤ lines.length)
    (fits : ∀ separator stop, range.stop = some (separator, stop) →
      stop.Fits lines (separator.anchor start))
    (hfirst : 1 ≤ line) (hlast : line ≤ lines.length) :
    range.resolveStop lines start = .ok line ↔ range.exactStop? lines start = some line := by
  have hlow := hstart.trans short
  rcases hstop : range.stop with - | ⟨separator, stop⟩
  · simp [resolveStop, exactStop?, hstop]
  · have hfits := (Address.fits_iff short (Separator.anchor_le_greatestLine hlow)).mp
      (fits separator stop hstop) line hfirst hlast
    cases separator with
    | comma =>
        by_cases hrelative : stop.position = .current
        · simp [resolveStop, exactStop?, hstop, Address.isRelative, hrelative]
        · simpa [resolveStop, exactStop?, hstop, Address.isRelative, hrelative] using hfits
    | semicolon => simpa [resolveStop, exactStop?, hstop] using hfits

theorem Range.resolve_iff_exactBlock? {range : Range} {block : Block}
    (short : lines.length ≤ greatestLine) (low : cursor ≤ greatestLine)
    (fits : range.Fits lines cursor) :
    range.resolve lines cursor = .ok block ↔ range.exactBlock? lines cursor = some block := by
  rw [resolve_eq_ok_iff, exactBlock?_eq_some_iff]
  have hstart (hbounds : 1 ≤ block.first ∧ block.first ≤ lines.length) :
      range.start.resolve lines cursor = .ok (block.first : Int) ↔
        range.start.exactLine? lines cursor = some (block.first : Int) :=
    (Address.fits_iff short low).mp fits.1 block.first (by omega) (by omega)
  have hstop (hexact : range.start.exactLine? lines cursor = some (block.first : Int))
      (hbounds : 1 ≤ block.first ∧ block.first ≤ block.last ∧ block.last ≤ lines.length) :
      range.resolveStop lines block.first = .ok (block.last : Int) ↔
        range.exactStop? lines block.first = some (block.last : Int) :=
    resolveStop_iff_exactStop? short (by omega) (fits.2 _ hexact (by omega) (by omega))
      (by omega) (by omega)
  constructor
  · rintro ⟨h, hlast, hbounds⟩
    have hexact := (hstart (by omega)).mp h
    exact ⟨hexact, (hstop hexact hbounds).mp (resolveStop_eq_ok_iff.mpr hlast), hbounds⟩
  · rintro ⟨hexact, hlast, hbounds⟩
    exact ⟨(hstart (by omega)).mpr hexact,
      resolveStop_eq_ok_iff.mp ((hstop hexact hbounds).mpr hlast), hbounds⟩

theorem Range.fits_of_agreement {range : Range} {block : Block}
    (short : lines.length ≤ greatestLine) (low : cursor ≤ greatestLine)
    (h : range.resolve lines cursor = .ok block)
    (hexact : range.exactBlock? lines cursor = some block) : range.Fits lines cursor := by
  obtain ⟨hstart, hstop, hbounds⟩ := resolve_eq_ok_iff.mp h
  obtain ⟨hline, hend, -⟩ := exactBlock?_eq_some_iff.mp hexact
  refine ⟨Address.fits_of_agreement short low hstart hline, ?_⟩
  intro start hfirst _ _ separator stop hpair
  obtain rfl := Option.some.inj (hline.symm.trans hfirst)
  have hlow : separator.anchor block.first ≤ greatestLine :=
    Separator.anchor_le_greatestLine (by omega)
  rw [exactStop?, hpair] at hend
  rw [hpair] at hstop
  cases hstop with
  | fromBeginning fixed resolved =>
      exact Address.fits_of_agreement short hlow resolved (by simpa [fixed] using hend)
  | fromStart resolved =>
      exact Address.fits_of_agreement short hlow resolved (by simpa using hend)

theorem resolveBlocks_iff_exactBlocks? {exprs : List String} {blocks : List Block}
    (short : lines.length ≤ greatestLine) (low : cursor ≤ greatestLine)
    (fits : RunFits lines cursor exprs) :
    resolveBlocks lines cursor exprs = .ok blocks ↔
      exactBlocks? lines cursor exprs = some blocks := by
  induction exprs generalizing cursor blocks with
  | nil => simp [resolveBlocks, exactBlocks?]
  | cons expr exprs ih =>
      rw [resolveBlocks_cons_eq_ok_iff, exactBlocks?_cons_eq_some_iff]
      constructor
      · rintro ⟨block, more, hblock, hmore, rfl⟩
        obtain ⟨range, hparse, hresolve⟩ := resolveExpression_eq_ok_iff.mp hblock
        obtain ⟨hfits, hrest⟩ := fits range hparse
        have hexact := (Range.resolve_iff_exactBlock? short low hfits).mp hresolve
        obtain ⟨-, -, hbounds⟩ := Range.exactBlock?_eq_some_iff.mp hexact
        exact ⟨range, block, more, hparse, hexact,
          (ih (by omega) (hrest block hexact)).mp hmore, rfl⟩
      · rintro ⟨range, block, more, hparse, hexact, hmore, rfl⟩
        obtain ⟨hfits, hrest⟩ := fits range hparse
        have hresolve := (Range.resolve_iff_exactBlock? short low hfits).mpr hexact
        obtain ⟨-, -, hbounds⟩ := Range.exactBlock?_eq_some_iff.mp hexact
        exact ⟨block, more, resolveExpression_eq_ok_iff.mpr ⟨range, hparse, hresolve⟩,
          (ih (by omega) (hrest block hexact)).mpr hmore, rfl⟩

theorem runFits_of_agreement {exprs : List String} {blocks : List Block}
    (short : lines.length ≤ greatestLine) (low : cursor ≤ greatestLine)
    (h : resolveBlocks lines cursor exprs = .ok blocks)
    (hexact : exactBlocks? lines cursor exprs = some blocks) : RunFits lines cursor exprs := by
  induction exprs generalizing cursor blocks with
  | nil => trivial
  | cons expr exprs ih =>
      obtain ⟨block, more, hblock, hmore, rfl⟩ := resolveBlocks_cons_eq_ok_iff.mp h
      obtain ⟨range, hparse, hresolve⟩ := resolveExpression_eq_ok_iff.mp hblock
      obtain ⟨range₂, block₂, more₂, hparse₂, hblock₂, hmore₂, hcons⟩ :=
        exactBlocks?_cons_eq_some_iff.mp hexact
      obtain ⟨rfl, rfl⟩ := List.cons.inj hcons
      obtain rfl := Except.ok.inj (hparse.symm.trans hparse₂)
      obtain ⟨-, -, hbounds⟩ := Range.exactBlock?_eq_some_iff.mp hblock₂
      intro other hother
      obtain rfl := Except.ok.inj (hparse.symm.trans hother)
      refine ⟨Range.fits_of_agreement short low hresolve hblock₂, fun next hnext => ?_⟩
      obtain rfl := Option.some.inj (hblock₂.symm.trans hnext)
      exact ih (by omega) hmore hmore₂

end Agreement

/-! ### Line numbers below the cap -/

/-- No line number of the range, as it is written, is above the greatest one. -/
def Range.Uncapped (range : Range) : Prop :=
  ∀ address ∈ range.addresses, ∀ number : ℕ, address.position = .line number →
    (number : Int) ≤ greatestLine

section Uncapped

variable {lines : List String} {cursor : Int}

theorem fits_of_base_le {total : ℕ} {base offset : Int} (short : total < greatestLine)
    (hbase : base ≤ greatestLine) : Fits total base offset := by
  unfold Fits
  omega

theorem Address.fits_of_uncapped {address : Address} (short : lines.length < greatestLine)
    (low : cursor ≤ greatestLine)
    (uncapped : ∀ number : ℕ, address.position = .line number → (number : Int) ≤ greatestLine) :
    address.Fits lines cursor := by
  intro base hbase
  refine fits_of_base_le short ?_
  rcases hposition : address.position with number | source | - | -
  all_goals rw [hposition] at hbase
  · exact Option.some.inj hbase ▸ uncapped number hposition
  · have hfound := (bounds_of_searchForward (toOption_eq_some_iff.mp hbase)).2
    omega
  · exact Option.some.inj hbase ▸ short.le
  · have hone : (1 : Int) ≤ greatestLine := by decide
    exact Option.some.inj hbase ▸ max_le low hone

theorem Range.fits_of_uncapped {range : Range} (short : lines.length < greatestLine)
    (low : cursor ≤ greatestLine) (uncapped : range.Uncapped) : range.Fits lines cursor := by
  refine ⟨Address.fits_of_uncapped short low (uncapped _ (by simp [addresses])), ?_⟩
  intro start _ _ hstart separator stop hstop
  refine Address.fits_of_uncapped short (Separator.anchor_le_greatestLine (by omega)) ?_
  exact uncapped stop (by simp [addresses, hstop])

theorem runFits_of_uncapped {exprs : List String} (short : lines.length < greatestLine)
    (low : cursor ≤ greatestLine)
    (uncapped : ∀ expr ∈ exprs, ∀ range, Range.parse expr = .ok range → range.Uncapped) :
    RunFits lines cursor exprs := by
  induction exprs generalizing cursor with
  | nil => trivial
  | cons expr exprs ih =>
      intro range hparse
      refine ⟨Range.fits_of_uncapped short low (uncapped expr (by simp) range hparse), ?_⟩
      intro block hblock
      obtain ⟨-, -, hbounds⟩ := Range.exactBlock?_eq_some_iff.mp hblock
      exact ih (by omega) fun expr hexpr => uncapped expr (by simp [hexpr])

end Uncapped

/-- When capped line numbers select the exact lines, in four parts. An address means the same line
of the text either way exactly if it fits. A run that fits selects the exact lines, and fails if
they are not all in the text. A run that succeeds in either way has the same blocks in both exactly
if it fits. And every run fits in a text below the greatest length if no number that it names is
above the greatest line. -/
theorem selectIndices_exact_iff_runFits (lines : List String) (short : lines.length ≤ greatestLine)
    (exprs : List String) :
    (∀ (address : Address) (cursor : Int), cursor ≤ greatestLine →
      (address.Fits lines cursor ↔ ∀ line : Int, 1 ≤ line → line ≤ lines.length →
        (address.resolve lines cursor = .ok line ↔
          address.exactLine? lines cursor = some line))) ∧
    (RunFits lines 0 exprs → ∀ indices,
      selectIndices lines exprs = .ok indices ↔ exactIndices? lines exprs = some indices) ∧
    (∀ blocks, resolveBlocks lines 0 exprs = .ok blocks ∨
        exactBlocks? lines 0 exprs = some blocks →
      (RunFits lines 0 exprs ↔ ∀ others,
        resolveBlocks lines 0 exprs = .ok others ↔ exactBlocks? lines 0 exprs = some others)) ∧
    (lines.length < greatestLine →
      (∀ expr ∈ exprs, ∀ range, Range.parse expr = .ok range → range.Uncapped) →
      RunFits lines 0 exprs) := by
  have hzero : (0 : Int) ≤ greatestLine := by decide
  refine ⟨fun address cursor low => Address.fits_iff short low, fun fits indices => ?_,
    fun blocks h => ⟨fun fits others => ?_, fun hagree => ?_⟩,
    fun hlength uncapped => runFits_of_uncapped hlength hzero uncapped⟩
  · have hblocks : ∀ blocks, resolveBlocks lines 0 exprs = .ok blocks ↔
        exactBlocks? lines 0 exprs = some blocks :=
      fun _ => resolveBlocks_iff_exactBlocks? short hzero fits
    rw [exactIndices?, Option.map_eq_some_iff, selectIndices]
    constructor
    · intro h
      split at h
      · cases h
      · next blocks hresolved =>
        exact ⟨blocks, (hblocks blocks).mp hresolved, Except.ok.inj h⟩
    · rintro ⟨blocks, hexact, rfl⟩
      rw [(hblocks blocks).mpr hexact]
  · exact resolveBlocks_iff_exactBlocks? short hzero fits
  · rcases h with h | h
    · exact runFits_of_agreement short hzero h ((hagree blocks).mp h)
    · exact runFits_of_agreement short hzero ((hagree blocks).mpr h) h

theorem selectIndices_exact_two_lines :
    exactIndices? ["a\n", "b\n"] ["$-1;+1"] = some [0, 1] := by
  have main := selectIndices_exact_iff_runFits ["a\n", "b\n"] (by decide) ["$-1;+1"]
  have hparse : Range.parse "$-1;+1" = .ok ⟨⟨.last, -1⟩, some (.semicolon, ⟨.current, 1⟩)⟩ := by
    decide +kernel
  have fits : RunFits ["a\n", "b\n"] 0 ["$-1;+1"] := by
    refine main.2.2.2 (by decide) fun expr hexpr range h => ?_
    obtain rfl := List.mem_singleton.mp hexpr
    obtain rfl := Except.ok.inj (hparse.symm.trans h)
    simp [Range.Uncapped, Range.addresses]
  exact (main.2.1 fits [0, 1]).mp (by decide +kernel)

/-- Caps go wrong in both ways: an address of line 1 is taken for line 0, and an address of a line
far behind the text is taken for line 1. -/
theorem selectIndices_capped_inexact :
    (selectIndices ["a\n"] ["9223372036854775808-9223372036854775807"] =
        .error (.outOfBounds 0 1) ∧
      exactIndices? ["a\n"] ["9223372036854775808-9223372036854775807"] = some [0]) ∧
    (selectIndices ["a\n"] ["18446744073709551615-9223372036854775806"] = .ok [0] ∧
      exactIndices? ["a\n"] ["18446744073709551615-9223372036854775806"] = none) := by
  decide +kernel

end LineSelect
