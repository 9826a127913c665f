import LineSelect.Proofs.CheckedReading
import LineSelect.Proofs.ExactLines
import LineSelect.Proofs.LineList
import LineSelect.Proofs.PrintedLines

/-!
Checked selection: resolving addresses and ranges, selecting lines and printing them, all with words
of 64 bits and with places that have to be there. Over a text with as many lines as such a word can
count nothing traps, and the results and faults are those of the unchecked functions of the same
names.
-/

namespace LineSelect.Checked

open LineSelect.Text LineSelect.CommandLine

/-! ### Resolving -/

def searchForward (source : String) (lines : List String) (cursor : Int) : Except Halt Int :=
  match Pattern.compile source with
  | .error cause => throw (.fault (.badPattern cause))
  | .ok pattern =>
    match (lines.drop cursor.toNat).findIdx? fun line => pattern.matchesIn (content line) with
    | some i => do
      let place ← signed (cursor.toNat + i)
      signed (place + 1)
    | none => throw (.fault (.patternNotFound source))

def resolvePosition (position : Position) (lines : List String) (cursor : Int) :
    Except Halt Int :=
  match position with
  | .line number => return min (number : Int) greatestLine
  | .pattern source => searchForward source lines cursor
  | .last => signed lines.length
  | .current => return if 0 < cursor then cursor else 1

/-- The line that an address means; only the sum of two words is cut off. -/
def resolveAddress (address : Address) (lines : List String) (cursor : Int) :
    Except Halt Int := do
  let base ← signed (← resolvePosition address.position lines cursor)
  let offset ← signed address.offset
  return saturate (base + offset)

def resolveStop (range : Range) (lines : List String) (start : Int) : Except Halt Int :=
  match range.stop with
  | none => return start
  | some (.comma, stop) =>
    if stop.isRelative then throw (.fault (.invalidRange range.text))
    else resolveAddress stop lines 1
  | some (.semicolon, stop) => resolveAddress stop lines start

/-- A line has to be there; its number is compared as a word without a sign. -/
def checkBounds (line : Int) (total : Nat) : Except Halt Unit := do
  if line < 1 then throw (.fault (.outOfBounds line total))
  else if total < (← unsigned line) then throw (.fault (.outOfBounds line total))
  else return ()

/-- The places between two lines, and the line of the second. -/
def checkBlock (start stop : Int) (total : Nat) : Except Halt (List Nat × Int) := do
  if stop < start then throw (.fault (.startAfterEnd start stop))
  else
    checkBounds start total
    checkBounds stop total
    let first ← unsigned ((← unsigned start) - 1)
    let past ← unsigned stop
    return (List.range' first (past - first), stop)

def resolveRange (range : Range) (lines : List String) (cursor : Int) :
    Except Halt (List Nat × Int) := do
  let start ← resolveAddress range.start lines cursor
  let stop ← resolveStop range lines start
  checkBlock start stop lines.length

def resolveExpression (lines : List String) (cursor : Int) (expr : String) :
    Except Halt (List Nat × Int) := do
  let range ← parseRange expr
  match resolveRange range lines cursor with
  | .error (.fault (.invalidRange _)) => throw (.fault (.invalidRange expr))
  | result => result

/-- Adds the places that expressions select to those before, from left to right. -/
def resolveAll (lines : List String) (cursor : Int) (selected : List Nat) :
    List String → Except Halt (List Nat)
  | [] => return selected
  | expr :: rest => do
    let (places, stop) ← resolveExpression lines cursor expr
    resolveAll lines stop (selected ++ places) rest

theorem isWord_offset {address : Address} (fits : address.FitsWords) : IsWord address.offset :=
  ⟨fits.low, Int.le_sub_one_of_lt fits.high⟩

theorem isWord_of_resolve {address : Address} {lines : List String} {cursor line : Int}
    (h : address.resolve lines cursor = .ok line) : IsWord line := by
  unfold Address.resolve at h
  split at h
  · cases h
  · obtain rfl := Except.ok.inj h
    exact isWord_saturate _

theorem isWord_of_resolveStop {range : Range} {lines : List String} {start stop : Int}
    (word : IsWord start) (h : range.resolveStop lines start = .ok stop) : IsWord stop := by
  obtain ⟨first, last⟩ := range
  cases Range.resolveStop_eq_ok_iff.mp h with
  | alone => exact word
  | fromBeginning _ resolved => exact isWord_of_resolve resolved
  | fromStart resolved => exact isWord_of_resolve resolved

section Resolving

variable {lines : List String} {cursor : Int}

theorem searchForward_eq (short : lines.length ≤ greatestLine) (source : String) :
    searchForward source lines cursor =
      ofResult (LineSelect.searchForward source lines cursor) := by
  unfold searchForward LineSelect.searchForward
  cases Pattern.compile source with
  | error cause => rfl
  | ok pattern =>
      dsimp only
      cases hfound : (lines.drop cursor.toNat).findIdx? fun line =>
          pattern.matchesIn (content line) with
      | none => rfl
      | some i =>
          have hplace := (List.findIdx?_eq_some_iff_getElem.mp hfound).1
          rw [List.length_drop] at hplace
          dsimp only
          rw [signed_eq_ok (isWord_of_nonneg (by omega) (by omega)), ok_bind,
            signed_eq_ok (isWord_of_nonneg (by omega) (by omega))]
          rfl

theorem isWord_of_resolvePosition (short : lines.length ≤ greatestLine) (word : IsWord cursor)
    {position : Position} {base : Int} (h : position.resolve lines cursor = .ok base) :
    IsWord base := by
  cases position with
  | line number =>
      obtain rfl := Except.ok.inj h
      exact isWord_of_nonneg (le_min (by omega) (by decide)) (min_le_right _ _)
  | pattern source =>
      obtain ⟨hpositive, hlast⟩ := bounds_of_searchForward h
      exact isWord_of_nonneg hpositive.le (hlast.trans short)
  | last =>
      obtain rfl := Except.ok.inj h
      exact isWord_of_nonneg (by omega) short
  | current =>
      obtain rfl := Except.ok.inj h
      split
      · exact word
      · decide

theorem resolvePosition_eq (short : lines.length ≤ greatestLine) (position : Position) :
    resolvePosition position lines cursor = ofResult (position.resolve lines cursor) := by
  cases position with
  | line number => rfl
  | pattern source => exact searchForward_eq short source
  | last => exact signed_eq_ok (isWord_of_nonneg (by omega) short)
  | current => rfl

theorem resolveAddress_eq (short : lines.length ≤ greatestLine) (word : IsWord cursor)
    {address : Address} (fits : address.FitsWords) :
    resolveAddress address lines cursor = ofResult (address.resolve lines cursor) := by
  rw [resolveAddress, resolvePosition_eq short, Address.resolve]
  cases hbase : address.position.resolve lines cursor with
  | error e => rfl
  | ok base =>
      rw [ofResult_ok, ok_bind, signed_eq_ok (isWord_of_resolvePosition short word hbase), ok_bind,
        signed_eq_ok (isWord_offset fits)]
      rfl

theorem resolveStop_eq (short : lines.length ≤ greatestLine) {start : Int} (word : IsWord start)
    {range : Range} (fits : ∀ a ∈ range.addresses, a.FitsWords) :
    resolveStop range lines start = ofResult (range.resolveStop lines start) := by
  obtain ⟨first, _ | ⟨_ | _, stop⟩⟩ := range
  · rfl
  · rw [Range.forall_addresses_span] at fits
    simp only [resolveStop, Range.resolveStop]
    split
    · rfl
    · exact resolveAddress_eq short (by decide) fits.2
  · rw [Range.forall_addresses_span] at fits
    exact resolveAddress_eq short word fits.2

theorem checkBounds_eq {line : Int} {total : Nat} (word : IsWord line) :
    checkBounds line total = if line < 1 ∨ (total : Int) < line
      then .error (.fault (.outOfBounds line total)) else .ok () := by
  unfold checkBounds
  by_cases hlow : line < 1
  · rw [if_pos hlow, if_pos (.inl hlow)]
    rfl
  · rw [if_neg hlow, unsigned_eq_ok_of_isWord word (by omega), ok_bind]
    by_cases hhigh : (total : Int) < line
    · rw [if_pos (by omega), if_pos (.inr hhigh)]
      rfl
    · rw [if_neg (by omega), if_neg (by omega)]
      rfl

theorem checkBlock_eq {start stop : Int} {total : Nat} (hstart : IsWord start)
    (hstop : IsWord stop) :
    checkBlock start stop total =
      ofResult ((Range.checkBlock start stop total).map fun b => (b.indices, (b.last : Int))) := by
  unfold checkBlock Range.checkBlock
  rw [checkBounds_eq hstart, checkBounds_eq hstop]
  split
  · rfl
  split
  · rfl
  split
  · rfl
  lift start to ℕ using by omega
  lift stop to ℕ using by omega
  have hbelow : IsWord (start - 1) :=
    isWord_of_nonneg (by omega) ((Int.sub_le_self _ (by decide)).trans hstart.2)
  have hplace : ((start : Int) - 1).toNat = start - 1 := by omega
  have hsize : stop - (start - 1) = stop + 1 - start := by omega
  rw [ok_bind, ok_bind, unsigned_eq_ok_of_isWord hstart (by omega), ok_bind, Int.toNat_natCast,
    unsigned_eq_ok_of_isWord hbelow (by omega), ok_bind, hplace,
    unsigned_eq_ok_of_isWord hstop (by omega), ok_bind, Int.toNat_natCast, hsize]
  rfl

theorem resolveRange_eq (short : lines.length ≤ greatestLine) (word : IsWord cursor)
    {range : Range} (fits : ∀ a ∈ range.addresses, a.FitsWords) :
    resolveRange range lines cursor =
      ofResult ((range.resolve lines cursor).map fun b => (b.indices, (b.last : Int))) := by
  rw [resolveRange, resolveAddress_eq short word (fits _ List.mem_cons_self), Range.resolve]
  cases hstart : range.start.resolve lines cursor with
  | error e => rfl
  | ok start =>
      have hword := isWord_of_resolve hstart
      rw [ofResult_ok, ok_bind, resolveStop_eq short hword fits]
      dsimp only
      cases hstop : range.resolveStop lines start with
      | error e => rfl
      | ok stop => exact checkBlock_eq hword (isWord_of_resolveStop hword hstop)

theorem resolveExpression_eq (short : lines.length ≤ greatestLine) (word : IsWord cursor)
    {expr : String} (exprShort : expr.utf8ByteSize < sizeLimit) :
    resolveExpression lines cursor expr =
      ofResult ((LineSelect.resolveExpression lines cursor expr).map
        fun b => (b.indices, (b.last : Int))) := by
  rw [resolveExpression, parseRange_eq exprShort, LineSelect.resolveExpression]
  cases hparse : Range.parse expr with
  | error e => rfl
  | ok range =>
      have fits := fun a ha => (Range.fits_of_parse exprShort hparse a ha).1
      rw [ofResult_ok, ok_bind, resolveRange_eq short word fits]
      dsimp only
      cases range.resolve lines cursor with
      | error e => cases e <;> rfl
      | ok block => rfl

theorem resolveAll_eq (short : lines.length ≤ greatestLine) (word : IsWord cursor)
    {selected : List Nat} {exprs : List String}
    (exprsShort : ∀ expr ∈ exprs, expr.utf8ByteSize < sizeLimit) :
    resolveAll lines cursor selected exprs = ofResult ((resolveBlocks lines cursor exprs).map
      fun blocks => selected ++ blocks.flatMap Block.indices) := by
  induction exprs generalizing cursor selected with
  | nil => simp [resolveAll, resolveBlocks, Except.map]
  | cons expr exprs ih =>
      rw [List.forall_mem_cons] at exprsShort
      rw [resolveAll, resolveExpression_eq short word exprsShort.1, resolveBlocks]
      cases hblock : LineSelect.resolveExpression lines cursor expr with
      | error e => rfl
      | ok block =>
          -- The cursor that is left is a line of the text, and so it is a word again.
          have hlast : IsWord block.last := by
            have := (bounds_of_resolveExpression hblock).2.2
            exact isWord_of_nonneg (by omega) (by omega)
          simp only [Except.map, ofResult_ok, ok_bind]
          rw [ih hlast exprsShort.2]
          cases resolveBlocks lines block.last exprs with
          | error e => rfl
          | ok blocks => simp [Except.map]

theorem resolveAll_eq_selectIndices (short : lines.length ≤ greatestLine) {exprs : List String}
    (exprsShort : ∀ expr ∈ exprs, expr.utf8ByteSize < sizeLimit) :
    resolveAll lines 0 [] exprs = ofResult (selectIndices lines exprs) := by
  rw [resolveAll_eq short (by decide) exprsShort, selectIndices]
  cases resolveBlocks lines 0 exprs <;> rfl

end Resolving

/-! ### Selecting and printing -/

def select (d : Document) (exprs : List String) : Except Halt Document := do
  let indices ← resolveAll d.lines 0 [] exprs
  return .ofLines (← indices.mapM (item d.lines))

/-- The width of a column, for which there are 16 bits. -/
def columnWidth (n : Nat) : Except Halt Nat :=
  if n < 0x10000 then .ok n else .error (.trap .overflow)

def printedLine (numbered : Bool) (width : Nat) (d : Document) (i : Nat) :
    Except Halt String := do
  let line ← item d.lines i
  if numbered then
    let number := (← unsigned (i + 1 : ℕ)).repr
    let padding := String.ofList (List.replicate (width - number.length) ' ')
    return padding ++ number ++ " " ++ line
  else return line

def indices (request : SelectRequest) (d : Document) : Except Halt (List Nat) :=
  if request.ranges = [] then return List.range d.length
  else resolveAll d.lines 0 [] request.ranges

def print (request : SelectRequest) (config : Config) (d : Document) : Except Halt String := do
  let indices ← indices request d
  let width ← columnWidth d.length.repr.length
  let pieces ← indices.mapM (printedLine (request.number || config.output.numberLines) width d)
  return String.join pieces

theorem mapM_eq_ok_of_forall₂ {α β : Type} {f : α → Except Halt β} {l : List α} {results : List β}
    (h : List.Forall₂ (fun a b => f a = .ok b) l results) : l.mapM f = .ok results := by
  induction h with
  | nil => rfl
  | cons hhead _ ih => rw [List.mapM_cons, hhead, ok_bind, ih, ok_bind, pure_eq_ok]

theorem columnWidth_eq_ok {n : Nat} (short : n ≤ greatestLine) :
    columnWidth n.repr.length = .ok n.repr.length := by
  have hlength : n.repr.length ≤ (0x7FFFFFFFFFFFFFFF).repr.length :=
    length_repr_mono (Int.ofNat_le.mp short)
  have hcolumns : (0x7FFFFFFFFFFFFFFF).repr.length < 0x10000 := by decide
  exact if_pos (hlength.trans_lt hcolumns)

theorem select_eq {d : Document} (short : d.length ≤ greatestLine) {exprs : List String}
    (exprsShort : ∀ expr ∈ exprs, expr.utf8ByteSize < sizeLimit) :
    select d exprs = ofResult (d.select exprs) := by
  rw [select, resolveAll_eq_selectIndices short exprsShort, Document.select, Document.lineNumbers]
  cases hindices : selectIndices d.lines exprs with
  | error e => rfl
  | ok indices =>
      have drawn := Document.drawn_linesAt (d := d) (lt_length_of_selectIndices hindices)
      rw [ofResult_ok, ok_bind, mapM_eq_ok_of_forall₂ (drawn.imp fun _ _ => item_eq_ok)]
      rfl

theorem printedLine_eq_ok {d : Document} (short : d.length ≤ greatestLine) (numbered : Bool)
    {i : Nat} (h : i < d.length) :
    printedLine numbered d.length.repr.length d i =
      .ok (SelectRequest.printedLine numbered d i) := by
  obtain ⟨line, hline⟩ : ∃ line, d.lines[i]? = some line := ⟨_, List.getElem?_eq_getElem h⟩
  have hnumber : unsigned (i + 1 : ℕ) = .ok (i + 1) := by
    have hlimit : greatestLine < sizeLimit := by decide
    exact unsigned_eq_ok (by omega)
  rw [printedLine, item_eq_ok hline, ok_bind, SelectRequest.printedLine, hline, hnumber]
  cases numbered with
  | false => simp
  | true => simp [SelectRequest.label, String.append_assoc]

theorem indices_eq {request : SelectRequest} {d : Document} (short : d.length ≤ greatestLine)
    (exprsShort : ∀ expr ∈ request.ranges, expr.utf8ByteSize < sizeLimit) :
    indices request d = ofResult (request.indices d) := by
  rw [indices, SelectRequest.indices]
  split
  · rfl
  · exact resolveAll_eq_selectIndices short exprsShort

theorem print_eq {request : SelectRequest} {d : Document} (config : Config)
    (short : d.length ≤ greatestLine)
    (exprsShort : ∀ expr ∈ request.ranges, expr.utf8ByteSize < sizeLimit) :
    print request config d =
      ofResult ((request.indices d).map (request.printed config d)) := by
  rw [print, indices_eq short exprsShort]
  cases hindices : request.indices d with
  | error e => rfl
  | ok indices =>
      have hpieces : List.Forall₂
          (fun i piece => printedLine (request.number || config.output.numberLines)
            d.length.repr.length d i = .ok piece)
          indices (indices.map
            (SelectRequest.printedLine (request.number || config.output.numberLines) d)) := by
        rw [List.forall₂_map_right_iff, List.forall₂_same]
        intro i hi
        exact printedLine_eq_ok short _ (SelectRequest.lt_length_of_indices hindices i hi)
      rw [ofResult_ok, ok_bind, columnWidth_eq_ok short, ok_bind, mapM_eq_ok_of_forall₂ hpieces]
      rfl

/-- Reading, resolving, selecting and printing never trap: what fits into the memory and the words
of a machine has the result, or the fault, that it has without checks, and neither is a trap
(`ofResult_ne_trap`). No line that is selected is past the end of the text, also when a substitution
comes before. -/
theorem checked_selection_agrees :
    (∀ expr : String, expr.utf8ByteSize < sizeLimit →
      parseAddress expr = ofResult (Address.parse expr) ∧
      parseRange expr = ofResult (Range.parse expr)) ∧
    (∀ (lines : List String) (cursor : Int), lines.length ≤ greatestLine → IsWord cursor →
      (∀ address : Address, address.FitsWords →
        resolveAddress address lines cursor = ofResult (address.resolve lines cursor)) ∧
      ∀ range : Range, (∀ a ∈ range.addresses, a.FitsWords) →
        resolveRange range lines cursor =
          ofResult ((range.resolve lines cursor).map fun b => (b.indices, (b.last : Int)))) ∧
    (∀ lines exprs : List String, lines.length ≤ greatestLine →
      (∀ expr ∈ exprs, expr.utf8ByteSize < sizeLimit) →
      resolveAll lines 0 [] exprs = ofResult (selectIndices lines exprs) ∧
      (∀ indices, resolveAll lines 0 [] exprs = .ok indices → ∀ i ∈ indices, i < lines.length) ∧
      select (.ofLines lines) exprs = ofResult ((Document.ofLines lines).select exprs)) ∧
    ∀ (request : SelectRequest) (config : Config) (text : String) (d : Document),
      (Document.ofText text).length ≤ greatestLine →
      (∀ expr ∈ request.ranges, expr.utf8ByteSize < sizeLimit) →
      request.document config text = .ok d →
      print request config d = ofResult ((request.indices d).map (request.printed config d)) := by
  refine ⟨?_, ?_, ?_, ?_⟩
  · exact fun expr short => ⟨parseAddress_eq short, parseRange_eq short⟩
  · intro lines cursor short word
    exact ⟨fun _ fits => resolveAddress_eq short word fits,
      fun _ fits => resolveRange_eq short word fits⟩
  · intro lines exprs short exprsShort
    have hall := resolveAll_eq_selectIndices short exprsShort
    refine ⟨hall, ?_, select_eq short exprsShort⟩
    intro indices h
    rw [hall] at h
    cases hindices : selectIndices lines exprs with
    | error e => rw [hindices] at h; cases h
    | ok found =>
        rw [hindices] at h
        obtain rfl := Except.ok.inj h
        exact lt_length_of_selectIndices hindices
  · intro request config text d short exprsShort hdocument
    rw [← SelectRequest.length_document hdocument] at short
    exact print_eq config short exprsShort

theorem checked_selection_agrees_extremes :
    parseRange "/é/ - -;+9223372036854775807" =
      .ok ⟨⟨.pattern "é", -2⟩, some (.semicolon, ⟨.current, 9223372036854775807⟩)⟩ ∧
    resolveAddress ⟨.line 18446744073709551615, 9223372036854775807⟩ ["α\n"]
      (-9223372036854775808) = .ok 9223372036854775807 ∧
    resolveAll ["α\n", "β"] 0 [] ["2", "1;+"] = .ok [1, 0, 1] ∧
    print { ranges := ["1;+"], number := true } {} (.ofText "α\nβ") = .ok "1 α\n2 β" := by
  obtain ⟨reading, resolving, selecting, printing⟩ := checked_selection_agrees
  refine ⟨?_, ?_, ?_, ?_⟩
  · exact (reading _ (by decide +kernel)).2.trans (by decide +kernel)
  · have word : IsWord (-9223372036854775808) := by decide
    have fits : Address.FitsWords ⟨.line 18446744073709551615, 9223372036854775807⟩ :=
      ⟨by simp [Address.lineNumberLimit], by decide, by decide⟩
    exact ((resolving _ _ (by decide) word).1 _ fits).trans rfl
  · exact (selecting _ _ (by decide) (by decide +kernel)).1.trans rfl
  · exact (printing _ _ "α\nβ" _ (by decide) (by decide +kernel) rfl).trans rfl

end LineSelect.Checked
