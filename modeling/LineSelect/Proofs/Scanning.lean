import LineSelect.Document
import LineSelect.Proofs.Canonical
import LineSelect.Proofs.ExactLines
import LineSelect.Proofs.FirstFault

/-!
Scanning forward. Where every start lies behind the cursor, each expression selects lines after all
those before it, so no line is selected twice. And a search that is repeated goes through the lines
that match one by one.
-/

namespace LineSelect

open LineSelect.Text

/-! ### Starts behind the cursor -/

namespace Address

/-- Whether the address means a line behind the cursor, wherever the cursor is. -/
def movesForward (a : Address) : Bool :=
  match a.position with
  | .pattern _ => 0 ≤ a.offset
  | .current => 1 ≤ a.offset
  | .line _ | .last => false

theorem lt_of_movesForward {a : Address} (forward : a.movesForward = true) {lines : List String}
    {cursor line : Int} (resolved : a.resolve lines cursor = .ok line) (positive : 1 ≤ line)
    (below : line < greatestLine) : cursor < line := by
  unfold resolve at resolved
  split at resolved
  · cases resolved
  · next base hbase =>
    have hsum : base + a.offset = line := by
      have hline := Except.ok.inj resolved
      unfold saturate leastLine greatestLine at *
      omega
    cases hposition : a.position with
    | pattern source =>
        have hoffset : 0 ≤ a.offset := by simpa [movesForward, hposition] using forward
        rw [hposition] at hbase
        obtain ⟨pattern, -, ⟨hbehind, -⟩, -⟩ := searchForward_eq_ok_iff.mp hbase
        omega
    | current =>
        have hoffset : 1 ≤ a.offset := by simpa [movesForward, hposition] using forward
        rw [hposition] at hbase
        have hcurrent := Except.ok.inj hbase
        split at hcurrent <;> omega
    | line | last => simp [movesForward, hposition] at forward

end Address

/-- The ranges of all expressions that can be read satisfy `P`. -/
def EveryRange (P : Range → Prop) (exprs : List String) : Prop :=
  ∀ expr ∈ exprs, ∀ range, Range.parse expr = .ok range → P range

instance {P : Range → Prop} [DecidablePred P] {exprs : List String} :
    Decidable (EveryRange P exprs) :=
  decidable_of_iff (∀ expr ∈ exprs, ∀ range ∈ (Range.parse expr).toOption, P range) <| by
    simp only [EveryRange, Option.mem_def, toOption_eq_some_iff]

section Forward

variable {lines exprs : List String} {cursor : Int}

theorem Range.lt_first_of_movesForward {range : Range} (forward : range.start.movesForward = true)
    (short : lines.length < greatestLine) {block : Block}
    (resolved : range.resolve lines cursor = .ok block) : cursor < block.first := by
  obtain ⟨hstart, -, hfirst, hordered, hlast⟩ := resolve_eq_ok_iff.mp resolved
  exact Address.lt_of_movesForward forward hstart (by omega) (by omega)

theorem Block.pairwise_indices_append {block : Block} (nonzero : 1 ≤ block.first)
    (ordered : block.first ≤ block.last) {later : List ℕ} (increasing : later.Pairwise (· < ·))
    (behind : ∀ i ∈ later, (block.last : Int) ≤ i) : (block.indices ++ later).Pairwise (· < ·) := by
  rw [List.pairwise_append]
  refine ⟨?_, increasing, ?_⟩
  · rw [indices_eq_Ico nonzero]
    exact List.Ico.pairwise_lt _ _
  · intro i hi j hj
    have hplace := (mem_indices_iff nonzero ordered).mp hi
    have hlater := behind j hj
    omega

theorem increasing_of_resolveBlocks (short : lines.length < greatestLine)
    (forward : EveryRange (fun range => range.start.movesForward = true) exprs)
    {blocks : List Block} (resolved : resolveBlocks lines cursor exprs = .ok blocks) :
    (blocks.flatMap Block.indices).Pairwise (· < ·) ∧
      ∀ i ∈ blocks.flatMap Block.indices, cursor ≤ (i : Int) := by
  -- The rest of the run starts on the last line of the first block, which is behind the cursor.
  induction exprs generalizing cursor blocks with
  | nil =>
      obtain rfl := Except.ok.inj resolved
      simp
  | cons expr exprs ih =>
      obtain ⟨block, more, hblock, hmore, rfl⟩ := resolveBlocks_cons_eq_ok_iff.mp resolved
      obtain ⟨range, hparse, hresolve⟩ := resolveExpression_eq_ok_iff.mp hblock
      obtain ⟨hfirst, hordered, -⟩ := bounds_of_resolveExpression hblock
      have hcursor := Range.lt_first_of_movesForward (forward expr (by simp) range hparse) short
        hresolve
      obtain ⟨hincreasing, hbehind⟩ := ih (fun expr hexpr => forward expr (by simp [hexpr])) hmore
      rw [List.flatMap_cons]
      constructor
      · exact Block.pairwise_indices_append hfirst hordered hincreasing hbehind
      · intro i hi
        rcases List.mem_append.mp hi with hi | hi
        · have hplace := (Block.mem_indices_iff hfirst hordered).mp hi
          omega
        · have hlater := hbehind i hi
          omega

/-- If every start but the first lies behind the cursor that it is resolved from, the places that
are selected increase: no line is selected twice, whatever the ends are. -/
theorem selectIndices_increasing_of_movesForward (short : lines.length < greatestLine)
    (forward : EveryRange (fun range => range.start.movesForward = true) exprs.tail)
    {indices : List ℕ} (selected : selectIndices lines exprs = .ok indices) :
    indices.Pairwise (· < ·) := by
  obtain ⟨blocks, hblocks, rfl⟩ := selectIndices_eq_ok_iff.mp selected
  cases exprs with
  | nil =>
      obtain rfl := Except.ok.inj hblocks
      exact List.Pairwise.nil
  | cons expr exprs =>
      obtain ⟨block, more, hblock, hmore, rfl⟩ := resolveBlocks_cons_eq_ok_iff.mp hblocks
      obtain ⟨hfirst, hordered, -⟩ := bounds_of_resolveExpression hblock
      obtain ⟨hincreasing, hbehind⟩ := increasing_of_resolveBlocks short forward hmore
      rw [List.flatMap_cons]
      exact Block.pairwise_indices_append hfirst hordered hincreasing hbehind

end Forward

theorem selectIndices_increasing_of_movesForward_both :
    selectIndices ["a\n", "b\n", "a\n", "b"] ["1", "/a/-0", ".+1,$"] = .ok [0, 2, 3] ∧
      [0, 2, 3].Pairwise (· < ·) := by
  have hselected : selectIndices ["a\n", "b\n", "a\n", "b"] ["1", "/a/-0", ".+1,$"] =
      .ok [0, 2, 3] := by
    decide +kernel
  have hforward : EveryRange (fun range => range.start.movesForward = true)
      (["1", "/a/-0", ".+1,$"] : List String).tail := by
    decide +kernel
  exact ⟨hselected, selectIndices_increasing_of_movesForward (by decide) hforward hselected⟩

/-! ### Searching again and again -/

namespace Pattern

/-- The places of the lines behind a cursor that match, the first place first. -/
def placesFrom (pattern : Pattern) (lines : List String) (cursor : ℕ) : List ℕ :=
  (List.range lines.length).filter fun i =>
    cursor ≤ i && lines[i]?.any fun line => pattern.matchesIn (content line)

variable {pattern : Pattern} {lines : List String} {cursor i : ℕ} {rest : List ℕ}

theorem pairwise_placesFrom : (pattern.placesFrom lines cursor).Pairwise (· < ·) :=
  List.pairwise_lt_range.filter _

theorem matchesLine_succ_iff : pattern.MatchesLine lines (i + 1) ↔
    ∃ line, lines[i]? = some line ∧ pattern.matchesIn (content line) = true := by
  have hplace : ((i : Int) + 1 - 1).toNat = i := by omega
  have hpositive : 0 < (i : Int) + 1 := by omega
  simp only [MatchesLine, hplace, hpositive, true_and]

theorem mem_placesFrom_iff :
    i ∈ pattern.placesFrom lines cursor ↔ cursor ≤ i ∧ pattern.MatchesLine lines (i + 1) := by
  simp only [placesFrom, matchesLine_succ_iff, List.mem_filter, List.mem_range,
    Bool.and_eq_true, decide_eq_true_eq, Option.any_eq_true]
  constructor
  · rintro ⟨-, hcursor, hline⟩
    exact ⟨hcursor, hline⟩
  · rintro ⟨hcursor, line, hline, hmatch⟩
    obtain ⟨hlength, -⟩ := List.getElem?_eq_some_iff.mp hline
    exact ⟨hlength, hcursor, line, hline, hmatch⟩

theorem exists_place_of_matchesLine {n : Int} (behind : max (cursor : Int) 0 < n)
    (h : pattern.MatchesLine lines n) : ∃ i ∈ pattern.placesFrom lines cursor, n = i + 1 := by
  obtain ⟨i, rfl⟩ : ∃ i : ℕ, n = i + 1 := ⟨(n - 1).toNat, by omega⟩
  exact ⟨i, mem_placesFrom_iff.mpr ⟨by omega, h⟩, rfl⟩

theorem lt_of_placesFrom (h : pattern.placesFrom lines cursor = i :: rest) :
    ∀ j ∈ rest, i < j := by
  have hincreasing : (i :: rest).Pairwise (· < ·) := h ▸ pairwise_placesFrom
  exact (List.pairwise_cons.mp hincreasing).1

theorem placesFrom_succ (h : pattern.placesFrom lines cursor = i :: rest) :
    pattern.placesFrom lines (i + 1) = rest := by
  obtain ⟨hcursor, -⟩ := mem_placesFrom_iff.mp (h ▸ List.mem_cons_self)
  calc
    pattern.placesFrom lines (i + 1) =
        (pattern.placesFrom lines cursor).filter fun j => i + 1 ≤ j := by
      rw [placesFrom, placesFrom, List.filter_filter]
      apply List.filter_congr
      intro j _
      rw [← Bool.and_assoc, ← Bool.decide_and]
      congr 2
      rw [eq_iff_iff]
      omega
    _ = rest := by
      rw [h, List.filter_cons_of_neg (by simp), List.filter_eq_self]
      intro j hj
      exact decide_eq_true (lt_of_placesFrom h j hj)

end Pattern

section Search

variable {source : String} {pattern : Pattern} {lines : List String} {cursor i : ℕ}
  {rest : List ℕ}

theorem searchForward_of_placesFrom_cons (compiled : Pattern.compile source = .ok pattern)
    (h : pattern.placesFrom lines cursor = i :: rest) :
    searchForward source lines cursor = .ok (i + 1) := by
  apply searchForward_eq_ok_iff.mpr
  obtain ⟨hcursor, hmatch⟩ := Pattern.mem_placesFrom_iff.mp (h ▸ List.mem_cons_self)
  refine ⟨pattern, compiled, ⟨by omega, hmatch⟩, ?_⟩
  rintro n ⟨hn, hother⟩
  obtain ⟨j, hj, rfl⟩ := Pattern.exists_place_of_matchesLine hn hother
  rw [h] at hj
  rcases List.mem_cons.mp hj with rfl | hj
  · exact le_rfl
  · have hbehind := Pattern.lt_of_placesFrom h j hj
    omega

theorem nowhere_of_placesFrom_nil (h : pattern.placesFrom lines cursor = []) :
    ∀ n, max (cursor : Int) 0 < n → ¬ pattern.MatchesLine lines n := by
  intro n hn hmatch
  obtain ⟨i, hi, -⟩ := Pattern.exists_place_of_matchesLine hn hmatch
  rw [h] at hi
  cases hi

theorem parse_search (form : IsSource source.toList) :
    Range.parse ("/" ++ source ++ "/") = .ok ⟨⟨.pattern source, 0⟩, none⟩ := by
  have htext : "/" ++ source ++ "/" = Range.text ⟨⟨.pattern source, 0⟩, none⟩ := by
    simp [Range.text, Address.text, Position.text, signedText]
  rw [htext]
  apply Range.parse_text
  rw [Range.forall_addresses_single]
  constructor
  · exact ⟨by rintro n ⟨⟩, by simp, by simp [Address.offsetLimit]⟩
  · refine ⟨by simp [Address.offsetLimit], ?_⟩
    rintro p ⟨⟩
    exact form

theorem resolveExpression_search (form : IsSource source.toList)
    (short : lines.length ≤ greatestLine) (compiled : Pattern.compile source = .ok pattern)
    (h : pattern.placesFrom lines cursor = i :: rest) :
    resolveExpression lines cursor ("/" ++ source ++ "/") = .ok ⟨i + 1, i + 1⟩ := by
  have hsearch := searchForward_of_placesFrom_cons compiled h
  obtain ⟨hlow, hhigh⟩ := bounds_of_searchForward hsearch
  have hline : Address.resolve ⟨.pattern source, 0⟩ lines cursor = .ok ((i + 1 : ℕ) : Int) := by
    simp only [Address.resolve, Position.resolve, hsearch]
    rw [saturate_eq_self (by unfold leastLine; omega) (by omega)]
    simp
  apply resolveExpression_eq_ok_iff.mpr
  refine ⟨_, parse_search form, ?_⟩
  apply Range.resolve_eq_ok_iff.mpr
  exact ⟨hline, .alone, by dsimp only; omega⟩

theorem resolveBlocks_replicate_search (form : IsSource source.toList)
    (short : lines.length ≤ greatestLine) (compiled : Pattern.compile source = .ok pattern)
    (count cursor : ℕ) :
    resolveBlocks lines cursor (List.replicate count ("/" ++ source ++ "/")) =
      if count ≤ (pattern.placesFrom lines cursor).length then
        .ok (((pattern.placesFrom lines cursor).take count).map fun i => ⟨i + 1, i + 1⟩)
      else .error (.patternNotFound source) := by
  -- A search leaves the cursor on the line that it finds, so the next one begins behind it.
  induction count generalizing cursor with
  | zero => rfl
  | succ count ih =>
      rw [List.replicate_succ, resolveBlocks]
      cases hplaces : pattern.placesFrom lines cursor with
      | nil =>
          have hfault : Fault lines cursor ("/" ++ source ++ "/") (.patternNotFound source) :=
            .resolving (parse_search form)
              (.start (.missing rfl compiled (nowhere_of_placesFrom_nil hplaces)))
          rw [resolveExpression_eq_error_iff.mpr hfault]
          rfl
      | cons i rest =>
          rw [resolveExpression_search form short compiled hplaces]
          dsimp only
          rw [ih (i + 1), Pattern.placesFrom_succ hplaces]
          by_cases hcount : count ≤ rest.length
          · rw [if_pos hcount, if_pos (by simpa using hcount)]
            rfl
          · rw [if_neg hcount, if_neg (by simpa using hcount)]

end Search

theorem flatMap_indices_single (places : List ℕ) :
    (places.map fun i => (⟨i + 1, i + 1⟩ : Block)).flatMap Block.indices = places := by
  simp [List.flatMap_map, Block.indices, Block.size]

/-- A search that is repeated goes through the lines that match: there is one increasing list of the
places of all of them, and so many copies of the search select so many places from its front, or
fail if the list is shorter. -/
theorem Document.lineNumbers_replicate_search {source : String} {pattern : Pattern}
    (form : IsSource source.toList) (compiled : Pattern.compile source = .ok pattern)
    {d : Document} (short : d.length ≤ greatestLine) :
    ∃ places : List ℕ, places.Pairwise (· < ·) ∧
      (∀ i, i ∈ places ↔ ∃ line, d.lines[i]? = some line ∧
        pattern.matchesIn (content line) = true) ∧
      ∀ count, d.lineNumbers (List.replicate count ("/" ++ source ++ "/")) =
        if count ≤ places.length then .ok (places.take count)
        else .error (.patternNotFound source) := by
  refine ⟨pattern.placesFrom d.lines 0, Pattern.pairwise_placesFrom, ?_, ?_⟩
  · intro i
    rw [Pattern.mem_placesFrom_iff, Pattern.matchesLine_succ_iff]
    simp
  · intro count
    have hblocks : resolveBlocks d.lines 0 (List.replicate count ("/" ++ source ++ "/")) = _ :=
      resolveBlocks_replicate_search form short compiled count 0
    rw [lineNumbers, selectIndices, hblocks]
    by_cases hcount : count ≤ (pattern.placesFrom d.lines 0).length
    · rw [if_pos hcount, if_pos hcount]
      exact congrArg Except.ok (flatMap_indices_single _)
    · rw [if_neg hcount, if_neg hcount]

theorem Document.lineNumbers_replicate_search_adjacent :
    ∃ pattern, Pattern.compile "b$" = .ok pattern ∧
      (∀ i, i ∈ [0, 1, 3] ↔ ∃ line, (["ab\n", "b", "c\n", "b\r\n"] : List String)[i]? = some line ∧
        pattern.matchesIn (content line) = true) ∧
      (ofLines ["ab\n", "b", "c\n", "b\r\n"]).lineNumbers (List.replicate 4 "/b$/") =
        .error (.patternNotFound "b$") := by
  have hcompiles : (Pattern.compile "b$").toOption.isSome = true := by decide +kernel
  have hthree : (ofLines ["ab\n", "b", "c\n", "b\r\n"]).lineNumbers
      (List.replicate 3 ("/" ++ "b$" ++ "/")) = .ok [0, 1, 3] := by
    decide +kernel
  have hfour : (ofLines ["ab\n", "b", "c\n", "b\r\n"]).lineNumbers
      (List.replicate 4 ("/" ++ "b$" ++ "/")) = .error (.patternNotFound "b$") := by
    decide +kernel
  obtain ⟨pattern, compiled⟩ := exists_eq_ok_of_isSome hcompiles
  obtain ⟨places, -, hplaces, hcount⟩ := lineNumbers_replicate_search
    ⟨by decide, by simp⟩ compiled (d := ofLines ["ab\n", "b", "c\n", "b\r\n"]) (by decide)
  have hfirst := (hcount 3).symm.trans hthree
  have hlast := (hcount 4).symm.trans hfour
  have hatLeast : 3 ≤ places.length := by
    by_contra hshort
    rw [if_neg hshort] at hfirst
    cases hfirst
  have hatMost : places.length ≤ 3 := by
    by_contra hlong
    rw [if_pos (by omega)] at hlast
    cases hlast
  rw [if_pos hatLeast, List.take_of_length_le hatMost] at hfirst
  obtain rfl := Except.ok.inj hfirst
  exact ⟨pattern, compiled, hplaces, hfour⟩

end LineSelect
