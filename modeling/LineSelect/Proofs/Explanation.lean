import Mathlib.Data.List.Forall2
import LineSelect.Proofs.Encoding
import LineSelect.Proofs.Resolution
import LineSelect.Proofs.SelectRun

/-!
Reports: what a run says instead of printing the lines. A run with a report fails exactly when the
run without one does; the report names the lines that are printed, and the ranges in it, read back
and resolved one after another, mean just these lines.
-/

namespace LineSelect

open LineSelect.CommandLine

/-! ### Ranges in a row -/

/-- The blocks that ranges mean, each counted from where the one before it ended. -/
def resolveRanges (lines : List String) (cursor : Int) :
    List Range → Except SelectionError (List Block)
  | [] => .ok []
  | range :: rest =>
    match range.resolve lines cursor with
    | .error e => .error e
    | .ok block =>
      match resolveRanges lines block.last rest with
      | .error e => .error e
      | .ok blocks => .ok (block :: blocks)

section Ranges

variable {lines : List String}

theorem resolveRanges_cons {cursor : Int} {range : Range} {ranges : List Range} {block : Block}
    {blocks : List Block} (hblock : range.resolve lines cursor = .ok block)
    (hblocks : resolveRanges lines block.last ranges = .ok blocks) :
    resolveRanges lines cursor (range :: ranges) = .ok (block :: blocks) := by
  rw [resolveRanges, hblock]
  dsimp only
  rw [hblocks]

theorem exists_ranges_of_resolveBlocks {exprs : List String} {cursor : Int} {blocks : List Block}
    (h : resolveBlocks lines cursor exprs = .ok blocks) :
    ∃ ranges, List.Forall₂ (fun expr range => Range.parse expr = .ok range) exprs ranges ∧
      resolveRanges lines cursor ranges = .ok blocks := by
  induction exprs generalizing cursor blocks with
  | nil =>
      obtain rfl := Except.ok.inj h
      exact ⟨[], .nil, rfl⟩
  | cons expr exprs ih =>
      obtain ⟨block, more, hblock, hmore, rfl⟩ := resolveBlocks_cons_eq_ok_iff.mp h
      obtain ⟨range, hparse, hresolve⟩ := resolveExpression_eq_ok_iff.mp hblock
      obtain ⟨ranges, hparses, hranges⟩ := ih hmore
      exact ⟨range :: ranges, .cons hparse hparses, resolveRanges_cons hresolve hranges⟩

section Parses

variable {exprs : List String} {ranges : List Range}

theorem mapM_parse_eq_ok
    (parses : List.Forall₂ (fun expr range => Range.parse expr = .ok range) exprs ranges) :
    exprs.mapM Range.parse = .ok ranges := by
  induction parses with
  | nil => rfl
  | cons hparse hparses ih =>
      rw [List.mapM_cons, hparse, ih]
      rfl

theorem fits_of_parses
    (parses : List.Forall₂ (fun expr range => Range.parse expr = .ok range) exprs ranges)
    (short : ∀ expr ∈ exprs, expr.utf8ByteSize < Text.sizeLimit) :
    ∀ r ∈ ranges, ∀ a ∈ r.addresses, a.FitsWords := by
  induction parses with
  | nil => simp
  | cons hparse hparses ih =>
      rintro r (_ | ⟨_, hr⟩)
      · intro a ha
        exact (Range.fits_of_parse (short _ (by simp)) hparse a ha).1
      · exact ih (fun expr hexpr => short expr (.tail _ hexpr)) r hr

end Parses

end Ranges

/-! ### Reports -/

/-- What the items of a report and the numbers of lines have to do with expressions. Without an
expression no range is listed, and every line. Else the ranges of the expressions are listed, and
mean these lines when they are resolved one after another. -/
structure Explains (lines exprs : List String) (items : List Json) (numbers : List Nat) : Prop where
  whole : exprs = [] → items = [] ∧ numbers = List.range' 1 lines.length
  ranges : exprs ≠ [] → ∃ ranges blocks,
    ((∀ expr ∈ exprs, expr.utf8ByteSize < Text.sizeLimit) →
      items.mapM Range.ofJson? = some ranges) ∧
    List.Forall₂ (fun expr range => Range.parse expr = .ok range) exprs ranges ∧
    resolveRanges lines 0 ranges = .ok blocks ∧
    blocks.flatMap Block.indices = numbers.map (· - 1)

namespace CommandLine.SelectRequest

def plain (request : SelectRequest) : SelectRequest :=
  { request with explain := false }

def explained (request : SelectRequest) : SelectRequest :=
  { request with explain := true }

theorem isIntegral_explanation (ranges : List Range) (indices : List Nat) :
    (explanation ranges indices).IsIntegral := by
  apply Json.IsIntegral.obj
  rintro field (_ | ⟨_, _ | ⟨_, ⟨⟩⟩⟩)
  · apply Json.IsIntegral.arr
    intro item hitem
    obtain ⟨i, -, rfl⟩ := List.mem_map.mp hitem
    exact .int _
  · apply Json.IsIntegral.arr
    intro item hitem
    obtain ⟨range, -, rfl⟩ := List.mem_map.mp hitem
    exact range.isIntegral_toJson

theorem field?_lines_explanation (ranges : List Range) (indices : List Nat) :
    (explanation ranges indices).field? "lines" =
      some (.arr ((indices.map (· + 1)).map fun n : Nat => .int n)) := by
  simp [explanation, Json.field?]

theorem field?_ranges_explanation (ranges : List Range) (indices : List Nat) :
    (explanation ranges indices).field? "ranges" = some (.arr (ranges.map Range.toJson)) := by
  simp [explanation, Json.field?]

theorem printed_eq_join (request : SelectRequest) (config : Config) (d : Document)
    (indices : List Nat) :
    request.printed config d indices = String.join ((indices.map (· + 1)).map fun n =>
      printedLine (request.number || config.output.numberLines) d (n - 1)) := by
  rw [printed, List.map_map]
  rfl

variable {request : SelectRequest} {d : Document} {indices : List Nat}

theorem indices_of_ranges (h : request.indices d = .ok indices) (hne : request.ranges ≠ []) :
    ∃ blocks, resolveBlocks d.lines 0 request.ranges = .ok blocks ∧
      blocks.flatMap Block.indices = indices := by
  rw [SelectRequest.indices, if_neg hne, Document.lineNumbers, selectIndices] at h
  split at h
  · cases h
  · next blocks hblocks => exact ⟨blocks, hblocks, Except.ok.inj h⟩

theorem exists_explanation (h : request.indices d = .ok indices) :
    ∃ ranges, request.ranges.mapM Range.parse = .ok ranges ∧
      Explains d.lines request.ranges (ranges.map Range.toJson) (indices.map (· + 1)) := by
  by_cases hnil : request.ranges = []
  · rw [SelectRequest.indices, if_pos hnil] at h
    obtain rfl := Except.ok.inj h
    refine ⟨[], by rw [hnil]; rfl, fun _ => ⟨rfl, ?_⟩, fun hne => absurd hnil hne⟩
    simp [List.range'_eq_map_range, Document.length, Nat.add_comm]
  · obtain ⟨blocks, hblocks, rfl⟩ := indices_of_ranges h hnil
    obtain ⟨ranges, hparses, hranges⟩ := exists_ranges_of_resolveBlocks hblocks
    refine ⟨ranges, mapM_parse_eq_ok hparses, fun hexprs => absurd hexprs hnil, fun _ => ?_⟩
    refine ⟨ranges, blocks, fun short => ?_, hparses, hranges, by simp [Function.comp_def]⟩
    exact Range.mapM_ofJson?_toJson (fits_of_parses hparses short)

theorem lt_length_of_indices (h : request.indices d = .ok indices) :
    ∀ i ∈ indices, i < d.length := by
  by_cases hnil : request.ranges = []
  · rw [SelectRequest.indices, if_pos hnil] at h
    obtain rfl := Except.ok.inj h
    simp
  · obtain ⟨blocks, hblocks, rfl⟩ := indices_of_ranges h hnil
    exact lt_length_of_resolveBlocks hblocks

theorem run_agree (request : SelectRequest) (config : Config) (text : String) :
    (∃ e, request.plain.run config text = .error e ∧
      request.explained.run config text = .error e) ∨
    ∃ d indices ranges, request.document config text = .ok d ∧ request.indices d = .ok indices ∧
      Explains d.lines request.ranges (ranges.map Range.toJson) (indices.map (· + 1)) ∧
      request.plain.run config text = .ok (request.printed config d indices) ∧
      request.explained.run config text = .ok ((explanation ranges indices).pretty 0 ++ "\n") := by
  have hplain : request.plain.run config text = (do
      let d ← request.document config text
      let indices ← request.indices d
      return request.printed config d indices) := rfl
  have hexplained : request.explained.run config text = (do
      let d ← request.document config text
      let indices ← request.indices d
      let ranges ← request.ranges.mapM Range.parse
      return (explanation ranges indices).pretty 0 ++ "\n") := rfl
  rw [hplain, hexplained]
  cases hd : request.document config text with
  | error e => exact .inl ⟨e, rfl, rfl⟩
  | ok d =>
      cases hindices : request.indices d with
      | error e =>
          left
          refine ⟨e, ?_, ?_⟩
          · simp only [bind, Except.bind, hindices]
          · simp only [bind, Except.bind, hindices]
      | ok indices =>
          right
          obtain ⟨ranges, hread, hexplains⟩ := exists_explanation hindices
          refine ⟨d, indices, ranges, rfl, hindices, hexplains, ?_, ?_⟩
          · simp only [bind, Except.bind, hindices, pure, Except.pure]
          · simp only [bind, Except.bind, hindices, hread, pure, Except.pure]

end CommandLine.SelectRequest

namespace Program

section Ends

variable {env : Environment} {request : SelectRequest} {text output : String}

theorem select_of_readText_error {f : Failure}
    (htext : readText env (openLog env request).tree request.file = .error f) :
    select env request =
      failed (env.configWarning ++ (openLog env request).warning) f (openLog env request).tree := by
  simp only [select_eq_conclude, htext, conclude]

theorem select_of_run_error {e : SelectionError}
    (hrun : request.run env.config text = .error e)
    (htext : readText env (openLog env request).tree request.file = .ok text) :
    (select env request).code = 1 ∧
      (select env request).errors =
        env.configWarning ++ (openLog env request).warning ++ (Failure.selection e).report := by
  simp only [select_eq_conclude, htext, conclude, hrun, failed, and_self]

theorem select_of_run_ok
    (hrun : request.run env.config text = .ok output)
    (htext : readText env (openLog env request).tree request.file = .ok text) :
    (select env request).code = 0 ∧ (select env request).output = output ∧
      (select env request).errors = env.configWarning ++ (openLog env request).warning := by
  simp only [select_eq_conclude, htext, conclude, hrun, and_self]

end Ends

/-- A run with a report and the run without one end with the same exit code and the same messages.
When they succeed, the report gives the numbers of the lines that are printed, and explains them. -/
theorem select_explained_agrees (env : Environment) (request : SelectRequest) :
    (select env request.explained).code = (select env request.plain).code ∧
    (select env request.explained).errors = (select env request.plain).errors ∧
    ((select env request.explained).code = 0 →
      let config := env.config
      let numbered := request.number || config.output.numberLines
      ∃ text d report items numbers,
        readText env (openLog env request).tree request.file = .ok text ∧
        request.document config text = .ok d ∧
        (∀ n ∈ numbers, 1 ≤ n ∧ n ≤ d.length) ∧
        (select env request.plain).output =
          String.join (numbers.map fun n => SelectRequest.printedLine numbered d (n - 1)) ∧
        Json.parse? (select env request.explained).output = some report ∧
        report.field? "lines" = some (.arr (numbers.map fun n : Nat => .int n)) ∧
        report.field? "ranges" = some (.arr items) ∧
        Explains d.lines request.ranges items numbers) := by
  cases htext : readText env (openLog env request).tree request.file with
  | error f =>
      have hplain : select env request.plain = failed _ f _ := select_of_readText_error htext
      have hexplained : select env request.explained = failed _ f _ :=
        select_of_readText_error htext
      rw [hplain, hexplained]
      refine ⟨rfl, rfl, fun hcode => ?_⟩
      cases hcode
  | ok text =>
      rcases request.run_agree env.config text with
        ⟨e, hplain, hexplained⟩ |
        ⟨d, indices, ranges, hdocument, hindices, hexplains, hplain, hexplained⟩
      · obtain ⟨hcode, herrors⟩ := select_of_run_error hplain htext
        obtain ⟨hcode', herrors'⟩ := select_of_run_error hexplained htext
        refine ⟨hcode'.trans hcode.symm, herrors'.trans herrors.symm, fun hzero => ?_⟩
        omega
      · obtain ⟨hcode, houtput, herrors⟩ := select_of_run_ok hplain htext
        obtain ⟨hcode', houtput', herrors'⟩ := select_of_run_ok hexplained htext
        refine ⟨hcode'.trans hcode.symm, herrors'.trans herrors.symm, fun _ => ?_⟩
        rw [houtput, houtput']
        refine ⟨text, d, SelectRequest.explanation ranges indices, _, indices.map (· + 1), rfl,
          hdocument, ?_, SelectRequest.printed_eq_join _ _ d indices,
          Json.parse?_pretty (SelectRequest.isIntegral_explanation ranges indices),
          SelectRequest.field?_lines_explanation ranges indices,
          SelectRequest.field?_ranges_explanation ranges indices, hexplains⟩
        intro n hn
        obtain ⟨i, hi, rfl⟩ := List.mem_map.mp hn
        have := SelectRequest.lt_length_of_indices hindices i hi
        omega

theorem select_explained_agrees_repeated_line :
    let env : Environment := { tree := {}, input := "a\nb\nc\n".toUTF8 }
    let request : SelectRequest := { ranges := ["2;+", "3"], number := true }
    ((select env request.explained).code = 0 ∧
      (select env request.plain).output = "2 b\n3 c\n3 c\n" ∧
      (select env request.explained).errors = (select env request.plain).errors) ∧
    ∃ report items numbers lines ranges,
      Json.parse? (select env request.explained).output = some report ∧
      report.field? "lines" = some (.arr (numbers.map fun n : Nat => .int n)) ∧
      report.field? "ranges" = some (.arr items) ∧
      Explains lines request.ranges items numbers ∧ items.mapM Range.ofJson? = some ranges := by
  intro env request
  obtain ⟨-, herrors, hreport⟩ := select_explained_agrees env request
  have hcode : (select env request.explained).code = 0 := by decide +kernel
  obtain ⟨text, d, report, items, numbers, -, -, -, -, hread, hlines, hranges, hexplains⟩ :=
    hreport hcode
  obtain ⟨ranges, blocks, hdecode, -⟩ := hexplains.ranges (by decide)
  exact ⟨⟨hcode, by decide +kernel, herrors⟩, report, items, numbers, d.lines, ranges, hread,
    hlines, hranges, hexplains, hdecode (by decide)⟩

end Program

end LineSelect
