import LineSelect.Proofs.ConfigLoading
import LineSelect.Proofs.Explanation
import LineSelect.Proofs.LinewiseSubstitution

/-!
What a run prints that selects lines and is not asked for a report. With numbers, each line stands
behind a label as wide as the number of the last line, and the run without numbers prints what is
left when the labels are cut off. Without a range all lines are printed, which gives the input back;
two ranges select the same from every text but the empty one, where no range selects anything.
-/

namespace LineSelect

open LineSelect.CommandLine

/-! ### Labels -/

/-- A number in decimal, with spaces in front of it up to a width. -/
structure IsLabel (width n : ℕ) (label : String) : Prop where
  decimal : ∃ spaces, label.toList = List.replicate spaces ' ' ++ n.repr.toList
  aligned : label.length = width

theorem length_repr_mono {m n : ℕ} (h : m ≤ n) : m.repr.length ≤ n.repr.length := by
  have hpos : 0 < n.repr.length := by
    rw [Nat.repr, String.length_ofList]
    exact Nat.length_toDigits_pos
  have hn : n < 10 ^ n.repr.length := (Nat.length_repr_le_iff hpos).mp le_rfl
  exact (Nat.length_repr_le_iff hpos).mpr (h.trans_lt hn)

namespace CommandLine.SelectRequest

variable {request : SelectRequest} {config : Config} {text : String} {d : Document}

theorem isLabel_label {total i : ℕ} (h : i < total) :
    IsLabel total.repr.length (i + 1) (label total i) := by
  have hle : (i + 1).repr.length ≤ total.repr.length := length_repr_mono h
  constructor
  · exact ⟨total.repr.length - (i + 1).repr.length, by simp [label]⟩
  · rw [label, String.length_append, String.length_ofList, List.length_replicate]
    omega

/-! ### Lines before the selection -/

/-- What becomes of a line of the input before lines are selected. -/
inductive LineBecomes (request : SelectRequest) (config : Config) (line : String) :
    String → Prop where
  | kept (plain : request.substitution = none) : LineBecomes request config line line
  | rewritten {s : SubstitutionRequest} {made : Substitution}
      (asked : request.substitution = some s)
      (accepted : Substitution.ofText s.pattern s.replacement (scope config s) = .ok made) :
      LineBecomes request config line (made.applyLine line)

theorem exists_lineBecomes_of_document (h : request.document config text = .ok d) :
    ∃ f, (∀ line, request.LineBecomes config line (f line)) ∧
      d.lines = (Document.ofText text).lines.map f := by
  unfold document at h
  split at h
  · next hplain =>
    obtain rfl := Except.ok.inj h
    exact ⟨id, fun line => .kept hplain, (List.map_id _).symm⟩
  · next s hasked =>
    unfold Document.substitute at h
    split at h
    · cases h
    · next made haccepted =>
      obtain rfl := Except.ok.inj h
      exact ⟨made.applyLine, fun line => .rewritten hasked haccepted, rfl⟩

theorem length_document (h : request.document config text = .ok d) :
    d.length = (Document.ofText text).length := by
  obtain ⟨f, -, hlines⟩ := exists_lineBecomes_of_document h
  rw [Document.length, hlines, List.length_map]
  rfl

/-! ### Printing -/

theorem run_of_not_explain (request : SelectRequest) (unexplained : request.explain = false)
    (config : Config) (text : String) :
    request.run config text = (do
      let d ← request.document config text
      let indices ← request.indices d
      return request.printed config d indices) := by
  simp only [run, unexplained, Bool.false_eq_true, if_false]

theorem run_eq_ok_iff (request : SelectRequest) (unexplained : request.explain = false)
    {output : String} :
    request.run config text = .ok output ↔
      ∃ d indices, request.document config text = .ok d ∧ request.indices d = .ok indices ∧
        request.printed config d indices = output := by
  rw [request.run_of_not_explain unexplained]
  cases request.document config text with
  | error e => simp [bind, Except.bind]
  | ok d => cases h : request.indices d <;> simp [bind, Except.bind, pure, Except.pure, h]

def unnumbered (request : SelectRequest) : SelectRequest :=
  { request with number := false }

/-- What is printed for place `i` of the input: the label of the line, a space, and what has become
of the line. -/
inductive NumberedPiece (request : SelectRequest) (config : Config) (text : String)
    (d : Document) (i : ℕ) : String → Prop where
  | intro {label original line : String}
      (labelled : IsLabel (Document.ofText text).length.repr.length (i + 1) label)
      (input : (Document.ofText text).lines[i]? = some original)
      (becomes : request.LineBecomes config original line)
      (present : d.lines[i]? = some line) :
      NumberedPiece request config text d i (label ++ " " ++ line)

theorem numberedPiece_printedLine (h : request.document config text = .ok d) {i : ℕ}
    (hi : i < d.length) : request.NumberedPiece config text d i (printedLine true d i) := by
  obtain ⟨f, hbecomes, hlines⟩ := exists_lineBecomes_of_document h
  have hlength := length_document h
  have hinput : i < (Document.ofText text).lines.length := by
    rw [hlength] at hi
    exact hi
  have hpresent : d.lines[i]? = some (f (Document.ofText text).lines[i]) := by
    rw [hlines, List.getElem?_map, List.getElem?_eq_getElem hinput]
    rfl
  have hpiece : printedLine true d i =
      label (Document.ofText text).length i ++ " " ++ f (Document.ofText text).lines[i] := by
    rw [printedLine, hpresent, ← hlength]
    rfl
  rw [hpiece]
  exact .intro (isLabel_label hinput) (List.getElem?_eq_getElem hinput) (hbecomes _) hpresent

theorem NumberedPiece.drop_label {i : ℕ} {piece : String}
    (h : request.NumberedPiece config text d i piece) :
    String.ofList (piece.toList.drop ((Document.ofText text).length.repr.length + 1)) =
      printedLine false d i := by
  obtain ⟨labelled, -, -, present⟩ := h
  rename_i label original line
  have hlabel : (label ++ " ").toList.length = (Document.ofText text).length.repr.length + 1 := by
    rw [String.toList_append, List.length_append, String.length_toList, labelled.aligned]
    rfl
  rw [String.toList_append, List.drop_left' hlabel, printedLine, present]
  simp

end CommandLine.SelectRequest

def Config.unnumbered (config : Config) : Config :=
  { config with output := { config.output with numberLines := false } }

namespace Program

variable {env : Environment} {request : SelectRequest} {text : String}

theorem exists_run_of_code (h : (select env request).code = 0) :
    ∃ text output, readText env (openLog env request).tree request.file = .ok text ∧
      request.run env.config text = .ok output ∧
      (select env request).output = output := by
  cases htext : readText env (openLog env request).tree request.file with
  | error f =>
      rw [select_of_readText_error htext] at h
      cases h
  | ok text =>
      cases hrun : request.run env.config text with
      | error e =>
          rw [(select_of_run_error hrun htext).1] at h
          cases h
      | ok output => exact ⟨text, output, rfl, hrun, (select_of_run_ok hrun htext).2.1⟩

/-- A run with numbers prints, for each place that is selected, the number of the line in the input
behind as many spaces as make all labels as wide as the number of the last line, and then the line
with its substitution, whatever line feeds that brings in. A run on the same text that differs in
the numbers alone prints these pieces with their labels cut off. -/
theorem select_numbered_pieces (env : Environment) (request : SelectRequest)
    (unexplained : request.explain = false)
    (numbered : (request.number || env.config.output.numberLines) = true)
    (succeeds : (select env request).code = 0) :
    let config := env.config
    ∃ text d indices pieces,
      readText env (openLog env request).tree request.file = .ok text ∧
      request.document config text = .ok d ∧ request.indices d = .ok indices ∧
      List.Forall₂ (request.NumberedPiece config text d) indices pieces ∧
      (select env request).output = String.join pieces ∧
      ∀ other : Environment, other.config = config.unnumbered →
        readText other (openLog other request.unnumbered).tree request.file = .ok text →
        (select other request.unnumbered).code = 0 ∧
          (select other request.unnumbered).output = String.join (pieces.map fun piece =>
            String.ofList (piece.toList.drop ((Document.ofText text).length.repr.length + 1))) := by
  intro config
  obtain ⟨text, output, htext, hrun, houtput⟩ := exists_run_of_code succeeds
  obtain ⟨d, indices, hdocument, hindices, rfl⟩ :=
    (request.run_eq_ok_iff unexplained).mp hrun
  have hpieces : ∀ i ∈ indices,
      request.NumberedPiece config text d i (SelectRequest.printedLine true d i) := fun i hi =>
    SelectRequest.numberedPiece_printedLine hdocument
      (SelectRequest.lt_length_of_indices hindices i hi)
  refine ⟨text, d, indices, indices.map (SelectRequest.printedLine true d), htext, hdocument,
    hindices, ?_, ?_, ?_⟩
  · rw [List.forall₂_map_right_iff, List.forall₂_same]
    exact hpieces
  · rw [houtput, SelectRequest.printed, numbered]
  · intro other hconfig hother
    have hplain : request.unnumbered.run other.config text =
        .ok (request.unnumbered.printed config.unnumbered d indices) := by
      rw [hconfig]
      exact (request.unnumbered.run_eq_ok_iff unexplained).mpr
        ⟨d, indices, hdocument, hindices, rfl⟩
    obtain ⟨hcode, hprinted, -⟩ := select_of_run_ok hplain hother
    refine ⟨hcode, hprinted.trans ?_⟩
    have hlines : ∀ i ∈ indices, SelectRequest.printedLine false d i =
        String.ofList ((SelectRequest.printedLine true d i).toList.drop
          ((Document.ofText text).length.repr.length + 1)) :=
      fun i hi => (hpieces i hi).drop_label.symm
    rw [SelectRequest.printed, List.map_map]
    exact congrArg String.join (List.map_congr_left hlines)

/-- The configuration asks for numbers. Of ten lines two are selected, one of them is broken in two
by the substitution, and then the first is selected again. -/
theorem select_numbered_pieces_broken_line :
    let input := "a\nb\n\n\n\n\n\n\n\nc-d".toUTF8
    let numbering : Environment := { input, tree := { entries :=
      [([".edtext", "config.toml"], .file "[output]\nnumber_lines = true\n".toUTF8)] } }
    let plain : Environment := { input, tree := {} }
    let request : SelectRequest :=
      { ranges := ["2", "$", "1"], substitution := some ⟨"-", "\\n", false⟩ }
    (select numbering request).output = " 2 b\n10 c\nd 1 a\n" ∧
    ∃ text d indices pieces,
      List.Forall₂ (request.NumberedPiece ⟨{}, {}, { numberLines := true }⟩ text d) indices pieces ∧
      (select numbering request).output = String.join pieces ∧
      (select plain request.unnumbered).output = String.join (pieces.map fun piece =>
        String.ofList (piece.toList.drop ((Document.ofText text).length.repr.length + 1))) := by
  intro input numbering plain request
  have hconfig : numbering.config = ⟨{}, {}, { numberLines := true }⟩ := by decide +kernel
  have hcode : (select numbering request).code = 0 := by decide +kernel
  obtain ⟨text, d, indices, pieces, htext, -, -, hpieces, hprinted, hothers⟩ :=
    select_numbered_pieces numbering request rfl (by rw [hconfig]; rfl) hcode
  have hplain : plain.config = numbering.config.unnumbered := by decide +kernel
  have hread : readText plain (openLog plain request.unnumbered).tree request.file = .ok text :=
    htext
  have hinput : readText numbering (openLog numbering request).tree request.file =
      .ok "a\nb\n\n\n\n\n\n\n\nc-d" := by decide +kernel
  have hnumbers : request.run ⟨{}, {}, { numberLines := true }⟩ "a\nb\n\n\n\n\n\n\n\nc-d" =
      .ok " 2 b\n10 c\nd 1 a\n" := by
    decide +kernel
  rw [← hconfig] at hnumbers
  rw [hconfig] at hpieces
  exact ⟨(select_of_run_ok hnumbers hinput).2.1, text, d, indices, pieces, hpieces, hprinted,
    (hothers plain hplain hread).2⟩

end Program

/-! ### All lines -/

section Whole

variable {lines : List String} {start : Address} {expr : String}

theorem selectIndices_to_last
    (parsed : Range.parse expr = .ok ⟨start, some (.comma, ⟨.last, 0⟩)⟩)
    (first : start.resolve lines 0 = .ok 1) (nonempty : lines ≠ [])
    (short : lines.length ≤ greatestLine) :
    selectIndices lines [expr] = .ok (List.range lines.length) := by
  have hpos : 0 < lines.length := List.length_pos_of_ne_nil nonempty
  have hlast : Address.resolve ⟨.last, 0⟩ lines 1 = .ok (lines.length : Int) := by
    have hlow : leastLine ≤ lines.length := by unfold leastLine; omega
    rw [Address.resolve, Position.resolve]
    dsimp only
    rw [Int.add_zero, saturate_eq_self hlow short]
  have hblock : resolveExpression lines 0 expr = .ok ⟨1, lines.length⟩ := by
    apply resolveExpression_eq_ok_iff.mpr
    refine ⟨_, parsed, Range.resolve_eq_ok_iff.mpr ⟨first, ?_, le_rfl, hpos, le_rfl⟩⟩
    exact .fromBeginning (by decide) hlast
  exact selectIndices_singleton_eq_ok_iff.mpr ⟨_, hblock, List.range_eq_range'.symm⟩

theorem Document.length_ofText_pos {text : String} (nonempty : text ≠ "") :
    0 < (ofText text).length := by
  rw [Nat.pos_iff_ne_zero]
  intro hzero
  apply nonempty
  rw [← text_ofText text, Document.text, List.length_eq_zero_iff.mp hzero]
  rfl

theorem exists_error_of_no_lines {exprs : List String} (nonempty : exprs ≠ []) :
    ∃ e, selectIndices [] exprs = .error e := by
  cases hselected : selectIndices [] exprs with
  | error e => exact ⟨e, rfl⟩
  | ok indices =>
      obtain ⟨expr, exprs, rfl⟩ := List.exists_cons_of_ne_nil nonempty
      obtain ⟨blocks, hblocks, -⟩ := selectIndices_eq_ok_iff.mp hselected
      obtain ⟨block, -, hblock, -⟩ := resolveBlocks_cons_eq_ok_iff.mp hblocks
      obtain ⟨hfirst, hordered, hlast⟩ := bounds_of_resolveExpression hblock
      rw [List.length_nil] at hlast
      omega

end Whole

namespace CommandLine.SelectRequest

variable {request : SelectRequest} {config : Config} {text : String}

def withRanges (request : SelectRequest) (ranges : List String) : SelectRequest :=
  { request with ranges }

theorem exists_document_iff (text : String) :
    (∃ d, request.document config text = .ok d) ↔ ∀ s, request.substitution = some s → ∃ made,
      Substitution.ofText s.pattern s.replacement (scope config s) = .ok made := by
  unfold document
  cases request.substitution with
  | none => simp
  | some s =>
      simp only [Document.substitute, Option.some.injEq, forall_eq']
      cases Substitution.ofText s.pattern s.replacement (scope config s) <;> simp

theorem printed_all (unnumbered : (request.number || config.output.numberLines) = false)
    (d : Document) : request.printed config d (List.range d.length) = d.text := by
  rw [printed, unnumbered, Document.text]
  congr 1
  apply List.ext_getElem
  · simp [Document.length]
  · intro i hi hline
    simp [printedLine, hline]

end CommandLine.SelectRequest

namespace Program

/-- The bytes that a selection reads: the input, or the content of the file that is named. -/
inductive Source (env : Environment) (tree : FileTree) : Option String → ByteArray → Prop where
  | input : Source env tree none env.input
  | file {name : String} {path : Path} {content : ByteArray}
      (located : tree.locate env.directory name = .ok path)
      (present : tree.get? path = some (.file content)) : Source env tree (some name) content

section Whole

variable {env : Environment} {request : SelectRequest} {text : String}

theorem readText_of_source {tree : FileTree} {file : Option String}
    (source : Source env tree file text.toUTF8) : readText env tree file = .ok text := by
  generalize hbytes : text.toUTF8 = bytes at source
  cases source with
  | input => rw [readText, ← hbytes, FileTree.decode_toUTF8]
  | file located present =>
      simp only [readText, located, FileTree.readText, FileTree.read, present, ← hbytes,
        FileTree.decode_toUTF8]

theorem output_of_code_ne_zero (h : (select env request).code ≠ 0) :
    (select env request).output = "" := by
  rw [select_eq_conclude] at h ⊢
  exact output_conclude h

theorem select_congr (other request : SelectRequest) (file : other.file = request.file)
    (debug : other.debug = request.debug)
    (htext : readText env (openLog env request).tree request.file = .ok text)
    (runs : other.run env.config text = request.run env.config text) :
    (select env other).code = (select env request).code ∧
      (select env other).output = (select env request).output ∧
      (select env other).errors = (select env request).errors := by
  have hlog : openLog env other = openLog env request := by
    rw [openLog, openLog, debug]
  rw [select_eq_conclude env other, select_eq_conclude env request, hlog, file, htext]
  simp only [conclude, runs]
  cases request.run env.config text <;> exact ⟨rfl, rfl, rfl⟩

theorem run_withRanges_nil (unexplained : request.explain = false) (config : Config)
    (text : String) :
    (request.withRanges []).run config text =
      (request.document config text).map fun d =>
        request.printed config d (List.range d.length) := by
  rw [(request.withRanges []).run_of_not_explain unexplained]
  change (do
    let d ← request.document config text
    return request.printed config d (List.range d.length)) = _
  cases request.document config text <;> rfl

theorem run_withRanges_nil_plain (unexplained : request.explain = false) {config : Config}
    (plain : request.substitution = none)
    (unnumbered : (request.number || config.output.numberLines) = false) :
    (request.withRanges []).run config text = .ok text := by
  have hdocument : request.document config text = .ok (.ofText text) := by
    rw [SelectRequest.document, plain]
  rw [run_withRanges_nil unexplained, hdocument]
  exact congrArg Except.ok
    ((SelectRequest.printed_all unnumbered _).trans (Document.text_ofText text))

theorem run_withRanges_nil_empty (unexplained : request.explain = false) (config : Config) :
    (request.withRanges []).run config "" = (request.document config "").map fun _ => "" := by
  rw [run_withRanges_nil unexplained]
  cases hdocument : request.document config "" with
  | error e => rfl
  | ok d =>
      have hlength : d.length = 0 := SelectRequest.length_document hdocument
      rw [Except.map, Except.map, hlength]
      rfl

theorem run_withRanges_to_last (unexplained : request.explain = false) (config : Config)
    (nonempty : text ≠ "") (short : (Document.ofText text).length ≤ greatestLine)
    {expr : String} {start : Address}
    (parsed : Range.parse expr = .ok ⟨start, some (.comma, ⟨.last, 0⟩)⟩)
    (first : ∀ lines, start.resolve lines 0 = .ok 1) :
    (request.withRanges [expr]).run config text = (request.withRanges []).run config text := by
  rw [run_withRanges_nil unexplained,
    (request.withRanges [expr]).run_of_not_explain unexplained]
  change (do
    let d ← request.document config text
    let indices ← d.lineNumbers [expr]
    return request.printed config d indices) = _
  cases hdocument : request.document config text with
  | error e => rfl
  | ok d =>
      have hlength : d.length = (Document.ofText text).length :=
        SelectRequest.length_document hdocument
      have hlines : d.lines ≠ [] := by
        apply List.ne_nil_of_length_pos
        change 0 < d.length
        rw [hlength]
        exact Document.length_ofText_pos nonempty
      have hselected : d.lineNumbers [expr] = .ok (List.range d.length) :=
        selectIndices_to_last parsed (first _) hlines (by rw [← hlength] at short; exact short)
      simp only [bind, Except.bind, hselected]
      rfl

theorem select_of_run_fails {e : SelectionError}
    (hrun : request.run env.config text = .error e)
    (htext : readText env (openLog env request).tree request.file = .ok text) :
    (select env request).code = 1 ∧ (select env request).output = "" := by
  have hcode : (select env request).code = 1 := (select_of_run_error hrun htext).1
  exact ⟨hcode, output_of_code_ne_zero (hcode ▸ Nat.one_ne_zero)⟩

theorem run_withRanges_empty (unexplained : request.explain = false) (config : Config)
    {ranges : List String} (nonempty : ranges ≠ []) :
    ∃ e, (request.withRanges ranges).run config "" = .error e := by
  cases hrun : (request.withRanges ranges).run config "" with
  | error e => exact ⟨e, rfl⟩
  | ok output =>
      obtain ⟨d, indices, hdocument, hindices, -⟩ :=
        ((request.withRanges ranges).run_eq_ok_iff unexplained).mp hrun
      obtain ⟨f, -, hlines⟩ := SelectRequest.exists_lineBecomes_of_document hdocument
      obtain ⟨blocks, hblocks, -⟩ := SelectRequest.indices_of_ranges hindices nonempty
      obtain ⟨e, he⟩ := exists_error_of_no_lines nonempty
      have hselected : selectIndices d.lines ranges = .ok _ :=
        selectIndices_eq_ok_iff.mpr ⟨blocks, hblocks, rfl⟩
      rw [hlines] at hselected
      cases he.symm.trans hselected

end Whole

/-- What a run without a range does, in three parts. Without a substitution and without numbers it
gives the bytes back that it reads. On a text with lines, of which no memory holds more than can be
counted in a word, it ends like the runs from the current line and from line 1 up to the last line,
whatever is substituted and numbered. On the empty text it prints nothing, and succeeds unless the
substitution is refused, and every run with ranges fails. -/
theorem select_without_ranges (env : Environment) (request : SelectRequest)
    (unexplained : request.explain = false) (text : String)
    (source : Source env (openLog env request).tree request.file text.toUTF8) :
    let config := env.config
    let whole := select env (request.withRanges [])
    (request.substitution = none → (request.number || config.output.numberLines) = false →
      whole.code = 0 ∧ whole.output.toUTF8 = text.toUTF8) ∧
    (text ≠ "" → (Document.ofText text).length ≤ greatestLine → ∀ expr ∈ [",$", "1,$"],
      (select env (request.withRanges [expr])).code = whole.code ∧
        (select env (request.withRanges [expr])).output = whole.output ∧
        (select env (request.withRanges [expr])).errors = whole.errors) ∧
    (text = "" →
      whole.output = "" ∧
      (whole.code = 0 ↔ ∀ s, request.substitution = some s → ∃ made,
        Substitution.ofText s.pattern s.replacement (SelectRequest.scope config s) = .ok made) ∧
      ∀ exprs, exprs ≠ [] → (select env (request.withRanges exprs)).code = 1 ∧
        (select env (request.withRanges exprs)).output = "") := by
  intro config whole
  have htext : readText env (openLog env request).tree request.file = .ok text :=
    readText_of_source source
  refine ⟨?_, ?_, ?_⟩
  · intro hplain hnumber
    have hrun : (request.withRanges []).run config text = .ok text :=
      run_withRanges_nil_plain unexplained hplain hnumber
    obtain ⟨hcode, houtput, -⟩ := select_of_run_ok hrun htext
    exact ⟨hcode, congrArg String.toUTF8 houtput⟩
  · intro nonempty short expr hexpr
    have hcurrent : ∀ lines, Address.resolve ⟨.current, 0⟩ lines 0 = .ok 1 := fun _ => rfl
    have hline : ∀ lines, Address.resolve ⟨.line 1, 0⟩ lines 0 = .ok 1 := fun _ => rfl
    have hrun : (request.withRanges [expr]).run config text =
        (request.withRanges []).run config text := by
      rcases List.mem_pair.mp hexpr with rfl | rfl
      · exact run_withRanges_to_last unexplained config nonempty short (by decide +kernel) hcurrent
      · exact run_withRanges_to_last unexplained config nonempty short (by decide +kernel) hline
    exact select_congr (request.withRanges [expr]) (request.withRanges []) rfl rfl htext hrun
  · rintro rfl
    have hwhole := run_withRanges_nil_empty unexplained config
    rw [← SelectRequest.exists_document_iff "", ← and_assoc]
    constructor
    · cases hdocument : request.document config "" with
      | error e =>
          rw [hdocument] at hwhole
          obtain ⟨hcode, houtput⟩ := select_of_run_fails hwhole htext
          exact ⟨houtput, by simp [whole, hcode]⟩
      | ok d =>
          rw [hdocument] at hwhole
          obtain ⟨hcode, houtput, -⟩ := select_of_run_ok hwhole htext
          exact ⟨houtput, by simp [whole, hcode]⟩
    · intro exprs hexprs
      obtain ⟨e, he⟩ := run_withRanges_empty unexplained config hexprs
      exact select_of_run_fails he htext

theorem select_without_ranges_mixed_endings :
    let env : Environment := { tree := {}, input := "a\r\n\nb".toUTF8 }
    let empty : Environment := { tree := {}, input := "".toUTF8 }
    let numbered : SelectRequest := { number := true, substitution := some ⟨"a", "\\n", true⟩ }
    ((select env {}).code = 0 ∧ (select env {}).output.toUTF8 = "a\r\n\nb".toUTF8) ∧
      (select env (numbered.withRanges [",$"])).output =
        (select env (numbered.withRanges [])).output ∧
      (select empty {}).output = "" ∧ (select empty (numbered.withRanges ["$", "."])).code = 1 := by
  intro env empty numbered
  obtain ⟨hwhole, -, -⟩ := select_without_ranges env {} rfl "a\r\n\nb" .input
  obtain ⟨-, hrange, -⟩ := select_without_ranges env numbered rfl "a\r\n\nb" .input
  obtain ⟨-, -, hempty⟩ := select_without_ranges empty numbered rfl "" .input
  obtain ⟨-, -, hnothing⟩ := select_without_ranges empty {} rfl "" .input
  have hlast := hrange (by decide) (by decide +kernel) ",$" (by simp)
  exact ⟨hwhole rfl (by decide +kernel), hlast.2.1, (hnothing rfl).1,
    ((hempty rfl).2.2 ["$", "."] (by simp)).1⟩

end Program

end LineSelect
