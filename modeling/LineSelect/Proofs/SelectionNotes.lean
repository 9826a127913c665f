import Mathlib.Algebra.GroupWithZero.Nat
import Mathlib.Data.List.Chain
import LineSelect.Proofs.PrintedLines
import LineSelect.Proofs.RunEffects

/-!
What a log tells about the ranges of a run. There is a note on selected lines for each expression
that is resolved, in their order: each starts from the cursor that the one before it left, stays in
the text whose loading is noted before it, and its count adds to the number of lines that the run
prints or reports.
-/

namespace LineSelect

open LineSelect.CommandLine

/-! ### Steps of a selection -/

/-- An expression that has been resolved: the cursor that it started from, and the block that it
selects. -/
structure SelectionStep where
  expr : String
  cursor : Int
  block : Block
deriving DecidableEq, Repr

namespace SelectionStep

def next (s : SelectionStep) : Nat :=
  s.block.last

def count (s : SelectionStep) : Nat :=
  s.block.size

def note (s : SelectionStep) : LogEvent :=
  .selectedLines s.expr s.cursor s.block

theorem facts_note (s : SelectionStep) :
    s.note.facts = [("expr", Text.quoted s.expr), ("cursor", s.cursor.repr),
      ("next", s.next.repr), ("count", s.count.repr)] :=
  rfl

end SelectionStep

/-- The steps of resolving expressions from left to right, up to the first that fails. -/
def selectionSteps (lines : List String) (cursor : Int) : List String → List SelectionStep
  | [] => []
  | expr :: rest =>
    match resolveExpression lines cursor expr with
    | .error _ => []
    | .ok block => ⟨expr, cursor, block⟩ :: selectionSteps lines block.last rest

/-- Steps that go on from each other, the first from a given cursor, inside a text. -/
structure StepChain (lines : List String) (origin : Int) (steps : List SelectionStep) : Prop where
  first : ∀ s ∈ steps.head?, s.cursor = origin
  linked : steps.IsChain fun s t => t.cursor = s.next
  resolved : ∀ s ∈ steps, resolveExpression lines s.cursor s.expr = .ok s.block
  inText : ∀ s ∈ steps, 1 ≤ s.next ∧ s.next ≤ lines.length
  counted : ∀ s ∈ steps, 1 ≤ s.count ∧ s.count ≤ s.next

section Steps

variable {lines : List String} {cursor : Int} {expr : String} {exprs : List String}

theorem selectionSteps_of_error {e : SelectionError}
    (h : resolveExpression lines cursor expr = .error e) :
    selectionSteps lines cursor (expr :: exprs) = [] := by
  rw [selectionSteps, h]

theorem selectionSteps_of_ok {block : Block} (h : resolveExpression lines cursor expr = .ok block) :
    selectionSteps lines cursor (expr :: exprs) =
      ⟨expr, cursor, block⟩ :: selectionSteps lines block.last exprs := by
  rw [selectionSteps, h]

theorem StepChain.cons {block : Block} {steps : List SelectionStep}
    (h : resolveExpression lines cursor expr = .ok block)
    (chain : StepChain lines block.last steps) :
    StepChain lines cursor (⟨expr, cursor, block⟩ :: steps) := by
  obtain ⟨hfirst, hordered, hlast⟩ := bounds_of_resolveExpression h
  exact {
    first := by simp
    linked := List.isChain_cons.mpr ⟨chain.first, chain.linked⟩
    resolved := List.forall_mem_cons.mpr ⟨h, chain.resolved⟩
    inText := List.forall_mem_cons.mpr ⟨⟨hfirst.trans hordered, hlast⟩, chain.inText⟩
    counted := by
      refine List.forall_mem_cons.mpr ⟨?_, chain.counted⟩
      dsimp only [SelectionStep.count, SelectionStep.next, Block.size]
      omega }

theorem stepChain_selectionSteps (lines : List String) (cursor : Int) (exprs : List String) :
    StepChain lines cursor (selectionSteps lines cursor exprs) := by
  induction exprs generalizing cursor with
  | nil => exact ⟨by simp [selectionSteps], .nil, nofun, nofun, nofun⟩
  | cons expr exprs ih =>
      cases h : resolveExpression lines cursor expr with
      | error e =>
          rw [selectionSteps_of_error h]
          exact ⟨by simp, .nil, nofun, nofun, nofun⟩
      | ok block =>
          rw [selectionSteps_of_ok h]
          exact (ih block.last).cons h

theorem selectionSteps_of_resolveBlocks {blocks : List Block}
    (h : resolveBlocks lines cursor exprs = .ok blocks) :
    (selectionSteps lines cursor exprs).map SelectionStep.expr = exprs ∧
      (selectionSteps lines cursor exprs).map SelectionStep.block = blocks := by
  induction exprs generalizing cursor blocks with
  | nil =>
      obtain rfl := Except.ok.inj h
      exact ⟨rfl, rfl⟩
  | cons expr exprs ih =>
      obtain ⟨block, more, hblock, hmore, rfl⟩ := resolveBlocks_cons_eq_ok_iff.mp h
      obtain ⟨hexprs, hblocks⟩ := ih hmore
      rw [selectionSteps_of_ok hblock]
      exact ⟨congrArg (expr :: ·) hexprs, congrArg (block :: ·) hblocks⟩

theorem exists_failing_of_resolveBlocks {e : SelectionError}
    (h : resolveBlocks lines cursor exprs = .error e) :
    ∃ expr rest,
      exprs = (selectionSteps lines cursor exprs).map SelectionStep.expr ++ expr :: rest ∧
      resolveExpression lines
        (cursorAfter cursor ((selectionSteps lines cursor exprs).map SelectionStep.block)) expr =
          .error e := by
  induction exprs generalizing cursor with
  | nil => cases h
  | cons expr exprs ih =>
      cases hexpr : resolveExpression lines cursor expr with
      | error cause =>
          rw [resolveBlocks, hexpr] at h
          obtain rfl := Except.error.inj h
          rw [selectionSteps_of_error hexpr]
          exact ⟨expr, exprs, rfl, hexpr⟩
      | ok block =>
          have hmore : resolveBlocks lines block.last exprs = .error e := by
            rw [resolveBlocks, hexpr] at h
            dsimp only at h
            split at h
            · next cause hcause => exact hcause.trans (congrArg _ (Except.error.inj h))
            · cases h
          obtain ⟨failing, rest, hexprs, hfails⟩ := ih hmore
          rw [selectionSteps_of_ok hexpr]
          exact ⟨failing, rest, congrArg (expr :: ·) hexprs, hfails⟩

theorem length_flatMap_indices (steps : List SelectionStep) :
    ((steps.map SelectionStep.block).flatMap Block.indices).length =
      (steps.map SelectionStep.count).sum := by
  rw [List.length_flatMap, List.map_map]
  exact congrArg List.sum (List.map_congr_left fun s _ => Block.length_indices s.block)

end Steps

/-! ### Notes -/

def LogEvent.isSelection (event : LogEvent) : Bool :=
  event.message == "selected lines"

theorem LogFilter.passes_default (event : LogEvent) :
    LogFilter.default.passes event = decide (event.level.rank ≤ LogLevel.debug.rank) := by
  cases event <;> cbv

theorem LogEvent.passes_of_isSelection {event : LogEvent} (h : event.isSelection = true) :
    LogFilter.default.passes event = true := by
  rw [LogFilter.passes_default]
  cases event with
  | selectedLines | substituting | parsedRange | loadedDocument => rfl
  | parsedAddress | resolvedRange => cases h

theorem filter_isSelection_passes (events : List LogEvent) :
    (events.filter LogFilter.default.passes).filter LogEvent.isSelection =
      events.filter LogEvent.isSelection := by
  rw [List.filter_filter]
  apply List.filter_congr
  intro event _
  cases hselection : event.isSelection with
  | false => rfl
  | true => rw [LogEvent.passes_of_isSelection hselection, Bool.and_self]

section Events

variable {lines : List String} {cursor : Int} {expr : String} {exprs : List String}
  {event : LogEvent}

theorem message_of_mem_addressEvents (h : event ∈ Address.readEvents expr) :
    event.message = "parsed address" := by
  unfold Address.readEvents at h
  split at h
  · obtain rfl := List.mem_singleton.mp h
    rfl
  · cases h

theorem message_of_mem_readEvents (h : event ∈ Range.readEvents expr) :
    event.message ∈ ["parsed address", "parsed range"] := by
  rw [List.mem_pair]
  unfold Range.readEvents at h
  split at h
  · cases h
  · rcases List.mem_cons.mp h with rfl | h
    · exact .inl rfl
    · split at h
      · cases h
      · split at h
        · cases h
        · dsimp only at h
          split at h
          · rcases List.mem_append.mp h with h | h
            · exact .inl (message_of_mem_addressEvents h)
            · obtain rfl := List.mem_singleton.mp h
              exact .inr rfl
          · exact .inl (message_of_mem_addressEvents h)

theorem message_of_mem_expressionEvents (h : event ∈ expressionEvents lines cursor expr) :
    event.message ∈ ["parsed address", "parsed range", "resolved range", "selected lines"] := by
  rcases List.mem_append.mp h with h | h
  · exact List.mem_append_left _ (message_of_mem_readEvents h)
  · apply List.mem_append_right ["parsed address", "parsed range"]
    split at h
    · cases h
    · split at h
      · cases h
      · rcases List.mem_pair.mp h with rfl | rfl
        · exact .head _
        · exact .tail _ (.head _)

theorem message_of_mem_selectionEvents (h : event ∈ selectionEvents lines cursor exprs) :
    event.message ∈ ["parsed address", "parsed range", "resolved range", "selected lines"] := by
  induction exprs generalizing cursor with
  | nil => cases h
  | cons expr exprs ih =>
      rcases List.mem_append.mp h with h | h
      · exact message_of_mem_expressionEvents h
      · split at h
        · cases h
        · exact ih h

theorem filter_readEvents (expr : String) :
    (Range.readEvents expr).filter LogEvent.isSelection = [] := by
  rw [List.filter_eq_nil_iff]
  intro event h
  rcases List.mem_pair.mp (message_of_mem_readEvents h) with h | h <;>
    simp [LogEvent.isSelection, h]

theorem filter_expressionEvents (lines : List String) (cursor : Int) (expr : String) :
    (expressionEvents lines cursor expr).filter LogEvent.isSelection =
      match resolveExpression lines cursor expr with
      | .error _ => []
      | .ok block => [.selectedLines expr cursor block] := by
  rw [expressionEvents, List.filter_append, filter_readEvents, List.nil_append, resolveExpression]
  cases Range.parse expr with
  | error e => rfl
  | ok range =>
      dsimp only
      cases range.resolve lines cursor with
      | error e => cases e <;> rfl
      | ok block => rfl

theorem filter_selectionEvents (lines : List String) (cursor : Int) (exprs : List String) :
    (selectionEvents lines cursor exprs).filter LogEvent.isSelection =
      (selectionSteps lines cursor exprs).map SelectionStep.note := by
  induction exprs generalizing cursor with
  | nil => rfl
  | cons expr exprs ih =>
      rw [selectionEvents, List.filter_append, filter_expressionEvents]
      cases h : resolveExpression lines cursor expr with
      | error e =>
          rw [selectionSteps_of_error h]
          rfl
      | ok block =>
          rw [selectionSteps_of_ok h]
          exact congrArg (_ :: ·) (ih block.last)

end Events

namespace CommandLine.SelectRequest

variable {request : SelectRequest} {config : Config} {text : String} {event : LogEvent}

theorem message_of_mem_substitutionEvents (h : event ∈ request.substitutionEvents config) :
    event.message = "substituting" := by
  unfold substitutionEvents at h
  split at h
  · cases h
  · split at h
    · cases h
    · obtain rfl := List.mem_singleton.mp h
      rfl

theorem filter_substitutionEvents (request : SelectRequest) (config : Config) :
    (request.substitutionEvents config).filter LogEvent.isSelection = [] := by
  rw [List.filter_eq_nil_iff]
  intro event h
  simp [LogEvent.isSelection, message_of_mem_substitutionEvents h]

theorem filter_flatMap_readEvents (exprs : List String) :
    (exprs.flatMap Range.readEvents).filter LogEvent.isSelection = [] := by
  simp [List.filter_flatMap, filter_readEvents]

theorem filter_events_of_document_error {e : SelectionError}
    (h : request.document config text = .error e) :
    (request.events config text).filter LogEvent.isSelection = [] := by
  rw [events, h, List.cons_append, List.append_nil]
  exact filter_substitutionEvents request config

theorem filter_events_of_document {d : Document} (h : request.document config text = .ok d) :
    (request.events config text).filter LogEvent.isSelection =
      (selectionSteps d.lines 0 request.ranges).map SelectionStep.note := by
  rw [events, h]
  change (request.substitutionEvents config ++
    (selectionEvents d.lines 0 request.ranges ++ _)).filter LogEvent.isSelection = _
  rw [List.filter_append, filter_substitutionEvents, List.nil_append, List.filter_append,
    filter_selectionEvents, List.append_right_eq_self]
  split
  · rfl
  · split
    · exact filter_flatMap_readEvents request.ranges
    · rfl

theorem exists_events_eq_cons (request : SelectRequest) (config : Config) (text : String) :
    ∃ rest, request.events config text =
        .loadedDocument (Document.ofText text).length request.ranges :: rest ∧
      ∀ event ∈ rest, event.message ≠ "loaded document" := by
  refine ⟨_, rfl, ?_⟩
  intro event h
  rcases List.mem_append.mp h with h | h
  · rw [message_of_mem_substitutionEvents h]
    decide
  · split at h
    · cases h
    · rcases List.mem_append.mp h with h | h
      · exact ne_of_mem_of_not_mem (message_of_mem_selectionEvents h) (by decide)
      · split at h
        · cases h
        · split at h
          · obtain ⟨expr, -, h⟩ := List.mem_flatMap.mp h
            exact ne_of_mem_of_not_mem (message_of_mem_readEvents h) (by decide)
          · cases h

end CommandLine.SelectRequest

/-! ### The log file -/

namespace Program

section Log

variable {env : Environment} {request : SelectRequest} {path : Path}

theorem not_isPrefix_logPath (home : Path) : ¬ logPath home <+: ownDirectory home := by
  intro h
  have hlength := h.length_le
  rw [logPath, List.length_append, List.length_singleton] at hlength
  omega

theorem get?_log_startLog (h : (startLog env).log = some path) :
    (startLog env).tree.get? path = some (.file (env.tree.contentAt path)) := by
  unfold startLog at h ⊢
  split at h
  · cases h
  · next home hhome =>
    dsimp only at h ⊢
    split at h
    · cases h
    · next prepared hprepared =>
      split at h
      · cases h
      · next opened hopened =>
        obtain rfl := Option.some.inj h
        have hkept : prepared.get? (logPath home) = env.tree.get? (logPath home) := by
          rcases FileTree.get?_of_makeDirectories hprepared (logPath home) with hsame | ⟨hway, -⟩
          · exact hsame
          · exact absurd hway (not_isPrefix_logPath home)
        simp only
        rw [FileTree.get?_append_self hopened, FileTree.contentAt, hkept, ByteArray.append_empty]
        rfl

theorem get?_log_writeLog {start : LogStart} {content : ByteArray}
    (hopen : start.log = some path) (h : start.tree.get? path = some (.file content))
    (events : List LogEvent) :
    (writeLog env start events).get? path =
      some (.file (content ++ (logLines env.times 0
        (events.filter (LogFilter.ofText env.logFilter).passes)).toUTF8)) := by
  obtain ⟨changed, happend⟩ := FileTree.exists_append_of_get? h (logLines env.times 0
    (events.filter (LogFilter.ofText env.logFilter).passes)).toUTF8
  have hwritten : writeLog env start events = changed := by
    simp only [writeLog, hopen, happend]
  rw [hwritten, FileTree.get?_append_self happend, FileTree.contentAt_of_get? h]

/-- The notes that a run adds to its log. -/
def writtenNotes (env : Environment) (request : SelectRequest) : List LogEvent :=
  match readText env (openLog env request).tree request.file with
  | .error _ => []
  | .ok text =>
    (request.events env.config text).filter
      (LogFilter.ofText env.logFilter).passes

/-- A run adds the lines of its notes to the log, behind what was there. -/
theorem get?_log_select (keeps : KeepsLog env request) (opened : (startLog env).log = some path) :
    (select env request).tree.get? path =
      some (.file (env.tree.contentAt path ++
        (logLines env.times 0 (writtenNotes env request)).toUTF8)) := by
  have hlog := openLog_of_keepsLog keeps
  have hstart := get?_log_startLog opened
  rw [select_eq_conclude, writtenNotes, hlog]
  cases readText env (startLog env).tree request.file with
  | error f =>
      rw [logLines]
      exact hstart.trans (congrArg (some ∘ FileEntry.file) ByteArray.append_empty.symm)
  | ok text => rw [tree_conclude_ok, get?_log_writeLog opened hstart]

end Log

/-! ### Whole runs -/

/-- What a run shows for the lines at given places: a piece of text for each of them, or a report
that lists a number for each. -/
inductive Shows (request : SelectRequest) (config : Config) (d : Document) (indices : List Nat) :
    String → Prop where
  | lines (plain : request.explain = false) :
      Shows request config d indices (String.join (indices.map
        (SelectRequest.printedLine (request.number || config.output.numberLines) d)))
  | report {output : String} {report : Json} (explained : request.explain = true)
      (parsed : Json.parse? output = some report)
      (listed : report.field? "lines" =
        some (.arr ((indices.map (· + 1)).map fun n : Nat => .int n))) :
      Shows request config d indices output

/-- A run reads a text and selects from the document that becomes of it. -/
def SelectsFrom (env : Environment) (request : SelectRequest) (d : Document) : Prop :=
  ∃ text, readText env (openLog env request).tree request.file = .ok text ∧
    request.document env.config text = .ok d

/-- The first note tells of loading so many lines, and no other note does. -/
def BeginsWithLoading (notes : List LogEvent) (lines : Nat) (ranges : List String) : Prop :=
  ∃ rest, notes = .loadedDocument lines ranges :: rest ∧
    ∀ event ∈ rest, event.message ≠ "loaded document"

/-- How far a run comes with its ranges, by the steps that its notes tell of. -/
inductive Tells (env : Environment) (request : SelectRequest) (notes : List LogEvent) :
    List SelectionStep → Prop where
  /-- There is no document to select from, so no range is looked at. -/
  | nothing (missing : ∀ d, ¬ SelectsFrom env request d) (fails : (select env request).code = 1) :
      Tells env request notes []
  /-- A range fails from the cursor that those before it leave. -/
  | stopped {d : Document} {steps : List SelectionStep} {expr : String} {rest : List String}
      {e : SelectionError} (document : SelectsFrom env request d)
      (loading : BeginsWithLoading notes d.length request.ranges)
      (chain : StepChain d.lines 0 steps)
      (ranges : request.ranges = steps.map SelectionStep.expr ++ expr :: rest)
      (fault : resolveExpression d.lines (cursorAfter 0 (steps.map SelectionStep.block)) expr =
        .error e)
      (fails : (select env request).code = 1)
      (errors : (select env request).errors =
        env.configWarning ++ (openLog env request).warning ++ (Failure.selection e).report) :
      Tells env request notes steps
  /-- All ranges are resolved, and their lines are shown. -/
  | finished {d : Document} {steps : List SelectionStep} {indices : List Nat}
      (document : SelectsFrom env request d)
      (loading : BeginsWithLoading notes d.length request.ranges)
      (chain : StepChain d.lines 0 steps)
      (ranges : request.ranges = steps.map SelectionStep.expr)
      (selected : request.indices d = .ok indices)
      (counts : (steps.map SelectionStep.count).sum = indices.length)
      (succeeds : (select env request).code = 0)
      (shown : Shows request env.config d indices
        (select env request).output) :
      Tells env request notes steps

section Whole

variable {env : Environment} {request : SelectRequest} {config : Config} {text : String}
  {d : Document} {indices : List Nat}

theorem exists_shows (hdocument : request.document config text = .ok d)
    (hindices : request.indices d = .ok indices) :
    ∃ output, request.run config text = .ok output ∧ Shows request config d indices output := by
  cases hexplain : request.explain with
  | false => exact ⟨_, (request.run_eq_ok_iff hexplain).mpr ⟨d, indices, hdocument, hindices, rfl⟩,
      .lines hexplain⟩
  | true =>
      obtain ⟨ranges, hranges, -⟩ := SelectRequest.exists_explanation hindices
      refine ⟨(SelectRequest.explanation ranges indices).pretty 0 ++ "\n", ?_, ?_⟩
      · simp only [SelectRequest.run, hdocument, hindices, hexplain, hranges, bind, Except.bind,
          pure, Except.pure, if_true]
      · exact .report hexplain
          (Json.parse?_pretty (SelectRequest.isIntegral_explanation ranges indices))
          (SelectRequest.field?_lines_explanation ranges indices)

theorem beginsWithLoading_events (hdocument : request.document config text = .ok d) :
    BeginsWithLoading ((request.events config text).filter LogFilter.default.passes) d.length
      request.ranges := by
  obtain ⟨rest, hevents, hother⟩ := request.exists_events_eq_cons config text
  refine ⟨rest.filter LogFilter.default.passes, ?_,
    fun event h => hother event (List.mem_of_mem_filter h)⟩
  rw [hevents, List.filter_cons_of_pos (by rw [LogFilter.passes_default]; rfl),
    SelectRequest.length_document hdocument]

theorem tells_of_document (ranged : request.ranges ≠ [])
    (htext : readText env (openLog env request).tree request.file = .ok text)
    (hdocument : request.document env.config text = .ok d)
    {notes : List LogEvent} (loading : BeginsWithLoading notes d.length request.ranges) :
    Tells env request notes (selectionSteps d.lines 0 request.ranges) := by
  have hfrom : SelectsFrom env request d := ⟨text, htext, hdocument⟩
  have hchain := stepChain_selectionSteps d.lines 0 request.ranges
  cases hblocks : resolveBlocks d.lines 0 request.ranges with
  | error e =>
      obtain ⟨expr, rest, hranges, hfault⟩ := exists_failing_of_resolveBlocks hblocks
      have hindices : request.indices d = .error e := by
        rw [SelectRequest.indices, if_neg ranged, Document.lineNumbers, selectIndices, hblocks]
      have hrun : request.run env.config text = .error e := by
        simp only [SelectRequest.run, hdocument, hindices, bind, Except.bind]
      obtain ⟨hcode, herrors⟩ := select_of_run_error hrun htext
      exact .stopped hfrom loading hchain hranges hfault hcode herrors
  | ok blocks =>
      obtain ⟨hexprs, hsteps⟩ := selectionSteps_of_resolveBlocks hblocks
      have hindices : request.indices d = .ok (blocks.flatMap Block.indices) := by
        rw [SelectRequest.indices, if_neg ranged, Document.lineNumbers, selectIndices, hblocks]
      obtain ⟨output, hrun, hshows⟩ := exists_shows hdocument hindices
      obtain ⟨hcode, houtput, -⟩ := select_of_run_ok hrun htext
      refine .finished hfrom loading hchain hexprs.symm hindices ?_ hcode (houtput ▸ hshows)
      rw [← length_flatMap_indices, hsteps]

end Whole

/-- What the log of a run tells about its ranges, where notes are kept under the filter that is used
without another one. The lines of the notes are added behind what was in the log. The notes on
selected lines are those of a chain of steps, up to the first range that fails or over all of them,
and then the counts add up to the number of lines that the run shows. -/
theorem select_tells_ranges (env : Environment) (request : SelectRequest) (path : Path)
    (keeps : KeepsLog env request) (opened : (startLog env).log = some path)
    (unfiltered : LogFilter.ofText env.logFilter = LogFilter.default)
    (ranged : request.ranges ≠ []) :
    env.home.map logPath = some path ∧
      (select env request).tree.get? path =
        some (.file (env.tree.contentAt path ++
          (logLines env.times 0 (writtenNotes env request)).toUTF8)) ∧
      ∃ steps, (writtenNotes env request).filter LogEvent.isSelection =
          steps.map SelectionStep.note ∧
        (∀ s ∈ steps, s.note.facts = [("expr", Text.quoted s.expr), ("cursor", s.cursor.repr),
          ("next", s.next.repr), ("count", s.count.repr)]) ∧
        Tells env request (writtenNotes env request) steps := by
  refine ⟨home_of_log_startLog opened, get?_log_select keeps opened, ?_⟩
  -- Without a text or a document nothing is resolved, so the chain of steps is empty.
  cases htext : readText env (openLog env request).tree request.file with
  | error f =>
      have hnotes : writtenNotes env request = [] := by rw [writtenNotes, htext]
      refine ⟨[], by rw [hnotes]; rfl, nofun, .nothing ?_ ?_⟩
      · rintro d ⟨text, hother, -⟩
        cases htext.symm.trans hother
      · rw [select_of_readText_error htext]
        rfl
  | ok text =>
      have hnotes : writtenNotes env request =
          (request.events env.config text).filter
            LogFilter.default.passes := by
        rw [writtenNotes, htext, unfiltered]
      cases hdocument : request.document env.config text with
      | error e =>
          have hrun : request.run env.config text =
              .error e := by
            simp only [SelectRequest.run, hdocument, bind, Except.bind]
          refine ⟨[], ?_, nofun, .nothing ?_ (select_of_run_error hrun htext).1⟩
          · rw [hnotes, filter_isSelection_passes,
              SelectRequest.filter_events_of_document_error hdocument]
            rfl
          · rintro d ⟨other, hother, hd⟩
            obtain rfl := Except.ok.inj (htext.symm.trans hother)
            cases hdocument.symm.trans hd
      | ok d =>
          refine ⟨selectionSteps d.lines 0 request.ranges, ?_, fun s _ => s.facts_note, ?_⟩
          · rw [hnotes, filter_isSelection_passes, SelectRequest.filter_events_of_document hdocument]
          · exact tells_of_document ranged htext hdocument
              (hnotes ▸ beginsWithLoading_events hdocument)

/-- One run fails on the second of three ranges, and another one reports on two ranges, of which the
second lies in front of the first. -/
theorem select_tells_ranges_two_runs :
    let env : Environment := { tree := { entries := [([".edtext"], .directory),
      ([".edtext", "edtext.log"], .file "old\n".toUTF8)] }, input := "a\nb\nc\n".toUTF8 }
    let failing : SelectRequest := { ranges := ["2", "9", "1"], debug := true }
    let reporting : SelectRequest := { ranges := ["2,$", "1;+"], explain := true, debug := true }
    ((select env failing).tree.get? [".edtext", "edtext.log"] = some (.file ("old\n" ++
        "  INFO loaded document lines=3 ranges=[\"2\", \"9\", \"1\"]\n" ++
        " DEBUG selected lines expr=\"2\" cursor=0 next=2 count=1\n").toUTF8) ∧
      ∃ steps, steps.map SelectionStep.note = [.selectedLines "2" 0 ⟨2, 2⟩] ∧
        Tells env failing (writtenNotes env failing) steps) ∧
    ∃ steps, steps.map SelectionStep.note =
        [.selectedLines "2,$" 0 ⟨2, 3⟩, .selectedLines "1;+" 3 ⟨1, 2⟩] ∧
      Tells env reporting (writtenNotes env reporting) steps := by
  intro env failing reporting
  have hopened : (startLog env).log = some [".edtext", "edtext.log"] := by decide +kernel
  constructor
  · obtain ⟨-, hlog, steps, hsteps, -, htells⟩ :=
      select_tells_ranges env failing _ ⟨[], rfl, .inl rfl⟩ hopened rfl (by decide)
    have hnotes : writtenNotes env failing =
        [.loadedDocument 3 ["2", "9", "1"], .selectedLines "2" 0 ⟨2, 2⟩] := by
      decide +kernel
    rw [hnotes] at hlog hsteps
    exact ⟨hlog.trans (by decide +kernel), steps, hsteps.symm, htells⟩
  · obtain ⟨-, -, steps, hsteps, -, htells⟩ :=
      select_tells_ranges env reporting _ ⟨[], rfl, .inl rfl⟩ hopened rfl (by decide)
    have hnotes : (writtenNotes env reporting).filter LogEvent.isSelection =
        [.selectedLines "2,$" 0 ⟨2, 3⟩, .selectedLines "1;+" 3 ⟨1, 2⟩] := by
      decide +kernel
    exact ⟨steps, hsteps.symm.trans hnotes, htells⟩

end Program

end LineSelect
