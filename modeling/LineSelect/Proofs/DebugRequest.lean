import LineSelect.Proofs.DebugArgument
import LineSelect.Proofs.FollowedPaths
import LineSelect.Proofs.RunEffects

/-!
Asking for a log changes nothing else that a run shows. Two runs that differ in that alone print the
same and end with the same code; their messages differ at most by a warning in front, that the log
could not be made ready.
-/

namespace LineSelect

theorem LogChange.inside {home path : Path} {before after : Option FileEntry}
    (h : LogChange home path before after) :
    ownDirectory home <+: path ∨ path <+: home ∧ before = none := by
  cases h with
  | directory own => exact .inl (own ▸ List.prefix_refl (ownDirectory home))
  | home above => exact .inr ⟨above, rfl⟩
  | created _ log | extended _ _ log => exact .inl (log ▸ List.prefix_append _ _)

namespace Program

open LineSelect.CommandLine

/-- A selection reads the input, or a file whose path does not go through the program's own
directory; nor through a home directory that is missing or through what is missing above it, since
the log would bring that about. -/
def ReadsElsewhere (env : Environment) (request : SelectRequest) : Prop :=
  ∀ home, env.home = some home → ∀ name, request.file = some name →
    ∀ path ∈ Host.pathsOf env.directory name,
      ¬ ownDirectory home <+: path ∧ ¬ (path <+: home ∧ env.tree.get? path = none)

/-- The warnings that a log cannot be kept. -/
inductive LogWarning (env : Environment) : String → Prop where
  | unknownHome (unknown : env.home = none) :
      LogWarning env ("Warning: Logging disabled: " ++ Failure.unknownHome.message ++ "\n")
  | directory {home : Path} (known : env.home = some home) (cause : FileError) :
      LogWarning env ("Warning: Could not create log directory " ++
        env.tree.display (ownDirectory home) ++ ": " ++ cause.message ++ "\n")
  | file {home : Path} (known : env.home = some home) (cause : FileError) :
      LogWarning env ("Warning: Could not create log file in " ++
        env.tree.display (ownDirectory home) ++ ": failed to create log file: " ++
        cause.message ++ "\n")

section TwoRuns

variable {env : Environment} {request : SelectRequest}

theorem warning_startLog (env : Environment) :
    (startLog env).warning = "" ∨ LogWarning env (startLog env).warning := by
  unfold startLog
  split
  · next hhome => exact .inr (.unknownHome hhome)
  · next home hhome =>
    dsimp only
    split
    · next cause _ => exact .inr (.directory hhome cause)
    · split
      · next cause _ => exact .inr (.file hhome cause)
      · exact .inl rfl

theorem openLog_debug (env : Environment) (request : SelectRequest) :
    openLog env { request with debug := true } = startLog env := by
  rw [openLog, Bool.true_or, if_pos rfl]

theorem readText_openLog (h : ReadsElsewhere env request) (asked : SelectRequest) :
    readText env (openLog env asked).tree request.file = readText env env.tree request.file := by
  apply readText_congr
  intro name hname path hpath
  rcases onlyLogChanges_openLog env asked path with hsame | ⟨home, hhome, hchange⟩
  · exact hsame
  · obtain ⟨hown, habove⟩ := h home hhome name hname path hpath
    rcases hchange.inside with hinside | hmissing
    · exact absurd hinside hown
    · exact absurd hmissing habove

theorem conclude_debug (env : Environment) (request : SelectRequest) (config : Config)
    (start : LogStart) (reading : Except Failure String) :
    conclude env { request with debug := true } config start reading =
      conclude env request config start reading := by
  cases reading with
  | error f => rfl
  | ok text => rfl

theorem select_debug_agrees (h : ReadsElsewhere env request) :
    (select env { request with debug := true }).output = (select env request).output ∧
      (select env { request with debug := true }).code = (select env request).code ∧
      ∃ warning messages, (warning = "" ∨ LogWarning env warning) ∧
        (select env request).errors = env.configWarning ++ messages ∧
        (select env { request with debug := true }).errors =
          env.configWarning ++ warning ++ messages := by
  rw [select_eq_conclude env { request with debug := true }, select_eq_conclude env request,
    conclude_debug, readText_openLog h, readText_openLog h, openLog_debug]
  obtain ⟨hcode, houtput, messages, hdebugged, hplain⟩ :=
    conclude_agrees env request env.config (startLog env) (openLog env request)
      (readText env env.tree request.file)
  refine ⟨houtput, hcode, ?_⟩
  rw [hdebugged, hplain]
  -- If the configuration asks for a log, the plain run keeps one, too, and both give its warning.
  rcases openLog_cases env request with hopened | hclosed
  · refine ⟨"", (startLog env).warning ++ messages, .inl rfl, ?_, ?_⟩
    · rw [hopened, String.append_assoc]
    · rw [String.append_empty, String.append_assoc]
  · refine ⟨(startLog env).warning, messages, warning_startLog env, ?_, rfl⟩
    rw [hclosed, String.append_empty]

end TwoRuns

/-- A command line that selects also does so with the debug flag in front, and every command line
that asks for the same and a log besides prints the same and ends with the same code; its messages
are those of the other, with at most a warning in front, or behind the warning that there is no home
directory to find a configuration in. This holds for any files, configuration and filter, and also
where the log cannot be made. -/
theorem run_debug_agrees (env : Environment) (args : List String) (request : SelectRequest)
    (hparse : CommandLine.parse args = .ok (.select request))
    (hreads : ReadsElsewhere env request) :
    (request.debug = false →
      CommandLine.parse ("--debug" :: args) = .ok (.select { request with debug := true })) ∧
    ∀ debugged, CommandLine.parse debugged = .ok (.select { request with debug := true }) →
      (run env debugged).output = (run env args).output ∧
      (run env debugged).code = (run env args).code ∧
      ∃ warning messages, (warning = "" ∨ LogWarning env warning) ∧
        (run env args).errors = env.configWarning ++ messages ∧
        (run env debugged).errors = env.configWarning ++ warning ++ messages ∧
        (env.home ≠ none → (run env debugged).errors = warning ++ (run env args).errors) := by
  refine ⟨CommandLine.parse_debug_cons hparse, ?_⟩
  intro debugged hdebugged
  have hrun : run env args = select env request := by rw [run, hparse]
  have hrun' : run env debugged = select env { request with debug := true } := by
    rw [run, hdebugged]
  rw [hrun, hrun']
  obtain ⟨houtput, hcode, warning, messages, hwarning, hplain, hlogged⟩ :=
    select_debug_agrees hreads
  refine ⟨houtput, hcode, warning, messages, hwarning, hplain, hlogged, fun hknown => ?_⟩
  obtain ⟨home, hhome⟩ := Option.ne_none_iff_exists'.mp hknown
  rw [hlogged, hplain, Environment.configWarning_of_home hhome, String.empty_append,
    String.empty_append]

theorem run_debug_agrees_log_directory :
    let env : Environment := { tree := { entries := [([".edtext"], .directory),
      ([".edtext", "edtext.log"], .directory), (["in.txt"], .file "a\nb\n".toUTF8)] } }
    let plain := run env ["-f", "in.txt", "2"]
    let debugged := run env ["--debug", "-f", "in.txt", "2"]
    plain.output = "b\n" ∧ debugged.output = "b\n" ∧ debugged.code = plain.code ∧
      ∃ warning, LogWarning env warning ∧ debugged.errors = warning ++ plain.errors := by
  intro env plain debugged
  have hparse : CommandLine.parse ["-f", "in.txt", "2"] =
      .ok (.select { ranges := ["2"], file := some "in.txt" }) := by
    decide +kernel
  have hreads : ReadsElsewhere env { ranges := ["2"], file := some "in.txt" } := by
    intro home hhome name hname
    obtain rfl := Option.some.inj hhome
    obtain rfl := Option.some.inj hname
    decide +kernel
  obtain ⟨hfront, hagree⟩ := run_debug_agrees env _ _ hparse hreads
  obtain ⟨houtput, hcode, warning, -, hwarning, -, -, hadded⟩ := hagree _ (hfront rfl)
  have herrors : debugged.errors = warning ++ plain.errors := hadded (by decide)
  have hplain : plain.output = "b\n" := by decide +kernel
  have hshown : debugged.errors ≠ plain.errors := by decide +kernel
  refine ⟨hplain, houtput.trans hplain, hcode, warning, ?_, herrors⟩
  rcases hwarning with rfl | hwarning
  · rw [String.empty_append] at herrors
    exact absurd herrors hshown
  · exact hwarning

/-- Where the agreement ends. The path of a file goes through a home directory that is missing, and
only the run with a log makes it. The flag is set twice, which is refused. And without a home
directory the warning on the log comes behind another one. -/
theorem run_debug_differs :
    let missing : Environment :=
      { tree := { entries := [(["in.txt"], .file "a\n".toUTF8)] }, home := some ["u"] }
    let present : Environment := { tree := {}, input := "a\n".toUTF8 }
    let unknown : Environment := { tree := {}, home := none, input := "a\n".toUTF8 }
    ((∀ path ∈ Host.pathsOf missing.directory "/u/../in.txt", ¬ ownDirectory ["u"] <+: path) ∧
        (run missing ["-f", "/u/../in.txt", "1"]).code = 1 ∧
        (run missing ["--debug", "-f", "/u/../in.txt", "1"]).code = 0 ∧
        (run missing ["--debug", "-f", "/u/../in.txt", "1"]).output = "a\n") ∧
      ((run present ["--debug", "1"]).code = 0 ∧ (run present ["--debug", "1"]).output = "a\n" ∧
        (run present ["--debug", "--debug", "1"]).code = 2 ∧
        (run present ["--debug", "--debug", "1"]).output = "") ∧
      ∀ warning, (run unknown ["--debug", "1"]).errors ≠ warning ++ (run unknown ["1"]).errors := by
  intro missing present unknown
  refine ⟨by decide +kernel, by decide +kernel, ?_⟩
  intro warning herrors
  have hsuffix :
      (run unknown ["1"]).errors.toList <:+ (run unknown ["--debug", "1"]).errors.toList :=
    ⟨warning.toList, by rw [herrors, String.toList_append]⟩
  revert hsuffix
  decide +kernel

end Program

end LineSelect
