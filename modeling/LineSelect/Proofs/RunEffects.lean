import LineSelect.Proofs.ConfigLoading

/-!
What a run does to files. A run that selects changes nothing but the log, and only when a log is
kept; a run on the configuration writes nothing but the configuration file. A run that fails prints
nothing.
-/

namespace LineSelect

/-- What keeping a log may do to the entry at a path: make the directory for it, with a home
directory that is missing and what is missing above it, make the log file, or add to its end. -/
inductive LogChange (home path : Path) : Option FileEntry → Option FileEntry → Prop where
  | directory (own : path = ownDirectory home) : LogChange home path none (some .directory)
  | home (above : path <+: home) : LogChange home path none (some .directory)
  | created (content : ByteArray) (log : path = logPath home) :
      LogChange home path none (some (.file content))
  | extended (old added : ByteArray) (log : path = logPath home) :
      LogChange home path (some (.file old)) (some (.file (old ++ added)))

/-- Two trees differ by what keeping a log may do. -/
def OnlyLogChanges (env : Environment) (before after : FileTree) : Prop :=
  ∀ path, after.get? path = before.get? path ∨
    ∃ home, env.home = some home ∧ LogChange home path (before.get? path) (after.get? path)

section LogChanges

variable {env : Environment} {home path : Path} {first second third : Option FileEntry}
  {before between after : FileTree}

theorem LogChange.trans (h : LogChange home path first second)
    (h' : LogChange home path second third) : LogChange home path first third := by
  cases h with
  | directory | home => cases h'
  | created content log =>
      cases h' with
      | extended _ added _ => exact .created (content ++ added) log
  | extended old added log =>
      cases h' with
      | extended _ more _ =>
          rw [ByteArray.append_assoc]
          exact .extended old (added ++ more) log

theorem OnlyLogChanges.refl (env : Environment) (tree : FileTree) :
    OnlyLogChanges env tree tree :=
  fun _ => .inl rfl

theorem OnlyLogChanges.trans (h : OnlyLogChanges env before between)
    (h' : OnlyLogChanges env between after) : OnlyLogChanges env before after := by
  intro path
  rcases h path with hsame | ⟨home, hhome, hchange⟩
  · rw [← hsame]
    exact h' path
  · rcases h' path with hsame' | ⟨home', hhome', hchange'⟩
    · rw [hsame']
      exact .inr ⟨home, hhome, hchange⟩
    · obtain rfl := Option.some.inj (hhome.symm.trans hhome')
      exact .inr ⟨home, hhome, hchange.trans hchange'⟩

theorem LogChange.ne_configPath (h : LogChange home path first second) :
    path ≠ configPath home := by
  have hlength : (configPath home).length = home.length + 2 := by
    simp [configPath, ownDirectory]
  rintro rfl
  cases h with
  | directory own =>
      have := congrArg List.length own
      simp [ownDirectory, hlength] at this
  | home above =>
      have := above.length_le
      omega
  | created _ log | extended _ _ log =>
      simp [configPath, logPath] at log

theorem OnlyLogChanges.get?_configPath (h : OnlyLogChanges env before after)
    (known : env.home = some home) :
    after.get? (configPath home) = before.get? (configPath home) := by
  rcases h (configPath home) with hsame | ⟨home', hhome, hchange⟩
  · exact hsame
  · obtain rfl := Option.some.inj (known.symm.trans hhome)
    exact absurd rfl hchange.ne_configPath

end LogChanges

/-! ### Selecting -/

namespace Program

open LineSelect.CommandLine

/-- A run keeps a log: there is a home for it, and the command line asks for it or a configuration
that can be loaded. -/
def KeepsLog (env : Environment) (request : SelectRequest) : Prop :=
  ∃ home, env.home = some home ∧ (request.debug = true ∨
    ∃ config, Config.load env.tree (configPath home) = .ok config ∧ config.logging.debug = true)

section Selecting

variable {env : Environment} {request : SelectRequest} {home : Path} {tree changed : FileTree}

theorem onlyLogChanges_makeDirectories (known : env.home = some home)
    (h : tree.makeDirectories (ownDirectory home) = .ok changed) :
    OnlyLogChanges env tree changed := by
  intro path
  rcases FileTree.get?_of_makeDirectories h path with hsame | ⟨hway, hnone, hmade⟩
  · exact .inl hsame
  · refine .inr ⟨home, known, ?_⟩
    rw [hnone, hmade]
    rcases List.prefix_concat_iff.mp hway with hown | habove
    · exact .directory hown
    · exact .home habove

theorem onlyLogChanges_append {content : ByteArray} (known : env.home = some home)
    (h : tree.append (logPath home) content = .ok changed) : OnlyLogChanges env tree changed := by
  intro path
  rcases FileTree.get?_of_append h path with
    hsame | ⟨rfl, ⟨hnone, hmade⟩ | ⟨old, hold, hlonger⟩⟩
  · exact .inl hsame
  · refine .inr ⟨home, known, ?_⟩
    rw [hnone, hmade]
    exact .created content rfl
  · refine .inr ⟨home, known, ?_⟩
    rw [hold, hlonger]
    exact .extended old content rfl

theorem onlyLogChanges_startLog (env : Environment) :
    OnlyLogChanges env env.tree (startLog env).tree := by
  unfold startLog
  split
  · exact .refl env env.tree
  · next home hhome =>
    dsimp only
    split
    · exact .refl env env.tree
    · next prepared hprepared =>
      have hmade := onlyLogChanges_makeDirectories hhome hprepared
      split
      · exact hmade
      · next opened hopened => exact hmade.trans (onlyLogChanges_append hhome hopened)

theorem home_of_log_startLog {path : Path} (h : (startLog env).log = some path) :
    env.home.map logPath = some path := by
  unfold startLog at h
  split at h
  · cases h
  · next home hhome =>
    dsimp only at h
    split at h
    · cases h
    · split at h
      · cases h
      · rw [hhome]
        exact h

theorem openLog_cases (env : Environment) (request : SelectRequest) :
    openLog env request = startLog env ∨ openLog env request = { tree := env.tree } := by
  unfold openLog
  split
  · exact .inl rfl
  · exact .inr rfl

theorem onlyLogChanges_openLog (env : Environment) (request : SelectRequest) :
    OnlyLogChanges env env.tree (openLog env request).tree := by
  rcases openLog_cases env request with hopened | hclosed
  · rw [hopened]
    exact onlyLogChanges_startLog env
  · rw [hclosed]
    exact .refl env env.tree

theorem home_of_log_openLog {path : Path} (h : (openLog env request).log = some path) :
    env.home.map logPath = some path := by
  rcases openLog_cases env request with hopened | hclosed
  · rw [hopened] at h
    exact home_of_log_startLog h
  · rw [hclosed] at h
    cases h

theorem onlyLogChanges_writeLog {start : LogStart}
    (hlog : ∀ path, start.log = some path → env.home.map logPath = some path)
    (events : List LogEvent) : OnlyLogChanges env start.tree (writeLog env start events) := by
  unfold writeLog
  split
  · exact .refl env start.tree
  · next path hpath =>
    obtain ⟨home, hhome, rfl⟩ := Option.map_eq_some_iff.mp (hlog path hpath)
    dsimp only
    split
    · next tree htree => exact onlyLogChanges_append hhome htree
    · exact .refl env start.tree

theorem onlyLogChanges_select (env : Environment) (request : SelectRequest) :
    OnlyLogChanges env env.tree (select env request).tree := by
  rw [select_eq_conclude]
  have hopened := onlyLogChanges_openLog env request
  rcases tree_conclude env request env.config (openLog env request)
    (readText env (openLog env request).tree request.file) with hsame | ⟨events, hwritten⟩
  · rw [hsame]
    exact hopened
  · rw [hwritten]
    exact hopened.trans (onlyLogChanges_writeLog (fun _ => home_of_log_openLog) events)

theorem openLog_of_keepsLog (h : KeepsLog env request) : openLog env request = startLog env := by
  obtain ⟨home, hhome, hasked⟩ := h
  rw [openLog, if_pos]
  rcases hasked with hdebug | ⟨config, hload, hdebug⟩
  · rw [hdebug, Bool.true_or]
  · rw [Environment.config_of_home hhome, Config.loadOrDefault, hload]
    simp [hdebug]

theorem openLog_of_not_keepsLog (h : ¬ KeepsLog env request) :
    (openLog env request).tree = env.tree ∧ (openLog env request).log = none := by
  unfold openLog
  split
  · next hlog =>
    cases hhome : env.home with
    | none => simp [startLog, hhome]
    | some home =>
        rw [Bool.or_eq_true, Environment.config_of_home hhome] at hlog
        rcases hlog with hdebug | hdebug
        · exact absurd ⟨home, hhome, .inl hdebug⟩ h
        · unfold Config.loadOrDefault at hdebug
          split at hdebug
          · next config hload => exact absurd ⟨home, hhome, .inr ⟨config, hload, hdebug⟩⟩ h
          · cases hdebug
  · exact ⟨rfl, rfl⟩

theorem tree_select_of_not_keepsLog (h : ¬ KeepsLog env request) :
    (select env request).tree = env.tree := by
  obtain ⟨htree, hlog⟩ := openLog_of_not_keepsLog h
  rw [select_eq_conclude]
  rcases tree_conclude env request env.config (openLog env request)
    (readText env (openLog env request).tree request.file) with hsame | ⟨events, hwritten⟩
  · exact hsame.trans htree
  · rw [hwritten, writeLog, hlog]
    exact htree

end Selecting

/-! ### Configuring -/

section Configuring

variable {tree changed : FileTree} {path other : Path} {content : ByteArray}

theorem get?_of_saveDefault {result : Except ConfigError Unit}
    (h : Config.saveDefault tree path = (result, changed))
    (hfile : tree.get? other = some (.file content)) :
    changed.get? other = some (.file content) ∨ other = path ∧ result = .ok () := by
  unfold Config.saveDefault at h
  split at h
  · obtain ⟨-, rfl⟩ := Prod.mk.inj h
    exact .inl hfile
  · next prepared hprepared =>
    have hkept : prepared.get? other = some (.file content) := by
      rcases FileTree.get?_of_makeDirectories hprepared other with hsame | ⟨-, hnone, -⟩
      · rw [hsame, hfile]
      · rw [hfile] at hnone
        cases hnone
    split at h
    · obtain ⟨-, rfl⟩ := Prod.mk.inj h
      exact .inl hkept
    · next written hwritten =>
      obtain ⟨rfl, rfl⟩ := Prod.mk.inj h
      have hother := FileTree.get?_of_write hwritten other
      split at hother
      · next heq => exact .inr ⟨heq, rfl⟩
      · exact .inl (hother.trans hkept)

theorem get?_of_loadOrCreate {result : Except ConfigError Config}
    (h : Config.loadOrCreate tree path = (result, changed))
    (hfile : tree.get? other = some (.file content)) :
    changed.get? other = some (.file content) ∨ other = path ∧ ∃ config, result = .ok config := by
  unfold Config.loadOrCreate at h
  split at h
  · obtain ⟨-, rfl⟩ := Prod.mk.inj h
    exact .inl hfile
  · split at h
    · next e saved hsave =>
      obtain ⟨-, rfl⟩ := Prod.mk.inj h
      rcases get?_of_saveDefault hsave hfile with hkept | ⟨-, hok⟩
      · exact .inl hkept
      · cases hok
    · next saved hsave =>
      obtain ⟨rfl, rfl⟩ := Prod.mk.inj h
      rcases get?_of_saveDefault hsave hfile with hkept | ⟨hpath, -⟩
      · exact .inl hkept
      · exact .inr ⟨hpath, {}, rfl⟩

theorem get?_of_configure (env : Environment) (wantsShow wantsReset : Bool)
    (hfile : env.tree.get? other = some (.file content)) :
    (configure env wantsShow wantsReset).tree.get? other = some (.file content) ∨
      env.home.map configPath = some other ∧ (configure env wantsShow wantsReset).code = 0 := by
  cases hhome : env.home with
  | none =>
      left
      simp only [configure, hhome]
      exact hfile
  | some home =>
    cases wantsReset with
    | true =>
        simp only [configure, hhome, if_true]
        split
        · next e changed hsave =>
          rcases get?_of_saveDefault hsave hfile with hkept | ⟨-, hok⟩
          · exact .inl hkept
          · cases hok
        · next changed hsave =>
          rcases get?_of_saveDefault hsave hfile with hkept | ⟨hpath, -⟩
          · exact .inl hkept
          · exact .inr ⟨congrArg some hpath.symm, rfl⟩
    | false =>
        simp only [configure, hhome, Bool.false_eq_true, if_false]
        split
        · next e changed hload =>
          rcases get?_of_loadOrCreate hload hfile with hkept | ⟨-, config, hok⟩
          · exact .inl hkept
          · cases hok
        · next config changed hload =>
          rcases get?_of_loadOrCreate hload hfile with hkept | ⟨hpath, -⟩
          · left
            split <;> exact hkept
          · right
            refine ⟨congrArg some hpath.symm, ?_⟩
            split <;> rfl

end Configuring

/-! ### Whole runs -/

/-- What a run does to files, by what its command line asks for. A run that selects only changes the
log and makes the directories that are missing on the way to it, and it changes nothing at all if it
keeps none; the configuration file in particular stays as it is. A run on the configuration keeps
the files that are there, but for the configuration file, which it keeps if it fails. A command line
that is refused changes nothing. Where a run selects or is refused, it prints nothing if it
fails. -/
theorem run_changes_only_log (env : Environment) (args : List String) :
    (∀ request, CommandLine.parse args = .ok (.select request) →
      OnlyLogChanges env env.tree (run env args).tree ∧
      (¬ KeepsLog env request → (run env args).tree = env.tree) ∧
      (∀ home, env.home = some home →
        (run env args).tree.get? (configPath home) = env.tree.get? (configPath home)) ∧
      ((run env args).code ≠ 0 → (run env args).output = "")) ∧
    (∀ wantsShow wantsReset, CommandLine.parse args = .ok (.config wantsShow wantsReset) →
      ∀ path content, env.tree.get? path = some (.file content) →
        env.home.map configPath ≠ some path ∨ (run env args).code ≠ 0 →
        (run env args).tree.get? path = some (.file content)) ∧
    ∀ refusal, CommandLine.parse args = .error refusal →
      (run env args).tree = env.tree ∧ ((run env args).code ≠ 0 → (run env args).output = "") := by
  refine ⟨?_, ?_, ?_⟩
  · intro request hparse
    have hrun : run env args = select env request := by rw [run, hparse]
    rw [hrun]
    have hchanges := onlyLogChanges_select env request
    refine ⟨hchanges, tree_select_of_not_keepsLog, fun home => hchanges.get?_configPath,
      fun hcode => ?_⟩
    rw [select_eq_conclude] at hcode ⊢
    exact output_conclude hcode
  · intro wantsShow wantsReset hparse path content hfile hkept
    have hrun : run env args = configure env wantsShow wantsReset := by rw [run, hparse]
    rw [hrun] at hkept ⊢
    rcases get?_of_configure env wantsShow wantsReset hfile with hsame | ⟨hpath, hcode⟩
    · exact hsame
    · rcases hkept with hother | hfailed
      · exact absurd hpath hother
      · exact absurd hcode hfailed
  · intro refusal hparse
    rw [run, hparse]
    cases refusal with
    | usage | repeatedSubstitution => exact ⟨rfl, fun _ => rfl⟩
    | help | version => exact ⟨rfl, fun hcode => absurd rfl hcode⟩

theorem run_changes_only_log_second_range :
    let tree : FileTree := { entries := [([".edtext"], .directory),
      ([".edtext", "config.toml"], .file "[output".toUTF8),
      ([".edtext", "edtext.log"], .file "old".toUTF8)] }
    let env : Environment := { tree, input := "a\n".toUTF8 }
    let outcome := run env ["--debug", "1", "9"]
    outcome.code = 1 ∧ outcome.output = "" ∧
      outcome.tree.get? [".edtext", "config.toml"] = some (.file "[output".toUTF8) ∧
      OnlyLogChanges env tree outcome.tree := by
  intro tree env outcome
  have hparse : CommandLine.parse ["--debug", "1", "9"] =
      .ok (.select { ranges := ["1", "9"], debug := true }) := by
    decide +kernel
  have hcode : outcome.code = 1 := by decide +kernel
  obtain ⟨hchanges, -, hconfig, houtput⟩ := (run_changes_only_log env _).1 _ hparse
  exact ⟨hcode, houtput (hcode.trans_ne Nat.one_ne_zero), hconfig [] rfl, hchanges⟩

/-- The log is not all that a run may bring about: without a home directory, it makes that one and
the one above it. -/
theorem run_makes_missing_home :
    let env : Environment :=
      { tree := {}, home := some ["home", "u"], input := "a\n".toUTF8 }
    let outcome := run env ["--debug", "1"]
    CommandLine.parse ["--debug", "1"] = .ok (.select { ranges := ["1"], debug := true }) ∧
      outcome.code = 0 ∧
      ∀ path ∈ [["home"], ["home", "u"]], ¬ ownDirectory ["home", "u"] <+: path ∧
        env.tree.get? path = none ∧ outcome.tree.get? path = some .directory := by
  intro env outcome
  exact ⟨by decide +kernel, by decide +kernel, by decide +kernel⟩

end Program

end LineSelect
