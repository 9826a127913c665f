import LineSelect.Program

/-!
Runs that select, taken apart: the configuration they start from, the log that is made ready, what
is read, and what they end with. Only the last two decide on the exit code and on what is printed.
-/

namespace LineSelect.Environment

variable {env : Environment} {home : Path}

theorem config_of_home (known : env.home = some home) :
    env.config = Config.loadOrDefault env.tree (configPath home) := by
  rw [config, known]

theorem configWarning_of_home (known : env.home = some home) : env.configWarning = "" := by
  rw [configWarning, known]

end LineSelect.Environment

namespace LineSelect.Program

open LineSelect.CommandLine

/-- The log of a run that selects, if notes are kept. -/
def openLog (env : Environment) (request : SelectRequest) : LogStart :=
  if request.debug || env.config.logging.debug then startLog env else { tree := env.tree }

/-- How a run that selects ends, given the log that was made ready and what was read. -/
def conclude (env : Environment) (request : SelectRequest) (config : Config) (start : LogStart) :
    Except Failure String → Outcome
  | .error f => failed (env.configWarning ++ start.warning) f start.tree
  | .ok text =>
    let tree := writeLog env start (request.events config text)
    match request.run config text with
    | .error cause => failed (env.configWarning ++ start.warning) (.selection cause) tree
    | .ok output => { code := 0, output, errors := env.configWarning ++ start.warning, tree }

/-- A run that selects under a configuration, wherever that comes from. -/
def selectWith (config : Config) (env : Environment) (request : SelectRequest) : Outcome :=
  let start : LogStart :=
    if request.debug || config.logging.debug then startLog env else { tree := env.tree }
  conclude env request config start (readText env start.tree request.file)

theorem select_eq_selectWith (env : Environment) (request : SelectRequest) :
    select env request = selectWith env.config env request :=
  rfl

theorem select_eq_conclude (env : Environment) (request : SelectRequest) :
    select env request =
      conclude env request env.config (openLog env request)
        (readText env (openLog env request).tree request.file) :=
  rfl

section Conclude

variable {env : Environment} {request : SelectRequest} {config : Config} {start : LogStart}
  {reading : Except Failure String}

theorem output_conclude (h : (conclude env request config start reading).code ≠ 0) :
    (conclude env request config start reading).output = "" := by
  cases reading with
  | error f => rfl
  | ok text =>
      simp only [conclude] at h ⊢
      split
      · rfl
      · next hrun =>
        rw [hrun] at h
        exact absurd rfl h

theorem tree_conclude_ok (env : Environment) (request : SelectRequest) (config : Config)
    (start : LogStart) (text : String) :
    (conclude env request config start (.ok text)).tree =
      writeLog env start (request.events config text) := by
  simp only [conclude]
  split <;> rfl

theorem tree_conclude (env : Environment) (request : SelectRequest) (config : Config)
    (start : LogStart) (reading : Except Failure String) :
    (conclude env request config start reading).tree = start.tree ∨
      ∃ events, (conclude env request config start reading).tree = writeLog env start events := by
  cases reading with
  | error f => exact .inl rfl
  | ok text => exact .inr ⟨_, tree_conclude_ok env request config start text⟩

theorem conclude_agrees (env : Environment) (request : SelectRequest) (config : Config)
    (start other : LogStart) (reading : Except Failure String) :
    (conclude env request config start reading).code =
        (conclude env request config other reading).code ∧
      (conclude env request config start reading).output =
        (conclude env request config other reading).output ∧
      ∃ messages,
        (conclude env request config start reading).errors =
            env.configWarning ++ start.warning ++ messages ∧
          (conclude env request config other reading).errors =
            env.configWarning ++ other.warning ++ messages := by
  cases reading with
  | error f => exact ⟨rfl, rfl, f.report, rfl, rfl⟩
  | ok text =>
      simp only [conclude]
      split
      · next cause _ => exact ⟨rfl, rfl, (Failure.selection cause).report, rfl, rfl⟩
      · exact ⟨rfl, rfl, "", (String.append_empty).symm, (String.append_empty).symm⟩

end Conclude

end LineSelect.Program
