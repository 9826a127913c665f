import LineSelect.CommandLine

/-!
The debug flag on a command line. A flag that is set before everything else changes nothing in how
the arguments after it are read, as long as they do not set it again; so a command line with the
flag in front asks for the same selection, and for a log besides.
-/

namespace LineSelect.CommandLine

/-- The state in which the debug flag was set before everything else. -/
def State.debugged (s : State) : State :=
  { s with flags := s.flags ++ [.debug] }

/-- Whether a step does the same after the debug flag was set, unless it sets it itself. -/
def Carries (step : State → Result State) : Prop :=
  ∀ s t, step s = .ok t → .debug ∉ t.flags → .debug ∉ s.flags ∧ step s.debugged = .ok t.debugged

namespace Carries

variable {f g : State → Result State}

theorem bind (hf : Carries f) (hg : Carries g) : Carries fun s => f s >>= g := by
  intro s t h hfree
  cases hs : f s with
  | error e =>
      simp only [hs] at h
      cases h
  | ok between =>
      simp only [hs] at h
      obtain ⟨hbetween, hstep⟩ := hg between t h hfree
      obtain ⟨hstart, hfirst⟩ := hf s between hs hbetween
      refine ⟨hstart, ?_⟩
      simp only [hfirst]
      exact hstep

theorem of_update {update : State → State} (hflags : ∀ s, (update s).flags = s.flags)
    (hdebugged : ∀ s, update s.debugged = (update s).debugged) :
    Carries fun s => .ok (update s) := by
  intro s t h hfree
  obtain rfl := Except.ok.inj h
  rw [hflags] at hfree
  exact ⟨hfree, congrArg Except.ok (hdebugged s)⟩

end Carries

namespace State

theorem carries_store (option : ValueOption) (values : List String) :
    Carries fun s => s.store option values := by
  intro s t h hfree
  simp only [store] at h ⊢
  split at h
  · cases h
  · next hsome =>
    split at h
    · cases h
    · next harity =>
      cases option with
      | file =>
          simp only at h
          split at h
          · cases h
          · next hfile =>
            obtain rfl := Except.ok.inj h
            refine ⟨hfree, ?_⟩
            rw [if_neg hsome, if_neg harity]
            exact if_neg hfile
      | substitute =>
          obtain rfl := Except.ok.inj h
          refine ⟨hfree, ?_⟩
          rw [if_neg hsome, if_neg harity]
          rfl

theorem carries_settle : Carries settle := by
  intro s t h hfree
  unfold settle at h ⊢
  split at h
  · next hpending =>
    obtain rfl := Except.ok.inj h
    refine ⟨hfree, ?_⟩
    simp only [debugged, hpending]
  · next option values hpending =>
    obtain ⟨hstart, hstore⟩ := carries_store option values { s with pending := none } t h hfree
    refine ⟨hstart, ?_⟩
    simp only [debugged, hpending] at hstore ⊢
    exact hstore

theorem mem_debugged_flags {s : State} {flag : Flag} :
    flag ∈ s.debugged.flags ↔ flag ∈ s.flags ∨ flag = .debug := by
  simp [debugged]

theorem carries_setFlag (command : Command) (flag : Flag) :
    Carries fun s => s.setFlag command flag := by
  apply Carries.bind carries_settle
  intro s t h hfree
  cases flag with
  | help | version => cases h
  | global | number | explain | debug =>
      simp only at h ⊢
      split at h
      · cases h
      · next hnew =>
        obtain rfl := Except.ok.inj h
        obtain ⟨hother, hstart⟩ := not_or.mp (mt List.mem_cons.mpr hfree)
        refine ⟨hstart, if_neg ?_⟩
        rw [mem_debugged_flags]
        exact not_or.mpr ⟨hnew, Ne.symm hother⟩

theorem carries_await (option : ValueOption) : Carries fun s => s.await option := by
  apply Carries.bind carries_settle
  apply Carries.of_update
  · exact fun _ => rfl
  · exact fun _ => rfl

theorem carries_attach (option : ValueOption) (value : String) :
    Carries fun s => s.attach option value := by
  apply Carries.bind carries_settle
  intro s t h hfree
  exact carries_store option [value] { s with expecting := .anything } t h hfree

theorem carries_addRange (range : String) : Carries fun s => s.addRange range := by
  apply Carries.bind carries_settle
  apply Carries.of_update
  · exact fun _ => rfl
  · exact fun _ => rfl

theorem carries_addValue (value : String) : Carries fun s => s.addValue value := by
  intro s t h hfree
  simp only [addValue] at h ⊢
  split at h
  · next hpending =>
    have hpending' : s.debugged.pending = none := hpending
    rw [hpending']
    exact carries_addRange value s t h hfree
  · next option values hpending =>
    have hpending' : s.debugged.pending = some (option, values) := hpending
    rw [hpending']
    obtain rfl := Except.ok.inj h
    exact ⟨hfree, rfl⟩

theorem addShorts_flag {c : Char} {flag : Flag} (h : Switch.ofShort? c = some (.flag flag))
    (s : State) (rest : List Char) :
    s.addShorts (c :: rest) = s.setFlag .main flag >>= fun t => t.addShorts rest := by
  simp only [addShorts, h]
  cases s.setFlag .main flag <;> rfl

theorem carries_addShorts (shorts : List Char) : Carries fun s => s.addShorts shorts := by
  induction shorts with
  | nil =>
      apply Carries.of_update
      · exact fun _ => rfl
      · exact fun _ => rfl
  | cons c rest ih =>
      intro s t h hfree
      rcases hswitch : Switch.ofShort? c with _ | flag | option
      · simp only [addShorts, hswitch] at h
        cases h
      · simp only [addShorts_flag hswitch] at h ⊢
        exact Carries.bind (carries_setFlag .main flag) ih s t h hfree
      · simp only [addShorts, hswitch] at h ⊢
        split at h
        · exact carries_await option s t h hfree
        · next value => exact carries_attach option (String.ofList value) s t h hfree
        · exact carries_attach option (String.ofList rest) s t h hfree

theorem carries_addLong (name : String) (value : Option String) :
    Carries fun s => s.addLong name value := by
  intro s t h hfree
  simp only [addLong] at h ⊢
  split at h
  · cases h
  · cases h
  · next flag _ => exact carries_setFlag .main flag s t h hfree
  · next option value _ => exact carries_attach option value s t h hfree
  · next option _ => exact carries_await option s t h hfree

theorem carries_addArgument (arg : String) : Carries fun s => s.addArgument arg := by
  intro s t h hfree
  simp only [addArgument] at h ⊢
  split at h
  · next text _ => exact carries_addLong _ _ s t h hfree
  · next c text _ _ => exact carries_addShorts (c :: text) s t h hfree
  · have hexpecting : s.debugged.expecting = s.expecting := rfl
    rw [hexpecting]
    split at h
    · next hvalue =>
      rw [if_pos hvalue]
      exact carries_addValue arg s t h hfree
    · next hvalue =>
      rw [if_neg hvalue]
      exact carries_addRange arg s t h hfree

end State

theorem readRanges_cons (s : State) (arg : String) (rest : List String) :
    readRanges s (arg :: rest) = s.addRange arg >>= fun t => readRanges t rest := by
  rw [readRanges]
  cases s.addRange arg <;> rfl

theorem carries_readRanges (args : List String) : Carries fun s => readRanges s args := by
  induction args with
  | nil =>
      apply Carries.of_update
      · exact fun _ => rfl
      · exact fun _ => rfl
  | cons arg rest ih =>
      simp only [readRanges_cons]
      exact Carries.bind (State.carries_addRange arg) ih

/-! ### Requests -/

/-- The substitution that the values of its option ask for; without values there is none. -/
inductive AsksSubstitution (isGlobal : Bool) :
    Option (List String) → Option SubstitutionRequest → Prop where
  | none : AsksSubstitution isGlobal none none
  | pair (pattern replacement : String) :
      AsksSubstitution isGlobal (some [pattern, replacement])
        (some ⟨pattern, replacement, isGlobal⟩)

/-- The selection that a state asks for when all its options have been checked. -/
structure State.Asks (s : State) (request : SelectRequest) : Prop where
  substitutes : .global ∈ s.flags → s.substitute ≠ none
  ranges : request.ranges = s.ranges
  file : request.file = s.file
  substitution : AsksSubstitution (.global ∈ s.flags) s.substitute request.substitution
  number : request.number = decide (.number ∈ s.flags)
  explain : request.explain = decide (.explain ∈ s.flags)
  debug : request.debug = decide (.debug ∈ s.flags)

section Requests

variable {s : State} {args : List String} {request : SelectRequest}

theorem finish_eq_ok_iff : s.finish none = .ok (.select request) ↔
    ∃ t, s.settle = .ok t ∧ t.Asks request := by
  cases hsettle : s.settle with
  | error e => simp [State.finish, hsettle, bind, Except.bind]
  | ok t =>
      simp only [State.finish, hsettle, bind, Except.bind, Except.ok.injEq, exists_eq_left']
      constructor
      · intro h
        split at h
        · cases h
        · next hguard =>
          have hsubstitutes : .global ∈ t.flags → t.substitute ≠ none := by
            intro hmem
            simpa [hmem] using hguard
          split at h
          · next hnone =>
            cases h
            exact ⟨hsubstitutes, rfl, rfl, hnone ▸ .none, rfl, rfl, rfl⟩
          · next pattern replacement hpair =>
            cases h
            exact ⟨hsubstitutes, rfl, rfl, hpair ▸ .pair pattern replacement, rfl, rfl, rfl⟩
          · cases h
      · rintro ⟨hsubstitutes, hranges, hfile, hsubstitution, hnumber, hexplain, hdebug⟩
        have hguard : ¬ (decide (.global ∈ t.flags) && t.substitute.isNone) = true := by
          simpa using hsubstitutes
        rw [if_neg hguard]
        obtain ⟨ranges, file, substitution, number, explain, debug⟩ := request
        simp only at hranges hfile hsubstitution hnumber hexplain hdebug
        subst hranges hfile hnumber hexplain hdebug
        generalize t.substitute = values at hsubstitution
        rcases hsubstitution with _ | ⟨pattern, replacement⟩
        · rfl
        · rfl

theorem finish_debugged (h : s.finish none = .ok (.select request))
    (hdebug : request.debug = false) :
    .debug ∉ s.flags ∧ s.debugged.finish none = .ok (.select { request with debug := true }) := by
  obtain ⟨t, hsettle, asks⟩ := finish_eq_ok_iff.mp h
  have hfree : .debug ∉ t.flags := of_decide_eq_false (asks.debug.symm.trans hdebug)
  obtain ⟨hstart, hdebugged⟩ := State.carries_settle s t hsettle hfree
  refine ⟨hstart, finish_eq_ok_iff.mpr ⟨t.debugged, hdebugged, ?_⟩⟩
  have hflags (flag : Flag) (hne : flag ≠ .debug) :
      flag ∈ t.debugged.flags ↔ flag ∈ t.flags := by
    rw [State.mem_debugged_flags, or_iff_left hne]
  have hglobal := hflags .global (by decide)
  exact {
    substitutes := fun hmem => asks.substitutes (hglobal.mp hmem)
    ranges := asks.ranges
    file := asks.file
    substitution := by
      rw [decide_eq_decide.mpr hglobal]
      exact asks.substitution
    number := asks.number.trans (decide_eq_decide.mpr (hflags .number (by decide)).symm)
    explain := asks.explain.trans (decide_eq_decide.mpr (hflags .explain (by decide)).symm)
    debug := (decide_eq_true (State.mem_debugged_flags.mpr (.inr rfl))).symm }

theorem readHelp_ne_ok (args : List String) (r : Request) : readHelp args ≠ .ok r := by
  intro h
  unfold readHelp at h
  split at h <;> cases h

theorem finish_some_ne_select (s : State) (config : ConfigState) (request : SelectRequest) :
    s.finish (some config) ≠ .ok (.select request) := by
  intro h
  cases hsettle : s.settle with
  | error e => simp [State.finish, hsettle, bind, Except.bind] at h
  | ok t =>
      simp only [State.finish, hsettle, bind, Except.bind] at h
      split at h <;> cases h

theorem readArguments_debugged (h : readArguments s args = .ok (.select request))
    (hdebug : request.debug = false) :
    .debug ∉ s.flags ∧
      readArguments s.debugged args = .ok (.select { request with debug := true }) := by
  -- That the flag was not set is known at the end only, and goes back from there.
  induction args generalizing s with
  | nil => exact finish_debugged h hdebug
  | cons arg rest ih =>
      have hexpecting : s.debugged.expecting = s.expecting := rfl
      rw [readArguments] at h ⊢
      rw [hexpecting]
      split at h
      · exact absurd h (readHelp_ne_ok _ _)
      · next hhelp =>
        rw [if_neg hhelp]
        split at h
        · split at h
          · cases h
          · exact absurd h (finish_some_ne_select _ _ _)
        · next hconfig =>
          rw [if_neg hconfig]
          split at h
          · next hend =>
            rw [if_pos hend]
            split at h
            · cases h
            · next t hranges =>
              obtain ⟨hfree, hfinish⟩ := finish_debugged h hdebug
              obtain ⟨hstart, hread⟩ := carries_readRanges rest s t hranges hfree
              simp only [hread]
              exact ⟨hstart, hfinish⟩
          · next hend =>
            rw [if_neg hend]
            split at h
            · cases h
            · next t hargument =>
              obtain ⟨hfree, hrest⟩ := ih h
              obtain ⟨hstart, hread⟩ := State.carries_addArgument arg s t hargument hfree
              simp only [hread]
              exact ⟨hstart, hrest⟩

theorem parse_debug_cons (h : parse args = .ok (.select request)) (hdebug : request.debug = false) :
    parse ("--debug" :: args) = .ok (.select { request with debug := true }) := by
  obtain ⟨-, hargs⟩ := readArguments_debugged h hdebug
  have hflag : State.addArgument {} "--debug" = .ok (State.debugged {}) := rfl
  rw [parse, readArguments, if_neg (by decide), if_neg (by decide), if_neg (by decide), hflag]
  exact hargs

end Requests

end LineSelect.CommandLine
