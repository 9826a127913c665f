import Mathlib.Data.List.Basic
import LineSelect.Proofs.DebugArgument

/-!
Selections spelled on a command line. A selection is spelled by its options, each with its values
behind it and in any order, and by its ranges: these keep their order, and stand between the options
where nothing else can be meant by them, or behind two hyphens. However a selection is spelled,
reading the arguments gives it back.
-/

namespace LineSelect.CommandLine

/-! ### Spellings -/

/-- The words that stand for a switch. -/
def Switch.words : Switch → List String
  | .value .file => ["-f", "--file"]
  | .value .substitute => ["-s", "--substitute"]
  | .flag .global => ["-g", "--global"]
  | .flag .number => ["-n", "--number"]
  | .flag .explain => ["--explain"]
  | .flag .debug => ["--debug"]
  | .flag .help => ["-h", "--help"]
  | .flag .version => ["-V", "--version"]

theorem Switch.notMem_of_mem_words {switch : Switch} {word : String} (h : word ∈ switch.words) :
    word ∉ ["--", "config", "help"] := by
  have hwords : ∀ w ∈ switch.words, w ∉ ["--", "config", "help"] := by
    rcases switch with (_ | _ | _ | _ | _ | _) | (_ | _) <;> decide
  exact hwords word h

inductive SelectOption where
  | file (name : String)
  | substitute (pattern replacement : String)
  | global
  | number
  | explain
  | debug
deriving DecidableEq, Repr

namespace SelectOption

def switch : SelectOption → Switch
  | file _ => .value .file
  | substitute _ _ => .value .substitute
  | global => .flag .global
  | number => .flag .number
  | explain => .flag .explain
  | debug => .flag .debug

def values : SelectOption → List String
  | file name => [name]
  | substitute pattern replacement => [pattern, replacement]
  | _ => []

variable {o : SelectOption}

theorem length_values {option : ValueOption} (h : o.switch = .value option) :
    o.values.length = option.arity := by
  cases o <;> cases h <;> rfl

theorem of_switch_eq_flag {flag : Flag} (h : o.switch = .flag flag) :
    o.values = [] ∧ flag ∉ [.help, .version] := by
  cases o <;> cases h <;> decide

/-- The arguments that spell an option: a word for its switch, and then its values. A single value
may also be attached to the word. -/
inductive Spelling : SelectOption → List String → Prop where
  | apart {o : SelectOption} {word : String} (named : word ∈ o.switch.words) :
      Spelling o (word :: o.values)
  | attached {word : String} (named : word ∈ ["-f=", "--file="]) (name : String) :
      Spelling (file name) [word ++ name]
  | joined {name : String} (nonempty : name ≠ "") (unequal : name.toList.head? ≠ some '=') :
      Spelling (file name) ["-f" ++ name]

end SelectOption

/-- A text that an option takes for a value where it is an argument of its own: a single hyphen, or
a text that does not begin with one. -/
def IsValue (text : String) : Prop :=
  text = "-" ∨ text.toList.head? ≠ some '-'

instance : DecidablePred IsValue :=
  fun _ => inferInstanceAs (Decidable (_ ∨ _))

theorem IsValue.ne_end {text : String} (h : IsValue text) : text ≠ "--" := by
  rintro rfl
  revert h
  decide

/-- A text that is a range wherever it stands between options. -/
def IsPlainRange (range : String) : Prop :=
  range.toList.head? ≠ some '-' ∧ range ∉ ["config", "help"]

instance : DecidablePred IsPlainRange :=
  fun _ => inferInstanceAs (Decidable (_ ∧ _))

/-- Arguments that spell options and ranges. The options stand in the given order and so do the
ranges, but where the ranges stand between the options is left open. -/
inductive Spells : List SelectOption → List String → List String → Prop where
  | nothing : Spells [] [] []
  /-- Behind two hyphens any text is a range. -/
  | rest (ranges : List String) : Spells [] ranges ("--" :: ranges)
  | option {o : SelectOption} {words : List String} {options : List SelectOption}
      {ranges args : List String} (spelled : o.Spelling words) (more : Spells options ranges args) :
      Spells (o :: options) ranges (words ++ args)
  | range {range : String} {options : List SelectOption} {ranges args : List String}
      (plain : IsPlainRange range) (more : Spells options ranges args) :
      Spells options (range :: ranges) (range :: args)

/-- A substitution that replaces every match takes a flag of its own. -/
def SubstitutionRequest.options (s : SubstitutionRequest) : List SelectOption :=
  .substitute s.pattern s.replacement :: if s.isGlobal then [.global] else []

namespace SelectRequest

/-- The options that spell a selection, each of them once. -/
def options (request : SelectRequest) : List SelectOption :=
  request.file.toList.map .file ++
    request.substitution.toList.flatMap SubstitutionRequest.options ++
    (if request.number then [.number] else []) ++
    (if request.explain then [.explain] else []) ++
    (if request.debug then [.debug] else [])

def values (request : SelectRequest) : List String :=
  request.options.flatMap SelectOption.values

/-- The switches that an option may have, in the order of `options`. -/
def switches : List Switch :=
  [.value .file, .value .substitute, .flag .global, .flag .number, .flag .explain, .flag .debug]

variable {request : SelectRequest}

theorem sublist_switches (request : SelectRequest) :
    (request.options.map SelectOption.switch).Sublist switches := by
  have hflag (o : SelectOption) (isSet : Bool) :
      ((if isSet then [o] else []).map SelectOption.switch).Sublist [o.switch] := by
    cases isSet with
    | true => exact .refl _
    | false => exact List.nil_sublist _
  have hfile : ((request.file.toList.map SelectOption.file).map SelectOption.switch).Sublist
      [.value .file] := by
    cases request.file with
    | none => exact List.nil_sublist _
    | some name => exact .refl _
  have hsubstitution : ((request.substitution.toList.flatMap
      SubstitutionRequest.options).map SelectOption.switch).Sublist
      [.value .substitute, .flag .global] := by
    cases request.substitution with
    | none => exact List.nil_sublist _
    | some s =>
        simp only [Option.toList_some, List.flatMap_singleton, SubstitutionRequest.options,
          List.map_cons]
        exact (hflag .global s.isGlobal).cons_cons _
  simp only [options, List.map_append]
  exact (((hfile.append hsubstitution).append (hflag .number _)).append
    (hflag .explain _)).append (hflag .debug _)

theorem nodup_switches (request : SelectRequest) :
    (request.options.map SelectOption.switch).Nodup :=
  request.sublist_switches.nodup (by decide)

theorem file_mem_options {name : String} :
    .file name ∈ request.options ↔ request.file = some name := by
  simp [options, SubstitutionRequest.options]

theorem substitute_mem_options {pattern replacement : String} :
    .substitute pattern replacement ∈ request.options ↔
      ∃ isGlobal, request.substitution = some ⟨pattern, replacement, isGlobal⟩ := by
  constructor
  · intro h
    obtain ⟨s, hs, rfl, rfl⟩ : ∃ s, request.substitution = some s ∧ pattern = s.pattern ∧
        replacement = s.replacement := by
      simpa [options, SubstitutionRequest.options] using h
    exact ⟨s.isGlobal, hs⟩
  · rintro ⟨isGlobal, hs⟩
    simp [options, SubstitutionRequest.options, hs]

def Sets (request : SelectRequest) : Flag → Prop
  | .global => ∃ s, request.substitution = some s ∧ s.isGlobal = true
  | .number => request.number = true
  | .explain => request.explain = true
  | .debug => request.debug = true
  | .help | .version => False

theorem flag_mem_switches {flag : Flag} :
    .flag flag ∈ request.options.map SelectOption.switch ↔ request.Sets flag := by
  obtain ⟨ranges, file, substitution, number, explain, debug⟩ := request
  cases substitution with
  | none => cases flag <;> simp [options, SelectOption.switch, Sets]
  | some s =>
      cases flag <;> simp [options, SubstitutionRequest.options, SelectOption.switch, Sets]

end SelectRequest

/-! ### What one argument does -/

namespace State

variable {s t : State} {arg : String} {rest : List String}

/-- What the word for a switch does. -/
def turn (s : State) : Switch → Result State
  | .flag flag => s.setFlag .main flag
  | .value option => s.await option

theorem addArgument_shorts {c : Char} {text : List Char} (h : arg.toList = '-' :: c :: text)
    (hc : c ≠ '-') (s : State) : s.addArgument arg = s.addShorts (c :: text) := by
  rw [addArgument, h]
  split
  · next hlist => exact absurd (List.cons.inj (List.cons.inj hlist).2).1 hc
  · next hlist =>
    obtain ⟨rfl, rfl⟩ := List.cons.inj (List.cons.inj hlist).2
    rfl
  · next hlist => exact absurd rfl (hlist c text)

theorem addArgument_long {text : List Char} (h : arg.toList = '-' :: '-' :: text) (s : State) :
    s.addArgument arg = s.addLong (splitLong text).1 (splitLong text).2 := by
  rw [addArgument, h]
  rfl

theorem addArgument_flag {c : Char} {flag : Flag} (h : arg.toList = ['-', c]) (hc : c ≠ '-')
    (hflag : Switch.ofShort? c = some (.flag flag)) (s : State) :
    s.addArgument arg = s.turn (.flag flag) := by
  rw [addArgument_shorts h hc, addShorts_flag hflag, turn]
  cases s.setFlag .main flag <;> rfl

theorem addArgument_word {switch : Switch} {word : String} (h : word ∈ switch.words) (s : State) :
    s.addArgument word = s.turn switch := by
  cases switch with
  | value option =>
      cases option with
      | file | substitute => rcases List.mem_pair.mp h with rfl | rfl <;> rfl
  | flag flag =>
      cases flag with
      | global | number | help | version =>
          rcases List.mem_pair.mp h with rfl | rfl
          · exact addArgument_flag (by rfl) (by decide) (by rfl) s
          · rfl
      | explain | debug =>
          obtain rfl := List.mem_singleton.mp h
          rfl

/-- An argument that gives the name of a file by itself. -/
structure AttachesFile (arg name : String) : Prop where
  plain : arg ∉ ["--", "config", "help"]
  addArgument : ∀ s : State, s.addArgument arg = s.attach .file name

theorem notMem_of_toList {c : Char} {text : List Char} (h : arg.toList = '-' :: c :: text)
    (hc : c ≠ '-' ∨ text ≠ []) : arg ∉ ["--", "config", "help"] := by
  have hend : arg ≠ "--" := by
    rintro rfl
    have hhyphens : "--".toList = ['-', '-'] := rfl
    rw [hhyphens] at h
    obtain ⟨rfl, rfl⟩ := List.cons.inj (List.cons.inj h).2
    simp at hc
  have hcommand : arg ∉ ["config", "help"] := by
    intro hmem
    rcases List.mem_pair.mp hmem with rfl | rfl <;> simp at h
  exact mt List.mem_cons.mp (not_or.mpr ⟨hend, hcommand⟩)

theorem attachesFile_attached {word : String} (h : word ∈ ["-f=", "--file="]) (name : String) :
    AttachesFile (word ++ name) name := by
  rcases List.mem_pair.mp h with rfl | rfl
  · have hlist : ("-f=" ++ name).toList = '-' :: 'f' :: '=' :: name.toList := String.toList_append
    refine ⟨notMem_of_toList hlist (by simp), fun s => ?_⟩
    rw [addArgument_shorts hlist (by decide), addShorts]
    simp [Switch.ofShort?]
  · have hlist : ("--file=" ++ name).toList = '-' :: '-' :: ("file".toList ++ '=' :: name.toList) :=
      String.toList_append
    have hsplit : splitLong ("file".toList ++ '=' :: name.toList) = ("file", some name) := by
      simp [splitLong]
    refine ⟨notMem_of_toList hlist (by simp), fun s => ?_⟩
    rw [addArgument_long hlist, hsplit]
    rfl

theorem attachesFile_joined {name : String} (nonempty : name ≠ "")
    (unequal : name.toList.head? ≠ some '=') : AttachesFile ("-f" ++ name) name := by
  have hlist : ("-f" ++ name).toList = '-' :: 'f' :: name.toList := String.toList_append
  refine ⟨notMem_of_toList hlist (by simp), fun s => ?_⟩
  rw [addArgument_shorts hlist (by decide), addShorts]
  simp only [Switch.ofShort?]
  split
  · next hname => exact absurd (String.toList_eq_nil_iff.mp hname) nonempty
  · next value hname => exact absurd (by rw [hname]; rfl) unequal
  · rw [String.ofList_toList]

theorem addArgument_of_isValue (h : IsValue arg) (s : State) :
    s.addArgument arg = if s.expecting = .value then s.addValue arg else s.addRange arg := by
  rcases h with rfl | h
  · rfl
  · rw [addArgument]
    split
    · next hlist => simp [hlist] at h
    · next hlist => simp [hlist] at h
    · rfl

theorem readArguments_cons (hend : arg ≠ "--")
    (hcommand : s.expecting = .anything → arg ∉ ["config", "help"])
    (h : s.addArgument arg = .ok t) : readArguments s (arg :: rest) = readArguments t rest := by
  have hhelp : ¬ (s.expecting = .anything ∧ arg = "help") := by
    rintro ⟨hanything, rfl⟩
    exact hcommand hanything (by simp)
  have hconfig : ¬ (s.expecting = .anything ∧ arg = "config") := by
    rintro ⟨hanything, rfl⟩
    exact hcommand hanything (by simp)
  rw [readArguments, if_neg hhelp, if_neg hconfig, if_neg hend, h]

/-! ### Values -/

/-- The state in which an option has been given values, and waits for those that are missing. -/
def given (s : State) (option : ValueOption) (values : List String) : State :=
  { s with
    pending := some (option, values)
    expecting := if values.length < option.arity then .value else .anything }

theorem await_eq_given (h : s.settle = .ok t) (option : ValueOption) :
    s.await option = .ok (t.given option []) := by
  rw [await, h]
  cases option <;> rfl

theorem readArguments_given {option : ValueOption} {before values : List String}
    (hvalues : ∀ v ∈ values, IsValue v)
    (room : before.length + values.length ≤ option.arity) :
    readArguments (s.given option before) (values ++ rest) =
      readArguments (s.given option (before ++ values)) rest := by
  induction values generalizing before with
  | nil => simp
  | cons v values ih =>
      have hv : IsValue v := hvalues v (by simp)
      have hwaits : (s.given option before).expecting = .value := by
        rw [List.length_cons] at room
        exact if_pos (by omega)
      have htaken : (s.given option before).addArgument v =
          .ok (s.given option (before ++ [v])) := by
        rw [addArgument_of_isValue hv, if_pos hwaits]
        rfl
      rw [List.cons_append, readArguments_cons hv.ne_end (by simp [hwaits]) htaken,
        ih (fun w hw => hvalues w (.tail _ hw)) (by simp at room ⊢; omega), List.append_assoc]
      rfl

/-! ### What has been read -/

/-- A state without an option to check has put down the values of options and ranges. -/
structure Holds (s : State) (options : List SelectOption) (ranges : List String) : Prop where
  settled : s.pending = none
  ranges : s.ranges = ranges
  file : ∀ name, s.file = some name ↔ SelectOption.file name ∈ options
  substitute : ∀ values, s.substitute = some values ↔
    ∃ pattern replacement, values = [pattern, replacement] ∧
      SelectOption.substitute pattern replacement ∈ options
  flags : ∀ flag, flag ∈ s.flags ↔ Switch.flag flag ∈ options.map SelectOption.switch

/-- A state in which options and ranges have been read; the last option may have to be checked
yet. -/
def HasRead (s : State) (options : List SelectOption) (ranges : List String) : Prop :=
  s.expecting ≠ .value ∧ ∃ t, s.settle = .ok t ∧ t.Holds options ranges

section Reading

variable {options : List SelectOption} {ranges : List String} {o : SelectOption}

theorem settle_of_pending (h : s.pending = none) : s.settle = .ok s := by
  rw [settle, h]

theorem Holds.hasRead (holds : s.Holds options ranges) (h : s.expecting ≠ .value) :
    s.HasRead options ranges :=
  ⟨h, s, settle_of_pending holds.settled, holds⟩

theorem Holds.storeFile (holds : s.Holds options ranges)
    (new : Switch.value .file ∉ options.map SelectOption.switch) (name : String) :
    s.store .file [name] = .ok { s with file := some name } ∧
      { s with file := some name }.Holds (options ++ [SelectOption.file name]) ranges := by
  have hfile (other : String) : SelectOption.file other ∉ options := fun hmem =>
    new (List.mem_map_of_mem hmem)
  have hnone : s.file = none := by
    rw [Option.eq_none_iff_forall_ne_some]
    intro other hother
    exact hfile other ((holds.file other).mp hother)
  refine ⟨by simp [store, ValueOption.arity, hnone], ?_⟩
  exact {
    settled := holds.settled
    ranges := holds.ranges
    file := by simp [hfile, eq_comm]
    substitute := by simpa using holds.substitute
    flags := by simpa [SelectOption.switch] using holds.flags }

theorem Holds.storeSubstitute (holds : s.Holds options ranges)
    (new : Switch.value .substitute ∉ options.map SelectOption.switch)
    (pattern replacement : String) :
    s.store .substitute [pattern, replacement] =
        .ok { s with substitute := some [pattern, replacement] } ∧
      { s with substitute := some [pattern, replacement] }.Holds
        (options ++ [SelectOption.substitute pattern replacement]) ranges := by
  have hsubstitute (p r : String) : SelectOption.substitute p r ∉ options := fun hmem =>
    new (List.mem_map_of_mem hmem)
  have hnone : s.substitute = none := by
    rw [Option.eq_none_iff_forall_ne_some]
    intro values hvalues
    obtain ⟨p, r, -, hmem⟩ := (holds.substitute values).mp hvalues
    exact hsubstitute p r hmem
  refine ⟨by simp [store, ValueOption.arity, hnone], ?_⟩
  exact {
    settled := holds.settled
    ranges := holds.ranges
    file := by simpa using holds.file
    substitute := by simp [hsubstitute, eq_comm]
    flags := by simpa [SelectOption.switch] using holds.flags }

theorem Holds.exists_store (holds : s.Holds options ranges)
    (new : o.switch ∉ options.map SelectOption.switch) {option : ValueOption}
    (ho : o.switch = .value option) :
    ∃ t, s.store option o.values = .ok t ∧ t.Holds (options ++ [o]) ranges ∧
      t.expecting = s.expecting := by
  cases o with
  | file name =>
      cases ho
      obtain ⟨hstore, hadded⟩ := holds.storeFile new name
      exact ⟨_, hstore, hadded, rfl⟩
  | substitute pattern replacement =>
      cases ho
      obtain ⟨hstore, hadded⟩ := holds.storeSubstitute new pattern replacement
      exact ⟨_, hstore, hadded, rfl⟩
  | global | number | explain | debug => cases ho

theorem Holds.addFlag (holds : s.Holds options ranges) {flag : Flag} (ho : o.switch = .flag flag)
    (expecting : Expecting) :
    { s with flags := flag :: s.flags, expecting }.Holds (options ++ [o]) ranges := by
  have hfile (name : String) : SelectOption.file name ≠ o := by
    rintro rfl
    cases ho
  have hsubstitute (p r : String) : SelectOption.substitute p r ≠ o := by
    rintro rfl
    cases ho
  exact {
    settled := holds.settled
    ranges := holds.ranges
    file := by simpa [hfile] using holds.file
    substitute := by simpa [hsubstitute] using holds.substitute
    flags := by
      intro other
      rw [List.mem_cons, holds.flags, List.map_append, List.mem_append, List.map_singleton,
        List.mem_singleton, ho, Switch.flag.injEq, or_comm] }

theorem Holds.addRange (holds : s.Holds options ranges) (range : String) (expecting : Expecting) :
    { s with ranges := s.ranges ++ [range], expecting }.Holds options (ranges ++ [range]) :=
  { holds with ranges := by rw [← holds.ranges] }

/-! ### Steps of a reading -/

theorem setFlag_eq_ok (hsettle : s.settle = .ok t) (command : Command) {flag : Flag}
    (hflag : flag ∉ [.help, .version]) (new : flag ∉ t.flags) :
    s.setFlag command flag =
      .ok { t with flags := flag :: t.flags, expecting := .anything } := by
  rw [setFlag, hsettle]
  cases flag with
  | help | version => simp at hflag
  | global | number | explain | debug => exact if_neg new

theorem Holds.hasRead_given (holds : s.Holds options ranges)
    (new : o.switch ∉ options.map SelectOption.switch) {option : ValueOption}
    (ho : o.switch = .value option) :
    (s.given option o.values).HasRead (options ++ [o]) ranges := by
  have hfull : ¬ o.values.length < option.arity := by
    rw [SelectOption.length_values ho]
    exact Nat.lt_irrefl _
  have hsettle : (s.given option o.values).settle =
      { s with pending := none, expecting := .anything }.store option o.values := by
    simp only [settle, given, if_neg hfull]
  have hunchecked : { s with pending := none, expecting := .anything }.Holds options ranges :=
    { holds with settled := rfl }
  obtain ⟨t, hstore, hadded, -⟩ := hunchecked.exists_store new ho
  refine ⟨?_, t, hsettle.trans hstore, hadded⟩
  simp [given, hfull]

variable {word : String}

theorem readArguments_word (named : word ∈ o.switch.words) (read : s.HasRead options ranges)
    (new : o.switch ∉ options.map SelectOption.switch) (values : ∀ v ∈ o.values, IsValue v) :
    ∃ t, readArguments s (word :: o.values ++ rest) = readArguments t rest ∧
      t.HasRead (options ++ [o]) ranges := by
  obtain ⟨hexpecting, t, hsettle, holds⟩ := read
  obtain ⟨hend, hcommand⟩ := not_or.mp (mt List.mem_cons.mpr (Switch.notMem_of_mem_words named))
  have htaken := addArgument_word named s
  rcases hswitch : o.switch with flag | option
  · rw [hswitch] at htaken
    obtain ⟨hnone, hsettable⟩ := SelectOption.of_switch_eq_flag hswitch
    have hset := setFlag_eq_ok hsettle .main hsettable
      (mt (holds.flags flag).mp (hswitch ▸ new))
    refine ⟨_, ?_, (holds.addFlag hswitch .anything).hasRead (by simp)⟩
    rw [hnone]
    exact readArguments_cons hend (fun _ => hcommand) (htaken.trans hset)
  · rw [hswitch] at htaken
    refine ⟨t.given option o.values, ?_, holds.hasRead_given new hswitch⟩
    rw [List.cons_append, readArguments_cons hend (fun _ => hcommand)
      (htaken.trans (await_eq_given hsettle option)), readArguments_given values]
    · rfl
    · simp [SelectOption.length_values hswitch]

theorem readArguments_attach {name : String} (attaches : AttachesFile arg name)
    (read : s.HasRead options ranges)
    (new : Switch.value .file ∉ options.map SelectOption.switch) :
    ∃ t, readArguments s (arg :: rest) = readArguments t rest ∧
      t.HasRead (options ++ [.file name]) ranges := by
  obtain ⟨-, t, hsettle, holds⟩ := read
  obtain ⟨hend, hcommand⟩ := not_or.mp (mt List.mem_cons.mpr attaches.plain)
  have hready : { t with expecting := .anything }.Holds options ranges := { holds with }
  obtain ⟨u, hstore, hadded, hanything⟩ := hready.exists_store (o := .file name) new rfl
  refine ⟨u, readArguments_cons hend (fun _ => hcommand) ?_, hadded.hasRead (by simp [hanything])⟩
  rw [attaches.addArgument, attach, hsettle]
  exact hstore

theorem readArguments_option {words : List String} (spelled : o.Spelling words)
    (read : s.HasRead options ranges) (new : o.switch ∉ options.map SelectOption.switch)
    (values : ∀ v ∈ o.values, IsValue v) (rest : List String) :
    ∃ t, readArguments s (words ++ rest) = readArguments t rest ∧
      t.HasRead (options ++ [o]) ranges := by
  cases spelled with
  | apart named => exact readArguments_word named read new values
  | attached named name => exact readArguments_attach (attachesFile_attached named name) read new
  | joined nonempty unequal =>
      exact readArguments_attach (attachesFile_joined nonempty unequal) read new

theorem readArguments_range {range : String} (plain : IsPlainRange range)
    (read : s.HasRead options ranges) (rest : List String) :
    ∃ t, readArguments s (range :: rest) = readArguments t rest ∧
      t.HasRead options (ranges ++ [range]) := by
  obtain ⟨hexpecting, t, hsettle, holds⟩ := read
  have hvalue : IsValue range := .inr plain.1
  refine ⟨_, readArguments_cons hvalue.ne_end (fun _ => plain.2) ?_,
    (holds.addRange range .range).hasRead (by simp)⟩
  rw [addArgument_of_isValue hvalue, if_neg hexpecting, State.addRange, hsettle]
  rfl

theorem readRanges_of_hasRead (read : s.HasRead options ranges) (more : List String) :
    ∃ t, readRanges s more = .ok t ∧ t.HasRead options (ranges ++ more) := by
  induction more generalizing s ranges with
  | nil => exact ⟨s, rfl, by rwa [List.append_nil]⟩
  | cons range more ih =>
      obtain ⟨-, t, hsettle, holds⟩ := read
      have hadded : s.addRange range =
          .ok { t with ranges := t.ranges ++ [range], expecting := .range } := by
        rw [State.addRange, hsettle]
        rfl
      obtain ⟨u, hread, hranges⟩ := ih ((holds.addRange range .range).hasRead (by simp))
      refine ⟨u, ?_, by rwa [List.append_cons]⟩
      rw [readRanges, hadded]
      exact hread

end Reading

end State

/-! ### Whole command lines -/

section Whole

variable {s : State} {options done : List SelectOption} {ranges before args : List String}

theorem readArguments_of_spells (spells : Spells options ranges args) (read : s.HasRead done before)
    (once : ((done ++ options).map SelectOption.switch).Nodup)
    (values : ∀ o ∈ options, ∀ v ∈ o.values, IsValue v) :
    ∃ t : State, readArguments s args = t.finish none ∧
      t.HasRead (done ++ options) (before ++ ranges) := by
  induction spells generalizing s done before with
  | nothing => exact ⟨s, rfl, by simpa using read⟩
  | rest ranges =>
      obtain ⟨t, hranges, hread⟩ := State.readRanges_of_hasRead read ranges
      refine ⟨t, ?_, by simpa using hread⟩
      rw [readArguments, if_neg (by simp), if_neg (by simp), if_pos rfl, hranges]
  | @option o words options ranges args spelled more ih =>
      -- What has been read grows at its end, so `once` goes on to speak of the same options.
      rw [List.append_cons] at once ⊢
      have hnew : o.switch ∉ done.map SelectOption.switch := by
        have hdone := (List.nodup_append.mp (List.map_append ▸ once)).1
        rw [List.map_append, List.nodup_append] at hdone
        intro hmem
        exact hdone.2.2 _ hmem _ (by simp) rfl
      obtain ⟨t, hread, hnext⟩ := State.readArguments_option spelled read hnew
        (values o (by simp)) args
      rw [hread]
      exact ih hnext once fun p hp => values p (.tail _ hp)
  | range plain more ih =>
      obtain ⟨t, hread, hnext⟩ := State.readArguments_range plain read _
      rw [hread, List.append_cons]
      exact ih hnext once values

variable {t : State} {request : SelectRequest}

theorem mem_flags_iff_of_holds (holds : t.Holds options ranges)
    (order : options.Perm request.options) (flag : Flag) :
    flag ∈ t.flags ↔ request.Sets flag := by
  rw [holds.flags, (order.map SelectOption.switch).mem_iff, SelectRequest.flag_mem_switches]

theorem substitute_eq_some_iff_of_holds (holds : t.Holds options ranges)
    (order : options.Perm request.options) (values : List String) :
    t.substitute = some values ↔
      ∃ pattern replacement isGlobal, values = [pattern, replacement] ∧
        request.substitution = some ⟨pattern, replacement, isGlobal⟩ := by
  simp [holds.substitute, order.mem_iff, SelectRequest.substitute_mem_options]

theorem asksSubstitution_of_holds (holds : t.Holds options ranges)
    (order : options.Perm request.options) :
    AsksSubstitution (.global ∈ t.flags) t.substitute request.substitution := by
  have hsubstitute := substitute_eq_some_iff_of_holds holds order
  cases hrequest : request.substitution with
  | none =>
      have hnone : t.substitute = none := by
        simp [Option.eq_none_iff_forall_ne_some, hsubstitute, hrequest]
      rw [hnone]
      exact .none
  | some s =>
      have hsome : t.substitute = some [s.pattern, s.replacement] :=
        (hsubstitute _).mpr ⟨_, _, s.isGlobal, rfl, hrequest⟩
      have hscope : decide (.global ∈ t.flags) = s.isGlobal := by
        simp [mem_flags_iff_of_holds holds order, SelectRequest.Sets, hrequest]
      rw [hsome, hscope]
      exact .pair s.pattern s.replacement

theorem asks_of_holds (holds : t.Holds options request.ranges)
    (order : options.Perm request.options) : t.Asks request := by
  have hflags := mem_flags_iff_of_holds holds order
  exact {
    substitutes := by
      intro hmem hnone
      obtain ⟨s, hs, -⟩ := (hflags .global).mp hmem
      have hsome : t.substitute = some [s.pattern, s.replacement] :=
        (substitute_eq_some_iff_of_holds holds order _).mpr ⟨_, _, s.isGlobal, rfl, hs⟩
      cases hnone.symm.trans hsome
    ranges := holds.ranges.symm
    file := by
      ext name
      rw [holds.file, order.mem_iff, SelectRequest.file_mem_options]
    substitution := asksSubstitution_of_holds holds order
    number := by simp [hflags, SelectRequest.Sets]
    explain := by simp [hflags, SelectRequest.Sets]
    debug := by simp [hflags, SelectRequest.Sets] }

end Whole

/-- A selection whose file, pattern and replacement are no switches is read from every spelling: its
options stand in any order, and its ranges between them or behind two hyphens. -/
theorem parse_of_spells (request : SelectRequest) (values : ∀ v ∈ request.values, IsValue v)
    (options : List SelectOption) (order : options.Perm request.options) (args : List String)
    (spells : Spells options request.ranges args) : parse args = .ok (.select request) := by
  have hstart : State.HasRead {} [] [] :=
    State.Holds.hasRead ⟨rfl, rfl, by simp, by simp, by simp⟩ (by decide)
  have hvalues : ∀ o ∈ options, ∀ v ∈ o.values, IsValue v := fun o ho v hv =>
    values v (List.mem_flatMap.mpr ⟨o, order.mem_iff.mp ho, hv⟩)
  obtain ⟨s, hread, -, t, hsettle, holds⟩ := readArguments_of_spells spells hstart
    ((order.map SelectOption.switch).nodup_iff.mpr (SelectRequest.nodup_switches request)) hvalues
  rw [parse, hread]
  exact finish_eq_ok_iff.mpr ⟨t, hsettle, asks_of_holds holds order⟩

theorem parse_of_spells_lookalikes :
    parse ["--debug", "-g", "--substitute", "help", "-", "-n", "-f", "config", "--", "-n", "--",
        "config"] =
      .ok (.select {
        ranges := ["-n", "--", "config"], file := some "config"
        substitution := some ⟨"help", "-", true⟩, number := true, debug := true }) ∧
    parse ["$", "-s", "$", "config", "1", "--file=help", "2"] =
      .ok (.select {
        ranges := ["$", "1", "2"], file := some "help"
        substitution := some ⟨"$", "config", false⟩ }) := by
  constructor
  · apply parse_of_spells _ (by decide)
      [.debug, .global, .substitute "help" "-", .number, .file "config"]
    · decide
    · exact .option (.apart (by decide)) <| .option (.apart (by decide)) <|
        .option (.apart (by decide)) <| .option (.apart (by decide)) <|
        .option (.apart (by decide)) <| .rest _
  · have hplain : ∀ range ∈ ["$", "1", "2"], IsPlainRange range := by
      decide
    have hattached : SelectOption.Spelling (.file "help") ["--file=help"] :=
      @SelectOption.Spelling.attached "--file=" (by decide) "help"
    apply parse_of_spells _ (by decide) [.substitute "$" "config", .file "help"]
    · decide
    · exact .range (hplain _ (by decide)) <| .option (.apart (by decide)) <|
        .range (hplain _ (by decide)) <| .option hattached <|
        .range (hplain _ (by decide)) .nothing

end LineSelect.CommandLine
