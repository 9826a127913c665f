import Mathlib.Data.List.TakeWhile
import LineSelect.Proofs.Run
import LineSelect.Proofs.Spelling

/-!
Reading and spelling agree: an expression is read as a range exactly if it is one of the range's
spellings. What reading takes from the front of a text is always a spelling; conversely, reading
takes a whole spelling from the front if a separator or nothing follows it, so the forms do not
steal text from each other.
-/

namespace LineSelect

open LineSelect.Text

theorem boundedValue?_eq_some_iff {limit n : Nat} {digits : List Char} :
    boundedValue? limit digits = some n ↔ digitsValue digits = n ∧ digitsValue digits < limit := by
  rw [boundedValue?]
  split
  · next h => simp [h]
  · next h => simp [h]

theorem areDigits_leadingDigits {s : List Char} (h : leadingDigits s ≠ []) :
    AreDigits (leadingDigits s) :=
  ⟨h, fun _ hc => List.mem_takeWhile_imp hc⟩

theorem areBlanks_takeWhile (s : List Char) : AreBlanks (s.takeWhile isBlank) :=
  fun _ hc => List.mem_takeWhile_imp hc

theorem AreDigits.stopsAt {digits : List Char} (run : AreDigits digits) {p : Char → Bool}
    (hp : ∀ {c}, c.isDigit = true → p c = false) {rest : List Char} :
    StopsAt p (digits ++ rest) := by
  rw [stopsAt_append_of_ne_nil run.nonempty]
  exact fun c hc => hp (run.digits c (List.mem_of_mem_head? hc))

theorem leadingDigits_append_ne_nil {digits : List Char} (run : AreDigits digits)
    (rest : List Char) : leadingDigits (digits ++ rest) ≠ [] := by
  intro hnil
  have hstop : StopsAt Char.isDigit (digits ++ rest) := stopsAt_of_takeWhile_eq_nil hnil
  rw [stopsAt_append_of_ne_nil run.nonempty] at hstop
  obtain ⟨c, digits, rfl⟩ := List.exists_cons_of_ne_nil run.nonempty
  rw [stopsAt_cons_iff, run.digits c (by simp)] at hstop
  cases hstop

theorem isBlank_of_isDigit {c : Char} (h : c.isDigit = true) : isBlank c = false := by
  simp only [Char.isDigit, Bool.and_eq_true, decide_eq_true_eq, UInt32.le_iff_toNat_le] at h
  obtain ⟨low, high⟩ := h
  have hlow : 48 ≤ c.toNat := low
  have hhigh : c.toNat ≤ 57 := high
  simp [isBlank]
  omega

namespace Position

/-! ### Positions -/

theorem readPattern?_eq_some {body rest : List Char} {text : String}
    (h : readPattern? body = some (text, rest)) :
    ∃ source, IsSource source ∧ text = String.ofList source ∧
      (body = source ++ '/' :: rest ∨ body = source ∧ rest = []) := by
  have hsplit := List.takeWhile_append_dropWhile (p := fun c => decide (c ≠ '/')) (l := body)
  simp only [readPattern?] at h
  split at h
  · simp at h
  · next hne =>
    obtain ⟨rfl, rfl⟩ := Prod.mk.inj (Option.some.inj h)
    refine ⟨body.takeWhile (· ≠ '/'), ⟨hne, fun c hc => ?_⟩, rfl, ?_⟩
    · simpa using List.mem_takeWhile_imp hc
    · cases hrest : body.dropWhile (· ≠ '/') with
      | nil =>
          right
          rw [hrest, List.append_nil] at hsplit
          exact ⟨hsplit.symm, rfl⟩
      | cons c after =>
          left
          have hc : c = '/' := by
            have := stopsAt_dropWhile (p := fun c => decide (c ≠ '/')) (s := body)
            rw [hrest, stopsAt_cons_iff] at this
            simpa using this
          rw [hrest, hc] at hsplit
          exact hsplit.symm

theorem readPattern?_closed {source : List Char} (form : IsSource source) (rest : List Char) :
    readPattern? (source ++ '/' :: rest) = some (String.ofList source, rest) := by
  have hrun : ∀ c ∈ source, decide (c ≠ '/') = true := by
    simpa using form.slashFree
  have hstop : StopsAt (fun c => decide (c ≠ '/')) ('/' :: rest) := by
    simp
  simp only [readPattern?, takeWhile_append_of_stopsAt hrun hstop,
    dropWhile_append_of_stopsAt hrun hstop]
  simp [form.nonempty]

theorem readPattern?_unclosed {source : List Char} (form : IsSource source) :
    readPattern? source = some (String.ofList source, []) := by
  have hrun : ∀ c ∈ source, decide (c ≠ '/') = true := by
    simpa using form.slashFree
  have htake : source.takeWhile (fun c => decide (c ≠ '/')) = source :=
    List.takeWhile_eq_self_iff.mpr hrun
  have hdrop : source.dropWhile (fun c => decide (c ≠ '/')) = [] :=
    List.dropWhile_eq_nil_iff.mpr hrun
  simp only [readPattern?, htake, hdrop]
  simp [form.nonempty]

theorem exists_spelling_of_read {s rest : List Char} {position : Position}
    (h : read s = .ok (position, rest)) :
    (∃ base, s = base ++ rest ∧ position.Spelling base ∧
      (base = [] ∨ AreDigits base → StopsAt Char.isDigit rest)) ∨
    (∃ source, IsSource source ∧ position = .pattern (String.ofList source) ∧
      s = '/' :: source ∧ rest = []) := by
  unfold read at h
  split at h
  · next hdigits =>
    split at h
    · next n hn =>
      obtain ⟨rfl, rfl⟩ := Prod.mk.inj (Except.ok.inj h)
      obtain ⟨rfl, small⟩ := boundedValue?_eq_some_iff.mp hn
      exact .inl ⟨leadingDigits s, (leadingDigits_append_afterDigits s).symm,
        .line (areDigits_leadingDigits hdigits) small, fun _ => stopsAt_dropWhile⟩
    · cases h
  · next hdigits =>
    have hstop : StopsAt Char.isDigit s :=
      stopsAt_of_takeWhile_eq_nil (not_not.mp hdigits)
    split at h
    · next body =>
      split at h
      · next text after hread =>
        obtain ⟨rfl, rfl⟩ := Prod.mk.inj (Except.ok.inj h)
        obtain ⟨source, form, rfl, hbody | ⟨hbody, hrest⟩⟩ := readPattern?_eq_some hread
        · refine .inl ⟨'/' :: source ++ ['/'], by simp [hbody], .pattern form, ?_⟩
          rintro (hnil | hdigit)
          · simp at hnil
          · exact absurd (hdigit.digits '/' (by simp)) (by decide)
        · exact .inr ⟨source, form, rfl, by rw [hbody], hrest⟩
      · obtain ⟨rfl, rfl⟩ := Prod.mk.inj (Except.ok.inj h)
        exact .inl ⟨[], rfl, .nothing, fun _ => hstop⟩
    · obtain ⟨rfl, rfl⟩ := Prod.mk.inj (Except.ok.inj h)
      refine .inl ⟨['$'], rfl, .last, ?_⟩
      rintro (hnil | hdigit)
      · simp at hnil
      · exact absurd (hdigit.digits '$' (by simp)) (by decide)
    · obtain ⟨rfl, rfl⟩ := Prod.mk.inj (Except.ok.inj h)
      refine .inl ⟨['.'], rfl, .dot, ?_⟩
      rintro (hnil | hdigit)
      · simp at hnil
      · exact absurd (hdigit.digits '.' (by simp)) (by decide)
    · obtain ⟨rfl, rfl⟩ := Prod.mk.inj (Except.ok.inj h)
      exact .inl ⟨[], rfl, .nothing, fun _ => hstop⟩

end Position

namespace Address

/-! ### Offsets -/

theorem isSignOrSpace_char (sign : Sign) : isSignOrSpace sign.char = true := by
  cases sign <;> rfl

theorem isSignOrSpace_of_isDigit {c : Char} (h : c.isDigit = true) : isSignOrSpace c = false := by
  simp only [isSignOrSpace, Bool.or_eq_false_iff, decide_eq_false_iff_not]
  refine ⟨⟨?_, ?_⟩, ?_⟩ <;> rintro rfl <;> cases h

theorem exists_sign_of_isSignOrSpace {c : Char} (h : isSignOrSpace c = true) (hspace : c ≠ ' ') :
    ∃ sign : Sign, c = sign.char := by
  simp only [isSignOrSpace, Bool.or_eq_true, decide_eq_true_eq] at h
  rcases h with (h | h) | h
  · exact absurd h hspace
  · exact ⟨.plus, h⟩
  · exact ⟨.minus, h⟩

theorem readSign_char (sign : Sign) (rest : List Char) :
    readSign (sign.char :: rest) = (decide (sign = .minus), rest) := by
  cases sign <;> rfl

theorem readSign_of_ne {s : List Char} (h : ∀ (sign : Sign) rest, s ≠ sign.char :: rest) :
    readSign s = (false, s) := by
  unfold readSign
  split
  · next rest => exact absurd rfl (h .plus rest)
  · next rest => exact absurd rfl (h .minus rest)
  · rfl

theorem signed_eq_apply (sign : Sign) (n : Nat) :
    signed (decide (sign = .minus)) n = sign.apply n := by
  cases sign <;> rfl

theorem sign_char_eq_minus_iff (sign : Sign) : sign.char = '-' ↔ sign = .minus := by
  cases sign <;> decide

theorem sign_char_ne_space (sign : Sign) : sign.char ≠ ' ' := by
  cases sign <;> decide

theorem length_filter_eq_count (sign : Sign) {run : List Char}
    (alike : ∀ c ∈ run, c = sign.char ∨ c = ' ') :
    (run.filter (· ≠ ' ')).length = run.count sign.char := by
  rw [List.count, List.countP_eq_length_filter]
  congr 1
  refine List.filter_congr fun c hc => ?_
  rcases alike c hc with rfl | rfl
  · simp [sign_char_ne_space]
  · simp [(sign_char_ne_space sign).symm]

theorem readNumber_signed {blanks digits : List Char} (sign : Sign) (whole rest : List Char)
    (blank : AreBlanks blanks) (run : AreDigits digits) (hrest : StopsAt Char.isDigit rest) :
    readNumber whole (sign.char :: (blanks ++ (digits ++ rest))) =
      match boundedValue? offsetLimit digits with
      | some magnitude => .ok (some (sign.apply magnitude, rest))
      | none => .error (.invalidDelta (String.ofList whole)) := by
  have hblanks : dropBlanks (blanks ++ (digits ++ rest)) = digits ++ rest :=
    dropWhile_append_of_stopsAt blank (run.stopsAt isBlank_of_isDigit)
  have hdigits : leadingDigits (digits ++ rest) = digits :=
    takeWhile_append_of_stopsAt run.digits hrest
  have hafter : afterDigits (digits ++ rest) = rest :=
    dropWhile_append_of_stopsAt run.digits hrest
  cases hvalue : boundedValue? offsetLimit digits <;>
    simp only [readNumber, readSign_char, hblanks, hdigits, hafter, run.nonempty, if_false,
      signed_eq_apply, hvalue]

theorem readNumber_unsigned {digits : List Char} (whole rest : List Char) (run : AreDigits digits)
    (hrest : StopsAt Char.isDigit rest) :
    readNumber whole (digits ++ rest) =
      match boundedValue? offsetLimit digits with
      | some magnitude => .ok (some ((magnitude : Int), rest))
      | none => .error (.invalidDelta (String.ofList whole)) := by
  have hsign : readSign (digits ++ rest) = (false, digits ++ rest) := by
    refine readSign_of_ne fun sign after hs => ?_
    have hstop : StopsAt isSignOrSpace (digits ++ rest) := run.stopsAt isSignOrSpace_of_isDigit
    rw [hs, stopsAt_cons_iff, isSignOrSpace_char] at hstop
    cases hstop
  have hblanks : dropBlanks (digits ++ rest) = digits ++ rest :=
    dropWhile_eq_self_of_stopsAt (run.stopsAt isBlank_of_isDigit)
  have hdigits : leadingDigits (digits ++ rest) = digits :=
    takeWhile_append_of_stopsAt run.digits hrest
  have hafter : afterDigits (digits ++ rest) = rest :=
    dropWhile_append_of_stopsAt run.digits hrest
  simp only [readNumber, hsign, hblanks, hdigits, hafter, run.nonempty, if_false]
  rfl

theorem number_cases {s : List Char} (hblank : StopsAt isBlank s) :
    (∃ (sign : Sign) (blanks digits rest : List Char),
      s = sign.char :: (blanks ++ (digits ++ rest)) ∧ AreBlanks blanks ∧ AreDigits digits ∧
        StopsAt Char.isDigit rest) ∨
    (∃ digits rest, s = digits ++ rest ∧ AreDigits digits ∧ StopsAt Char.isDigit rest) ∨
    ∀ whole, readNumber whole s = .ok none := by
  by_cases hsign : ∃ (sign : Sign) (after : List Char), s = sign.char :: after
  · obtain ⟨sign, after, rfl⟩ := hsign
    by_cases hne : leadingDigits (dropBlanks after) = []
    · right
      right
      intro whole
      simp only [readNumber, readSign_char, hne, if_true]
    · refine .inl ⟨sign, after.takeWhile isBlank, leadingDigits (dropBlanks after),
        afterDigits (dropBlanks after), ?_, areBlanks_takeWhile after,
        areDigits_leadingDigits hne, stopsAt_dropWhile⟩
      rw [leadingDigits_append_afterDigits, dropBlanks, List.takeWhile_append_dropWhile]
  · right
    have hread : readSign s = (false, s) :=
      readSign_of_ne fun sign after hs => hsign ⟨sign, after, hs⟩
    have hdrop : dropBlanks s = s := dropWhile_eq_self_of_stopsAt hblank
    by_cases hne : leadingDigits s = []
    · right
      intro whole
      simp only [readNumber, hread, hdrop, hne, if_true]
    · exact .inl ⟨leadingDigits s, afterDigits s, (leadingDigits_append_afterDigits s).symm,
        areDigits_leadingDigits hne, stopsAt_dropWhile⟩

theorem readSigns_run {run rest : List Char} (sign : Sign) (whole : List Char)
    [Decidable (∀ c ∈ run, c = sign.char ∨ c = ' ')]
    (signs : ∀ c ∈ run, isSignOrSpace c = true) (hrest : StopsAt isSignOrSpace rest) :
    readSigns whole (sign.char :: run ++ rest) =
      if ∀ c ∈ run, c = sign.char ∨ c = ' ' then .ok (sign.apply (run.count sign.char + 1), rest)
      else .error (.invalidDelta (String.ofList whole)) := by
  have hrun : ∀ c ∈ sign.char :: run, isSignOrSpace c = true := by
    intro c hc
    rcases List.mem_cons.mp hc with rfl | hc
    · exact isSignOrSpace_char sign
    · exact signs c hc
  have hfilter : (sign.char :: run).filter (· ≠ ' ') = sign.char :: run.filter (· ≠ ' ') :=
    List.filter_cons_of_pos (by simpa using sign_char_ne_space sign)
  have hall : (sign.char :: run.filter (· ≠ ' ')).all (· = sign.char) = true ↔
      ∀ c ∈ run, c = sign.char ∨ c = ' ' := by
    simp only [List.all_cons, decide_true, Bool.true_and, List.all_eq_true, List.mem_filter,
      decide_eq_true_eq]
    constructor
    · intro h c hc
      by_cases hspace : c = ' '
      · exact .inr hspace
      · exact .inl (h c ⟨hc, hspace⟩)
    · rintro h c ⟨hc, hspace⟩
      exact (h c hc).resolve_right hspace
  simp only [readSigns, takeWhile_append_of_stopsAt hrun hrest,
    dropWhile_append_of_stopsAt hrun hrest, hfilter]
  by_cases alike : ∀ c ∈ run, c = sign.char ∨ c = ' '
  · simp only [if_pos (hall.mpr alike), if_pos alike, List.length_cons,
      length_filter_eq_count sign alike, sign_char_eq_minus_iff, signed_eq_apply]
  · rw [if_neg alike, if_neg (mt hall.mp alike)]

theorem signs_cases {s : List Char} (hblank : StopsAt isBlank s) :
    (∃ (sign : Sign) (run rest : List Char), s = sign.char :: run ++ rest ∧
      (∀ c ∈ run, isSignOrSpace c = true) ∧ StopsAt isSignOrSpace rest) ∨
    ∀ whole, readSigns whole s = .ok (0, s) := by
  have hsplit : s.takeWhile isSignOrSpace ++ s.dropWhile isSignOrSpace = s :=
    List.takeWhile_append_dropWhile
  cases hrun : s.takeWhile isSignOrSpace with
  | nil =>
      right
      intro whole
      rw [hrun, List.nil_append] at hsplit
      simp only [readSigns, hrun, List.filter_nil, hsplit]
  | cons c run =>
      left
      have hsigns : ∀ x ∈ c :: run, isSignOrSpace x = true :=
        fun x hx => List.mem_takeWhile_imp (hrun ▸ hx)
      have hspace : c ≠ ' ' := by
        rintro rfl
        rw [← hsplit, hrun] at hblank
        exact absurd (stopsAt_cons_iff.mp hblank) (by decide)
      obtain ⟨sign, rfl⟩ := exists_sign_of_isSignOrSpace (hsigns c (by simp)) hspace
      exact ⟨sign, run, s.dropWhile isSignOrSpace, by rw [← hrun, hsplit],
        fun x hx => hsigns x (List.mem_cons_of_mem _ hx), stopsAt_dropWhile⟩

theorem exists_spelling_of_readNumber {base gap whole s rest : List Char} {offset : Int}
    (h : readNumber whole s = .ok (some (offset, rest))) (hblank : StopsAt isBlank s)
    (free : leadingDigits s ≠ [] → base ≠ [] ∧ (AreDigits base → gap ≠ [])) :
    ∃ tail, s = tail ++ rest ∧ OffsetSpelling base gap offset tail := by
  rcases number_cases hblank with
    ⟨sign, blanks, digits, after, rfl, blank, run, hafter⟩ |
    ⟨digits, after, rfl, run, hafter⟩ | hnone
  · rw [readNumber_signed sign whole after blank run hafter] at h
    split at h
    · next n hn =>
      obtain ⟨rfl, rfl⟩ := Prod.mk.inj (Option.some.inj (Except.ok.inj h))
      obtain ⟨rfl, small⟩ := boundedValue?_eq_some_iff.mp hn
      exact ⟨sign.char :: blanks ++ digits, by simp, .number sign blank run small⟩
    · cases h
  · rw [readNumber_unsigned whole after run hafter] at h
    split at h
    · next n hn =>
      obtain ⟨rfl, rfl⟩ := Prod.mk.inj (Option.some.inj (Except.ok.inj h))
      obtain ⟨rfl, small⟩ := boundedValue?_eq_some_iff.mp hn
      obtain ⟨based, apart⟩ := free (leadingDigits_append_ne_nil run after)
      exact ⟨digits, rfl, .bare based apart run small⟩
    · cases h
  · rw [hnone] at h
    cases h

theorem exists_spelling_of_readSigns {base gap whole s rest : List Char} {offset : Int}
    (h : readSigns whole s = .ok (offset, rest)) (hblank : StopsAt isBlank s) :
    ∃ tail, s = tail ++ rest ∧ OffsetSpelling base gap offset tail := by
  rcases signs_cases hblank with ⟨sign, run, after, rfl, signs, hafter⟩ | hnone
  · rw [readSigns_run sign whole signs hafter] at h
    split at h
    · next alike =>
      obtain ⟨rfl, rfl⟩ := Prod.mk.inj (Except.ok.inj h)
      exact ⟨sign.char :: run, rfl, .signs sign alike⟩
    · cases h
  · rw [hnone] at h
    obtain ⟨rfl, rfl⟩ := Prod.mk.inj (Except.ok.inj h)
    exact ⟨[], rfl, .nothing⟩

theorem exists_spelling_of_readOffset {base gap whole s rest : List Char} {offset : Int}
    (h : readOffset whole s = .ok (offset, rest)) (hblank : StopsAt isBlank s)
    (free : leadingDigits s ≠ [] → base ≠ [] ∧ (AreDigits base → gap ≠ [])) :
    ∃ tail, s = tail ++ rest ∧ OffsetSpelling base gap offset tail := by
  unfold readOffset at h
  split at h
  · cases h
  · next result hnumber =>
    obtain rfl := Except.ok.inj h
    exact exists_spelling_of_readNumber hnumber hblank free
  · exact exists_spelling_of_readSigns h hblank

/-! ### Addresses -/

theorem based_of_leadingDigits {s base after : List Char} (hs : dropBlanks s = base ++ after)
    (hdigits : base = [] ∨ AreDigits base → StopsAt Char.isDigit after)
    (hlead : leadingDigits (dropBlanks after) ≠ []) :
    base ≠ [] ∧ (AreDigits base → after.takeWhile isBlank ≠ []) := by
  have hgap : after.takeWhile isBlank ++ dropBlanks after = after :=
    List.takeWhile_append_dropWhile
  -- Digits right behind a position would have been taken as a part of it.
  have hgapless : after.takeWhile isBlank = [] → ¬ StopsAt Char.isDigit after := by
    intro hnil hdigit
    rw [hnil, List.nil_append] at hgap
    rw [hgap] at hlead
    exact hlead (takeWhile_eq_nil_of_stopsAt hdigit)
  constructor
  · rintro rfl
    rw [List.nil_append] at hs
    have hstop : StopsAt isBlank after := hs ▸ stopsAt_dropWhile
    exact hgapless (takeWhile_eq_nil_of_stopsAt hstop) (hdigits (.inl rfl))
  · intro run hnil
    exact hgapless hnil (hdigits (.inr run))

theorem exists_spelling_of_read {s rest : List Char} {address : Address}
    (h : read s = .ok (address, rest)) :
    (∃ t, s = t ++ rest ∧ address.Spelling t) ∨ (rest = [] ∧ address.FinalSpelling s) := by
  have hfront : s.takeWhile isBlank ++ dropBlanks s = s := List.takeWhile_append_dropWhile
  simp only [read] at h
  split at h
  · cases h
  · next position after hposition =>
    have hgap : after.takeWhile isBlank ++ dropBlanks after = after :=
      List.takeWhile_append_dropWhile
    split at h
    · cases h
    · next offset rest₂ hoffset =>
      obtain ⟨rfl, rfl⟩ := Prod.mk.inj (Except.ok.inj h)
      rcases Position.exists_spelling_of_read hposition with
        ⟨base, hs, basic, hdigits⟩ | ⟨source, form, rfl, hs, rfl⟩
      · left
        obtain ⟨tail, htail, ending⟩ := exists_spelling_of_readOffset hoffset stopsAt_dropWhile
          (based_of_leadingDigits hs hdigits)
        refine ⟨_, ?_, .parts (areBlanks_takeWhile s) basic (areBlanks_takeWhile after) ending⟩
        rw [List.append_assoc, List.append_assoc, List.append_assoc, ← htail, hgap, ← hs, hfront]
      · right
        obtain ⟨rfl, rfl⟩ := Prod.mk.inj (Except.ok.inj hoffset)
        refine ⟨rfl, ?_⟩
        rw [← hfront, hs]
        exact .unclosed (areBlanks_takeWhile s) form

/-! ### Reading a whole spelling -/

/-- What may follow a spelling of an address inside a range: a separator, or nothing. -/
def Follows (rest : List Char) : Prop :=
  ∀ c ∈ rest.head?, ∃ separator : Separator, c = separator.char

theorem follows_nil : Follows [] := by
  simp [Follows]

theorem follows_separator (separator : Separator) (rest : List Char) :
    Follows (separator.char :: rest) := by
  intro c hc
  exact ⟨separator, (Option.some.inj hc).symm⟩

theorem Follows.stopsAt {rest : List Char} (hrest : Follows rest) {p : Char → Bool}
    (hcomma : p ',' = false) (hsemicolon : p ';' = false) : StopsAt p rest := by
  intro c hc
  obtain ⟨separator, rfl⟩ := hrest c hc
  cases separator
  · exact hcomma
  · exact hsemicolon

theorem readNumber_number {blanks digits : List Char} (sign : Sign) (whole rest : List Char)
    (blank : AreBlanks blanks) (run : AreDigits digits) (small : digitsValue digits < offsetLimit)
    (hrest : StopsAt Char.isDigit rest) :
    readNumber whole (sign.char :: (blanks ++ (digits ++ rest))) =
      .ok (some (sign.apply (digitsValue digits), rest)) := by
  rw [readNumber_signed sign whole rest blank run hrest,
    boundedValue?_eq_some_iff.mpr ⟨rfl, small⟩]

theorem readNumber_bare {digits : List Char} (whole rest : List Char) (run : AreDigits digits)
    (small : digitsValue digits < offsetLimit) (hrest : StopsAt Char.isDigit rest) :
    readNumber whole (digits ++ rest) = .ok (some ((digitsValue digits : Int), rest)) := by
  rw [readNumber_unsigned whole rest run hrest, boundedValue?_eq_some_iff.mpr ⟨rfl, small⟩]

theorem readSigns_signs {run rest : List Char} (sign : Sign) (whole : List Char)
    (alike : ∀ c ∈ run, c = sign.char ∨ c = ' ') (hrest : StopsAt isSignOrSpace rest) :
    readSigns whole (sign.char :: run ++ rest) =
      .ok (sign.apply (run.count sign.char + 1), rest) := by
  have signs : ∀ c ∈ run, isSignOrSpace c = true := by
    intro c hc
    rcases alike c hc with rfl | rfl
    · exact isSignOrSpace_char sign
    · rfl
  rw [readSigns_run sign whole signs hrest, if_pos alike]

theorem readNumber_of_stopsAt {s : List Char} (whole : List Char)
    (hsign : ∀ (sign : Sign) rest, s ≠ sign.char :: rest) (hblank : StopsAt isBlank s)
    (hdigit : StopsAt Char.isDigit s) : readNumber whole s = .ok none := by
  have hdrop : dropBlanks s = s := dropWhile_eq_self_of_stopsAt hblank
  have hlead : leadingDigits s = [] := takeWhile_eq_nil_of_stopsAt hdigit
  simp [readNumber, readSign_of_ne hsign, hdrop, hlead]

theorem readNumber_signs {run rest : List Char} (sign : Sign) (whole : List Char)
    (alike : ∀ c ∈ run, c = sign.char ∨ c = ' ') (hrest : Follows rest) :
    readNumber whole (sign.char :: run ++ rest) = .ok none := by
  have hstop : StopsAt Char.isDigit (dropBlanks (run ++ rest)) := by
    induction run with
    | nil =>
        rw [List.nil_append, dropBlanks, dropWhile_eq_self_of_stopsAt (hrest.stopsAt rfl rfl)]
        exact hrest.stopsAt rfl rfl
    | cons c run ih =>
        rcases alike c (by simp) with rfl | rfl
        · have hblank : isBlank sign.char = false := by cases sign <;> decide
          rw [dropBlanks, List.cons_append, List.dropWhile_cons_of_neg (by simp [hblank])]
          exact stopsAt_cons_iff.mpr (by cases sign <;> decide)
        · rw [dropBlanks, List.cons_append, List.dropWhile_cons_of_pos (by decide)]
          exact ih fun x hx => alike x (List.mem_cons_of_mem _ hx)
  have hlead : leadingDigits (dropBlanks (run ++ rest)) = [] := takeWhile_eq_nil_of_stopsAt hstop
  simp only [readNumber, List.cons_append, readSign_char, hlead, if_true]

theorem readOffset_append {base gap tail rest : List Char} {offset : Int} (whole : List Char)
    (ending : OffsetSpelling base gap offset tail) (hrest : Follows rest) :
    readOffset whole (tail ++ rest) = .ok (offset, rest) := by
  have hdigit : StopsAt Char.isDigit rest := hrest.stopsAt rfl rfl
  have hsigns : StopsAt isSignOrSpace rest := hrest.stopsAt rfl rfl
  cases ending with
  | nothing =>
      have hsign : ∀ (sign : Sign) after, rest ≠ sign.char :: after := by
        rintro sign after rfl
        rw [stopsAt_cons_iff, isSignOrSpace_char] at hsigns
        cases hsigns
      rw [List.nil_append, readOffset,
        readNumber_of_stopsAt whole hsign (hrest.stopsAt rfl rfl) hdigit]
      simp [readSigns, takeWhile_eq_nil_of_stopsAt hsigns, dropWhile_eq_self_of_stopsAt hsigns]
  | number sign blank run small =>
      rw [List.append_assoc, List.cons_append, readOffset,
        readNumber_number sign whole rest blank run small hdigit]
  | bare based apart run small =>
      rw [readOffset, readNumber_bare whole rest run small hdigit]
  | signs sign alike =>
      rw [readOffset, readNumber_signs sign whole alike hrest]
      exact readSigns_signs sign whole alike hsigns

theorem stopsAt_digit_of_gap {gap tail : List Char} (gapBlank : AreBlanks gap)
    (htail : gap = [] → StopsAt Char.isDigit tail) : StopsAt Char.isDigit (gap ++ tail) := by
  cases gap with
  | nil => exact htail rfl
  | cons c gap =>
      refine stopsAt_cons_iff.mpr (Bool.eq_false_iff.mpr fun hdigit => ?_)
      have hblank := gapBlank c (by simp)
      rw [isBlank_of_isDigit hdigit] at hblank
      cases hblank

theorem stopsAt_digit_of_ending {base gap tail rest : List Char} {offset : Int}
    (ending : OffsetSpelling base gap offset tail) (hrest : Follows rest) (run : AreDigits base)
    (hgap : gap = []) : StopsAt Char.isDigit (tail ++ rest) := by
  cases ending with
  | nothing => exact hrest.stopsAt rfl rfl
  | number sign | signs sign => cases sign <;> exact stopsAt_cons_iff.mpr rfl
  | bare based apart => exact absurd hgap (apart run)

theorem read_position_of_stopsAt {base rest : List Char} {position : Position}
    (basic : position.Spelling base) (hne : base ≠ [])
    (hrest : AreDigits base → StopsAt Char.isDigit rest) :
    Position.read (base ++ rest) = .ok (position, rest) := by
  cases basic with
  | line run small =>
      simp only [Position.read, leadingDigits, afterDigits,
        takeWhile_append_of_stopsAt run.digits (hrest run),
        dropWhile_append_of_stopsAt run.digits (hrest run)]
      rw [if_pos run.nonempty, boundedValue?_eq_some_iff.mpr ⟨rfl, small⟩]
  | pattern form =>
      rw [List.append_assoc, List.cons_append, List.singleton_append]
      simp [Position.read, leadingDigits, Position.readPattern?_closed form]
  | last => simp [Position.read, leadingDigits]
  | dot => simp [Position.read, leadingDigits]
  | nothing => exact absurd rfl hne

theorem read_position_append {base gap tail rest : List Char} {position : Position} {offset : Int}
    (basic : position.Spelling base) (hne : base ≠ []) (gapBlank : AreBlanks gap)
    (ending : OffsetSpelling base gap offset tail) (hrest : Follows rest) :
    Position.read (base ++ (gap ++ (tail ++ rest))) = .ok (position, gap ++ (tail ++ rest)) := by
  apply read_position_of_stopsAt basic hne
  intro run
  exact stopsAt_digit_of_gap gapBlank (stopsAt_digit_of_ending ending hrest run)

theorem read_position_nothing {gap tail rest : List Char} {offset : Int}
    (ending : OffsetSpelling [] gap offset tail) (hrest : Follows rest) :
    Position.read (tail ++ rest) = .ok (.current, tail ++ rest) := by
  cases ending with
  | nothing =>
      cases rest with
      | nil => rfl
      | cons c rest =>
          obtain ⟨separator, rfl⟩ := hrest c rfl
          cases separator <;> simp [Position.read, leadingDigits, Separator.char]
  | number sign | signs sign => cases sign <;> simp [Position.read, leadingDigits, Sign.char]
  | bare based => exact absurd rfl based

theorem stopsAt_blank_of_spelling {base : List Char} {position : Position}
    (basic : position.Spelling base) (hne : base ≠ []) (rest : List Char) :
    StopsAt isBlank (base ++ rest) := by
  cases basic with
  | line run => exact run.stopsAt isBlank_of_isDigit
  | pattern | last | dot => exact stopsAt_cons_iff.mpr rfl
  | nothing => exact absurd rfl hne

theorem stopsAt_blank_of_ending {base gap tail rest : List Char} {offset : Int}
    (ending : OffsetSpelling base gap offset tail) (hrest : Follows rest) :
    StopsAt isBlank (tail ++ rest) := by
  cases ending with
  | nothing => exact hrest.stopsAt rfl rfl
  | number sign | signs sign => cases sign <;> exact stopsAt_cons_iff.mpr rfl
  | bare _ _ run => exact run.stopsAt isBlank_of_isDigit

theorem read_append {address : Address} {s rest : List Char} (spelling : address.Spelling s)
    (hrest : Follows rest) : read (s ++ rest) = .ok (address, rest) := by
  obtain @⟨position, offset, front, base, gap, tail, frontBlank, basic, gapBlank, ending⟩ :=
    spelling
  have hgap : dropBlanks (gap ++ (tail ++ rest)) = tail ++ rest :=
    dropWhile_append_of_stopsAt gapBlank (stopsAt_blank_of_ending ending hrest)
  simp only [List.append_assoc, read]
  by_cases hne : base = []
  · subst hne
    obtain rfl : position = .current := by
      cases basic with
      | line run => exact absurd rfl run.nonempty
      | nothing => rfl
    have hfront : dropBlanks (front ++ (gap ++ (tail ++ rest))) = tail ++ rest := by
      rw [dropBlanks, List.dropWhile_append_of_pos frontBlank]
      exact hgap
    have htail : dropBlanks (tail ++ rest) = tail ++ rest :=
      dropWhile_eq_self_of_stopsAt (stopsAt_blank_of_ending ending hrest)
    rw [List.nil_append, hfront, read_position_nothing ending hrest]
    simp only [htail, readOffset_append _ ending hrest]
  · have hfront : dropBlanks (front ++ (base ++ (gap ++ (tail ++ rest)))) =
        base ++ (gap ++ (tail ++ rest)) :=
      dropWhile_append_of_stopsAt frontBlank (stopsAt_blank_of_spelling basic hne _)
    rw [hfront, read_position_append basic hne gapBlank ending hrest]
    simp only [hgap, readOffset_append _ ending hrest]

theorem read_finalSpelling {address : Address} {s : List Char}
    (spelling : address.FinalSpelling s) : read s = .ok (address, []) := by
  cases spelling with
  | closed spelling => simpa using read_append spelling follows_nil
  | @unclosed front source frontBlank form =>
      have hfront : dropBlanks (front ++ '/' :: source) = '/' :: source :=
        dropWhile_append_of_stopsAt frontBlank (stopsAt_cons_iff.mpr rfl)
      have hposition : Position.read ('/' :: source) =
          .ok (.pattern (String.ofList source), []) := by
        simp [Position.read, leadingDigits, Position.readPattern?_unclosed form]
      simp only [read, hfront, hposition]
      rfl

end Address

namespace Range

/-! ### Ranges -/

theorem ofChar?_eq_some_iff {c : Char} {separator : Separator} :
    Separator.ofChar? c = some separator ↔ c = separator.char := by
  constructor
  · intro h
    unfold Separator.ofChar? at h
    split at h <;> cases h <;> rfl
  · rintro rfl
    exact Separator.ofChar?_char separator

theorem spelling_of_read {s : List Char} {range : Range} (h : read s = .ok range) :
    range.Spelling s := by
  unfold read at h
  split at h
  · cases h
  · next start hstart =>
    obtain rfl := Except.ok.inj h
    rcases Address.exists_spelling_of_read hstart with ⟨t, rfl, spelling⟩ | ⟨-, spelling⟩
    · exact .single (.closed (by simpa using spelling))
    · exact .single spelling
  · next start c rest hstart =>
    split at h
    · cases h
    · next separator hc =>
      obtain rfl := ofChar?_eq_some_iff.mp hc
      split at h
      · cases h
      · next stop hstop =>
        obtain rfl := Except.ok.inj h
        rcases Address.exists_spelling_of_read hstart with ⟨t, rfl, first⟩ | ⟨hnil, -⟩
        · refine .span separator first ?_
          rcases Address.exists_spelling_of_read hstop with ⟨u, rfl, second⟩ | ⟨-, second⟩
          · exact .closed (by simpa using second)
          · exact second
        · cases hnil
      · cases h

theorem read_of_spelling {s : List Char} {range : Range} (h : range.Spelling s) :
    read s = .ok range := by
  cases h with
  | single spelling =>
      unfold read
      rw [Address.read_finalSpelling spelling]
  | @span start stop s t separator first second =>
      unfold read
      rw [Address.read_append first (Address.follows_separator separator t)]
      simp only [Separator.ofChar?_char, Address.read_finalSpelling second]

/-- An expression is read as a range exactly if it is one of the range's spellings. -/
theorem parse_eq_ok_iff_spelling (expr : String) (range : Range) :
    parse expr = .ok range ↔ range.Spelling expr.toList :=
  ⟨spelling_of_read, read_of_spelling⟩

end Range

end LineSelect
