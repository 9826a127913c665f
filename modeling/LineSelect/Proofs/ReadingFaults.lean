import LineSelect.Proofs.Reading

/-!
Why reading fails. A fault is a place in the text, described without the reader: a digit run that is
too large, a run of both signs, something else where a separator is due, text after the end of a
range. The main statements say that reading fails exactly on these faults, and what it reports.
-/

namespace LineSelect

open LineSelect.Text

theorem boundedValue?_eq_none_iff {limit : Nat} {digits : List Char} :
    boundedValue? limit digits = none ↔ limit ≤ digitsValue digits := by
  rw [boundedValue?]
  split
  · next h => simp [h]
  · next h => simp [Nat.le_of_not_lt h]

namespace Address

/-! ### Offsets -/

/-- The texts that cannot be an offset after a position written as `base` and the blanks `gap`. -/
inductive OffsetFault (base gap : List Char) : List Char → Prop where
  | signed (sign : Sign) {blanks digits rest : List Char} (blank : AreBlanks blanks)
      (run : AreDigits digits) (whole : StopsAt Char.isDigit rest)
      (large : offsetLimit ≤ digitsValue digits) :
      OffsetFault base gap (sign.char :: (blanks ++ (digits ++ rest)))
  | bare {digits rest : List Char} (based : base ≠ []) (apart : AreDigits base → gap ≠ [])
      (run : AreDigits digits) (whole : StopsAt Char.isDigit rest)
      (large : offsetLimit ≤ digitsValue digits) :
      OffsetFault base gap (digits ++ rest)
  | mixed (sign other : Sign) {run rest : List Char} (different : other ≠ sign)
      (signs : ∀ c ∈ run, isSignOrSpace c = true) (both : other.char ∈ run)
      (whole : StopsAt isSignOrSpace rest) :
      OffsetFault base gap (sign.char :: run ++ rest)

section Offset

variable {base gap whole s : List Char} {e : SelectionError}

theorem fault_of_readNumber (h : readNumber whole s = .error e) (hblank : StopsAt isBlank s)
    (free : leadingDigits s ≠ [] → base ≠ [] ∧ (AreDigits base → gap ≠ [])) :
    e = .invalidDelta (String.ofList whole) ∧ OffsetFault base gap s := by
  rcases number_cases hblank with
    ⟨sign, blanks, digits, after, rfl, blank, run, hafter⟩ |
    ⟨digits, after, rfl, run, hafter⟩ | hnone
  · rw [readNumber_signed sign whole after blank run hafter] at h
    split at h
    · cases h
    · next hlarge =>
      exact ⟨(Except.error.inj h).symm,
        .signed sign blank run hafter (boundedValue?_eq_none_iff.mp hlarge)⟩
  · rw [readNumber_unsigned whole after run hafter] at h
    split at h
    · cases h
    · next hlarge =>
      obtain ⟨based, apart⟩ := free (leadingDigits_append_ne_nil run after)
      exact ⟨(Except.error.inj h).symm,
        .bare based apart run hafter (boundedValue?_eq_none_iff.mp hlarge)⟩
  · rw [hnone] at h
    cases h

theorem fault_of_readSigns (h : readSigns whole s = .error e) (hblank : StopsAt isBlank s) :
    e = .invalidDelta (String.ofList whole) ∧ OffsetFault base gap s := by
  rcases signs_cases hblank with ⟨sign, run, after, rfl, signs, hafter⟩ | hnone
  · rw [readSigns_run sign whole signs hafter] at h
    split at h
    · cases h
    · next halike =>
      obtain ⟨c, hc, hne, hspace⟩ : ∃ c ∈ run, c ≠ sign.char ∧ c ≠ ' ' := by
        simpa using halike
      obtain ⟨other, rfl⟩ := exists_sign_of_isSignOrSpace (signs c hc) hspace
      refine ⟨(Except.error.inj h).symm, .mixed sign other ?_ signs hc hafter⟩
      rintro rfl
      exact hne rfl
  · rw [hnone] at h
    cases h

theorem fault_of_readOffset (h : readOffset whole s = .error e) (hblank : StopsAt isBlank s)
    (free : leadingDigits s ≠ [] → base ≠ [] ∧ (AreDigits base → gap ≠ [])) :
    e = .invalidDelta (String.ofList whole) ∧ OffsetFault base gap s := by
  unfold readOffset at h
  split at h
  · next e' hnumber =>
    obtain rfl := Except.error.inj h
    exact fault_of_readNumber hnumber hblank free
  · cases h
  · exact fault_of_readSigns h hblank

theorem readNumber_mixed {run rest : List Char} (sign : Sign) {other : Sign} (whole : List Char)
    (signs : ∀ c ∈ run, isSignOrSpace c = true) (both : other.char ∈ run) :
    readNumber whole (sign.char :: run ++ rest) = .ok none := by
  have hlead : leadingDigits (dropBlanks (run ++ rest)) = [] := by
    induction run with
    | nil => cases both
    | cons c run ih =>
        by_cases hspace : c = ' '
        · subst hspace
          rw [dropBlanks, List.cons_append, List.dropWhile_cons_of_pos (by decide)]
          apply ih fun x hx => signs x (List.mem_cons_of_mem _ hx)
          exact (List.mem_cons.mp both).resolve_left (sign_char_ne_space other)
        · obtain ⟨next, rfl⟩ := exists_sign_of_isSignOrSpace (signs c (by simp)) hspace
          rw [dropBlanks, List.cons_append,
            List.dropWhile_cons_of_neg (by cases next <;> decide)]
          apply takeWhile_eq_nil_of_stopsAt
          exact stopsAt_cons_iff.mpr (by cases next <;> decide)
  simp only [readNumber, List.cons_append, readSign_char, hlead, if_true]

theorem readOffset_of_fault (whole : List Char) (fault : OffsetFault base gap s) :
    readOffset whole s = .error (.invalidDelta (String.ofList whole)) := by
  cases fault with
  | signed sign blank run stop large =>
      rw [readOffset, readNumber_signed sign whole _ blank run stop,
        boundedValue?_eq_none_iff.mpr large]
  | bare based apart run stop large =>
      rw [readOffset, readNumber_unsigned whole _ run stop, boundedValue?_eq_none_iff.mpr large]
  | @mixed sign other run rest different signs both stop =>
      rw [readOffset, readNumber_mixed sign whole signs both]
      have hmixed : ¬ ∀ c ∈ run, c = sign.char ∨ c = ' ' := by
        intro halike
        rcases halike other.char both with heq | heq
        · exact different (by revert heq; cases sign <;> cases other <;> simp [Sign.char])
        · exact sign_char_ne_space other heq
      exact (readSigns_run sign whole signs stop).trans (if_neg hmixed)

end Offset

/-! ### Addresses -/

/-- What can be wrong with the address at the front of `s`, and what is reported: the digits of a
line number, or all of `s` if it is the offset. -/
inductive ReadFault (s : List Char) : SelectionError → Prop where
  | lineNumber {front digits rest : List Char} (split : s = front ++ (digits ++ rest))
      (frontBlank : AreBlanks front) (run : AreDigits digits) (whole : StopsAt Char.isDigit rest)
      (large : lineNumberLimit ≤ digitsValue digits) :
      ReadFault s (.invalidLineNumber (String.ofList digits))
  | delta {position : Position} {front base gap tail : List Char}
      (split : s = front ++ (base ++ (gap ++ tail))) (frontBlank : AreBlanks front)
      (basic : position.Spelling base) (gapBlank : AreBlanks gap)
      (fault : OffsetFault base gap tail) :
      ReadFault s (.invalidDelta (String.ofList s))

theorem OffsetFault.stopsAt_blank {base gap tail : List Char} (fault : OffsetFault base gap tail) :
    StopsAt isBlank tail := by
  cases fault with
  | signed sign | mixed sign => cases sign <;> exact stopsAt_cons_iff.mpr rfl
  | bare _ _ run => exact run.stopsAt isBlank_of_isDigit

theorem OffsetFault.stopsAt_digit {base gap tail : List Char} (fault : OffsetFault base gap tail)
    (run : AreDigits base) (hgap : gap = []) : StopsAt Char.isDigit tail := by
  cases fault with
  | signed sign | mixed sign => cases sign <;> exact stopsAt_cons_iff.mpr rfl
  | bare _ apart => exact absurd hgap (apart run)

theorem OffsetFault.read_position {gap tail : List Char} (fault : OffsetFault [] gap tail) :
    Position.read tail = .ok (.current, tail) := by
  cases fault with
  | signed sign | mixed sign => cases sign <;> simp [Position.read, leadingDigits, Sign.char]
  | bare based => exact absurd rfl based

theorem fault_of_read_position {s : List Char} {e : SelectionError}
    (h : Position.read (dropBlanks s) = .error e) : ReadFault s e := by
  have hsplit : s.takeWhile isBlank ++ dropBlanks s = s := List.takeWhile_append_dropWhile
  unfold Position.read at h
  split at h
  · next hdigits =>
    split at h
    · cases h
    · next hlarge =>
      obtain rfl := Except.error.inj h
      rw [← leadingDigits_append_afterDigits (dropBlanks s)] at hsplit
      exact .lineNumber hsplit.symm (areBlanks_takeWhile s) (areDigits_leadingDigits hdigits)
        stopsAt_dropWhile (boundedValue?_eq_none_iff.mp hlarge)
  · split at h
    · split at h <;> cases h
    all_goals cases h

theorem fault_of_read {s : List Char} {e : SelectionError} (h : read s = .error e) :
    ReadFault s e := by
  have hfront : s.takeWhile isBlank ++ dropBlanks s = s := List.takeWhile_append_dropWhile
  simp only [read] at h
  split at h
  · next hposition =>
    obtain rfl := Except.error.inj h
    exact fault_of_read_position hposition
  · next position after hposition =>
    have hgap : after.takeWhile isBlank ++ dropBlanks after = after :=
      List.takeWhile_append_dropWhile
    split at h
    · next hoffset =>
      obtain rfl := Except.error.inj h
      rcases Position.exists_spelling_of_read hposition with
        ⟨base, hs, basic, hdigits⟩ | ⟨source, form, rfl, hs, rfl⟩
      · obtain ⟨rfl, fault⟩ := fault_of_readOffset hoffset stopsAt_dropWhile
          (based_of_leadingDigits hs hdigits)
        refine .delta ?_ (areBlanks_takeWhile s) basic (areBlanks_takeWhile after) fault
        rw [hgap, ← hs, hfront]
      · cases hoffset
    · cases h

theorem read_of_fault {s : List Char} {e : SelectionError} (fault : ReadFault s e) :
    read s = .error e := by
  cases fault with
  | @lineNumber front digits rest split frontBlank run whole large =>
      have hfront : dropBlanks (front ++ (digits ++ rest)) = digits ++ rest :=
        dropWhile_append_of_stopsAt frontBlank (run.stopsAt isBlank_of_isDigit)
      have hlead : leadingDigits (digits ++ rest) = digits :=
        takeWhile_append_of_stopsAt run.digits whole
      have hposition : Position.read (digits ++ rest) =
          .error (.invalidLineNumber (String.ofList digits)) := by
        simp only [Position.read, hlead]
        rw [if_pos run.nonempty, boundedValue?_eq_none_iff.mpr large]
      rw [split, read, hfront, hposition]
  | @delta position front base gap tail split frontBlank basic gapBlank fault =>
      have hgap : dropBlanks (gap ++ tail) = tail :=
        dropWhile_append_of_stopsAt gapBlank fault.stopsAt_blank
      by_cases hne : base = []
      · subst hne
        have hfront : dropBlanks s = tail := by
          rw [split, dropBlanks, List.nil_append, List.dropWhile_append_of_pos frontBlank]
          exact hgap
        have htail : dropBlanks tail = tail := dropWhile_eq_self_of_stopsAt fault.stopsAt_blank
        rw [read, hfront, fault.read_position]
        simp only [htail, readOffset_of_fault s fault]
      · have hfront : dropBlanks s = base ++ (gap ++ tail) := by
          rw [split]
          exact dropWhile_append_of_stopsAt frontBlank (stopsAt_blank_of_spelling basic hne _)
        have hposition : Position.read (base ++ (gap ++ tail)) = .ok (position, gap ++ tail) := by
          apply read_position_of_stopsAt basic hne
          intro run
          exact stopsAt_digit_of_gap gapBlank (fault.stopsAt_digit run)
        rw [read, hfront, hposition]
        simp only [hgap, readOffset_of_fault s fault]

theorem read_eq_error_iff {s : List Char} {e : SelectionError} :
    read s = .error e ↔ ReadFault s e :=
  ⟨fault_of_read, read_of_fault⟩

end Address

namespace Range

/-! ### Ranges -/

/-- What can be wrong with a range expression, and what is reported. A fault of the start is found
before one of the separator, and that before one of the end. -/
inductive ReadFault (s : List Char) : SelectionError → Prop where
  | start {e : SelectionError} (fault : Address.ReadFault s e) : ReadFault s e
  | separator {start : Address} {t rest : List Char} {c : Char} (split : s = t ++ c :: rest)
      (first : start.Spelling t) (taken : Address.read s = .ok (start, c :: rest))
      (different : ∀ separator : Separator, c ≠ separator.char) :
      ReadFault s (.invalidRange (String.ofList s))
  | stop {start : Address} {t rest : List Char} {e : SelectionError} (separator : Separator)
      (split : s = t ++ separator.char :: rest) (first : start.Spelling t)
      (fault : Address.ReadFault rest e) : ReadFault s e
  | tail {start stop : Address} {t u tail : List Char} (separator : Separator)
      (split : s = t ++ separator.char :: (u ++ tail)) (first : start.Spelling t)
      (second : stop.Spelling u) (taken : Address.read (u ++ tail) = .ok (stop, tail))
      (left : tail ≠ []) : ReadFault s (.invalidRangeTail (String.ofList tail))

theorem ofChar?_eq_none_iff {c : Char} :
    Separator.ofChar? c = none ↔ ∀ separator : Separator, c ≠ separator.char := by
  rw [Option.eq_none_iff_forall_ne_some]
  simp only [ne_eq, ofChar?_eq_some_iff]

theorem fault_of_read {s : List Char} {e : SelectionError} (h : read s = .error e) :
    ReadFault s e := by
  unfold read at h
  split at h
  · next hstart =>
    obtain rfl := Except.error.inj h
    exact .start (Address.fault_of_read hstart)
  · cases h
  · next start c rest hstart =>
    obtain ⟨t, hsplit, first⟩ : ∃ t, s = t ++ c :: rest ∧ start.Spelling t := by
      rcases Address.exists_spelling_of_read hstart with hspelling | ⟨hnil, -⟩
      · exact hspelling
      · cases hnil
    split at h
    · next hc =>
      obtain rfl := Except.error.inj h
      exact .separator hsplit first hstart (ofChar?_eq_none_iff.mp hc)
    · next separator hc =>
      obtain rfl := ofChar?_eq_some_iff.mp hc
      split at h
      · next hstop =>
        obtain rfl := Except.error.inj h
        exact .stop separator hsplit first (Address.fault_of_read hstop)
      · cases h
      · next stop tail hne hstop =>
        obtain rfl := Except.error.inj h
        rcases Address.exists_spelling_of_read hstop with ⟨u, rfl, second⟩ | ⟨hnil, -⟩
        · exact .tail separator hsplit first second hstop hne
        · exact absurd hnil hne

theorem read_of_fault {s : List Char} {e : SelectionError} (fault : ReadFault s e) :
    read s = .error e := by
  cases fault with
  | start fault => rw [read, Address.read_of_fault fault]
  | separator split first taken different =>
      rw [read, taken]
      simp only [ofChar?_eq_none_iff.mpr different]
  | stop separator split first fault =>
      rw [split, read, Address.read_append first (Address.follows_separator separator _)]
      simp only [Separator.ofChar?_char, Address.read_of_fault fault]
  | @tail start stop t u tail separator split first second taken left =>
      rw [split, read, Address.read_append first (Address.follows_separator separator _)]
      obtain ⟨c, tail, rfl⟩ := List.exists_cons_of_ne_nil left
      simp only [Separator.ofChar?_char, taken]

/-- An expression is refused exactly for the first of its faults. -/
theorem parse_eq_error_iff {expr : String} {e : SelectionError} :
    parse expr = .error e ↔ ReadFault expr.toList e :=
  ⟨fault_of_read, read_of_fault⟩

end Range

end LineSelect
