import LineSelect.Proofs.ReadingFaults

/-!
Canonical forms: which ranges come back when their written form is read. The canonical form of a
range is one of its spellings, unless the offset has no positive counterpart in a machine word or a
pattern cannot stand between slashes; and reading never gives a range of that kind.
-/

namespace LineSelect

open LineSelect.Text

/-- No text has as many bytes as this, two to the power of 63, in the memory of a 64-bit machine. -/
def Text.sizeLimit : Nat := 0x8000000000000000

theorem length_le_utf8ByteSize (s : List Char) : s.length ≤ (String.ofList s).utf8ByteSize := by
  induction s with
  | nil => simp
  | cons c s ih =>
      have hsplit : String.ofList (c :: s) = String.singleton c ++ String.ofList s := by
        apply String.toList_inj.mp
        simp
      rw [hsplit, String.utf8ByteSize_append, String.utf8ByteSize_singleton, List.length_cons]
      have := c.utf8Size_pos
      omega

theorem areDigits_repr (n : Nat) : AreDigits n.repr.toList := by
  rw [Nat.toList_repr]
  constructor
  · exact Nat.toDigits_ne_nil
  · intro c hc
    exact Nat.isDigit_of_mem_toDigits (by decide) (by decide) hc

theorem areBlanks_nil : AreBlanks [] := by
  simp [AreBlanks]

namespace Address

/-- The numbers of an address are numbers of a 64-bit machine: the line without a sign, the offset
with one. -/
structure FitsWords (a : Address) : Prop where
  number : ∀ n, a.position = .line n → n < lineNumberLimit
  low : -(offsetLimit : Int) ≤ a.offset
  high : a.offset < offsetLimit

/-- The canonical form of an address can be read: the offset is not the least number of a word, and
a pattern is not empty and has no slash. -/
structure IsRepresentable (a : Address) : Prop where
  offset : a.offset ≠ -(offsetLimit : Int)
  source : ∀ p, a.position = .pattern p → IsSource p.toList

theorem toList_signedText_of_pos {n : Int} (h : 0 < n) :
    (signedText n).toList = '+' :: n.natAbs.repr.toList := by
  rw [signedText, if_neg (by omega), if_neg (by omega), String.toList_append]
  rfl

theorem toList_signedText_of_neg {n : Int} (h : n < 0) :
    (signedText n).toList = '-' :: n.natAbs.repr.toList := by
  rw [signedText, if_neg (by omega), if_pos h, String.toList_append]
  rfl

theorem offsetSpelling_signedText (base : List Char) {n : Int} (small : n.natAbs < offsetLimit) :
    OffsetSpelling base [] n (signedText n).toList := by
  have spelled (sign : Sign) (hn : sign.apply n.natAbs = n) :
      OffsetSpelling base [] n (sign.char :: n.natAbs.repr.toList) := by
    have hsmall : digitsValue n.natAbs.repr.toList < offsetLimit := by
      rwa [digitsValue_repr]
    have : OffsetSpelling base [] _ (sign.char :: ([] ++ n.natAbs.repr.toList)) :=
      .number sign areBlanks_nil (areDigits_repr n.natAbs) hsmall
    rwa [digitsValue_repr, hn] at this
  rcases Int.lt_trichotomy n 0 with hn | rfl | hn
  · rw [toList_signedText_of_neg hn]
    exact spelled .minus (by simp only [Sign.apply]; omega)
  · exact .nothing
  · rw [toList_signedText_of_pos hn]
    exact spelled .plus (by simp only [Sign.apply]; omega)

theorem position_spelling_text {a : Address} (fits : a.FitsWords)
    (source : ∀ p, a.position = .pattern p → IsSource p.toList) :
    a.position.Spelling a.position.text.toList := by
  cases hposition : a.position with
  | line n =>
      have := Position.Spelling.line (areDigits_repr n)
        (by rw [digitsValue_repr]; exact fits.number n hposition)
      rwa [digitsValue_repr] at this
  | pattern p =>
      have := Position.Spelling.pattern (source p hposition)
      rw [String.ofList_toList] at this
      simpa [Position.text] using this
  | last => exact .last
  | current => exact .dot

theorem spelling_text {a : Address} (fits : a.FitsWords) (representable : a.IsRepresentable) :
    a.Spelling a.text.toList := by
  have hoffset := representable.offset
  have hlow := fits.low
  have hhigh := fits.high
  have := Spelling.parts areBlanks_nil (position_spelling_text fits representable.source)
    areBlanks_nil (offsetSpelling_signedText _ (n := a.offset) (by omega))
  simpa [text] using this

theorem readFault_text_of_least {a : Address} (fits : a.FitsWords)
    (source : ∀ p, a.position = .pattern p → IsSource p.toList)
    (least : a.offset = -(offsetLimit : Int)) {rest : List Char}
    (hrest : StopsAt Char.isDigit rest) :
    ReadFault (a.text.toList ++ rest) (.invalidDelta (String.ofList (a.text.toList ++ rest))) := by
  -- The sign is read first, and the digits behind it are too large by one.
  have hvalue : digitsValue a.offset.natAbs.repr.toList = offsetLimit := by
    rw [digitsValue_repr, least]
    rfl
  have fault : OffsetFault a.position.text.toList []
      ('-' :: ([] ++ (a.offset.natAbs.repr.toList ++ rest))) :=
    .signed .minus areBlanks_nil (areDigits_repr _) hrest hvalue.ge
  refine .delta ?_ areBlanks_nil (position_spelling_text fits source) areBlanks_nil fault
  rw [text, String.toList_append,
    toList_signedText_of_neg (by rw [least]; decide)]
  simp

theorem Spelling.source {a : Address} {s : List Char} (spelling : a.Spelling s) {p : String}
    (hp : a.position = .pattern p) : IsSource p.toList := by
  cases spelling with
  | parts frontBlank basic gapBlank ending =>
      obtain rfl := hp
      cases basic with
      | pattern form => simpa using form

theorem FinalSpelling.source {a : Address} {s : List Char} (spelling : a.FinalSpelling s)
    {p : String} (hp : a.position = .pattern p) : IsSource p.toList := by
  cases spelling with
  | closed spelling => exact spelling.source hp
  | unclosed frontBlank form =>
      obtain rfl := Position.pattern.inj hp
      simpa using form

theorem OffsetSpelling.natAbs_lt {base gap tail : List Char} {offset : Int}
    (ending : OffsetSpelling base gap offset tail) (short : tail.length < offsetLimit) :
    offset.natAbs < offsetLimit := by
  cases ending with
  | nothing => decide
  | number sign blank run small => cases sign <;> simp only [Sign.apply] <;> omega
  | bare based apart run small => omega
  | @signs sign run alike =>
      have hcount : run.count sign.char ≤ run.length := List.count_le_length
      rw [List.length_cons] at short
      cases sign <;> simp only [Sign.apply] at * <;> omega

theorem Spelling.fits {a : Address} {s : List Char} (spelling : a.Spelling s)
    (short : s.length < offsetLimit) : a.FitsWords ∧ a.IsRepresentable := by
  have source {p : String} (hp : a.position = .pattern p) := spelling.source hp
  cases spelling with
  | parts frontBlank basic gapBlank ending =>
      have hoffset := ending.natAbs_lt (by simp only [List.length_append] at short; omega)
      refine ⟨⟨?_, by dsimp only; omega, by dsimp only; omega⟩,
        ⟨by dsimp only; omega, fun p => source⟩⟩
      intro n hn
      obtain rfl := hn
      cases basic with
      | line run small => exact small

theorem FinalSpelling.fits {a : Address} {s : List Char} (spelling : a.FinalSpelling s)
    (short : s.length < offsetLimit) : a.FitsWords ∧ a.IsRepresentable := by
  have source {p : String} (hp : a.position = .pattern p) := spelling.source hp
  cases spelling with
  | closed spelling => exact spelling.fits short
  | unclosed frontBlank form =>
      exact ⟨⟨by rintro n ⟨⟩, by dsimp only; decide, by dsimp only; decide⟩,
        ⟨by dsimp only; decide, fun p => source⟩⟩

end Address

namespace Range

theorem toList_text_span (start stop : Address) (separator : Separator) :
    (text ⟨start, some (separator, stop)⟩).toList =
      start.text.toList ++ separator.char :: stop.text.toList := by
  simp [text]

theorem spelling_text {r : Range} (fits : ∀ a ∈ r.addresses, a.FitsWords)
    (representable : ∀ a ∈ r.addresses, a.IsRepresentable) : r.Spelling r.text.toList := by
  obtain ⟨start, _ | ⟨separator, stop⟩⟩ := r
  · rw [forall_addresses_single] at fits representable
    exact .single (.closed (Address.spelling_text fits representable))
  · rw [forall_addresses_span] at fits representable
    rw [toList_text_span]
    exact .span separator (Address.spelling_text fits.1 representable.1)
      (.closed (Address.spelling_text fits.2 representable.2))

theorem Spelling.source {r : Range} {s : List Char} (spelling : r.Spelling s) :
    ∀ a ∈ r.addresses, ∀ p, a.position = .pattern p → IsSource p.toList := by
  cases spelling with
  | single spelling =>
      rw [forall_addresses_single]
      exact fun p => spelling.source
  | span separator first second =>
      rw [forall_addresses_span]
      exact ⟨fun p => first.source, fun p => second.source⟩

theorem Spelling.fits {r : Range} {s : List Char} (spelling : r.Spelling s)
    (short : s.length < Address.offsetLimit) :
    ∀ a ∈ r.addresses, a.FitsWords ∧ a.IsRepresentable := by
  cases spelling with
  | single spelling =>
      rw [forall_addresses_single]
      exact spelling.fits short
  | span separator first second =>
      rw [List.length_append, List.length_cons] at short
      rw [forall_addresses_span]
      exact ⟨first.fits (by omega), second.fits (by omega)⟩

theorem offset_ne_least_of_read {r : Range} (fits : ∀ a ∈ r.addresses, a.FitsWords)
    (h : read r.text.toList = .ok r) :
    ∀ a ∈ r.addresses, a.offset ≠ -(Address.offsetLimit : Int) := by
  have source := (spelling_of_read h).source
  obtain ⟨start, _ | ⟨separator, stop⟩⟩ := r
  · rw [forall_addresses_single] at fits source ⊢
    intro least
    have fault := Address.readFault_text_of_least fits source least stopsAt_nil
    rw [List.append_nil] at fault
    rw [text, read_of_fault (.start fault)] at h
    cases h
  · rw [forall_addresses_span] at fits source ⊢
    rw [toList_text_span] at h
    have hstart : start.offset ≠ -(Address.offsetLimit : Int) := by
      intro least
      have hstop : StopsAt Char.isDigit (separator.char :: stop.text.toList) :=
        (Address.follows_separator separator _).stopsAt rfl rfl
      rw [read_of_fault (.start (Address.readFault_text_of_least fits.1 source.1 least hstop))] at h
      cases h
    refine ⟨hstart, fun least => ?_⟩
    have first := Address.spelling_text fits.1 ⟨hstart, source.1⟩
    have fault := Address.readFault_text_of_least fits.2 source.2 least stopsAt_nil
    rw [List.append_nil] at fault
    rw [read_of_fault (.stop separator rfl first fault)] at h
    cases h

/-- Reads an expression and writes the range in canonical form. -/
def reprint (expr : String) : Except SelectionError String :=
  (parse expr).map text

theorem reprint_eq_ok_iff {expr s : String} :
    reprint expr = .ok s ↔ ∃ r, parse expr = .ok r ∧ r.text = s := by
  rw [reprint]
  cases parse expr <;> simp [Except.map]

theorem fits_of_parse {expr : String} {r : Range} (short : expr.utf8ByteSize < sizeLimit)
    (h : parse expr = .ok r) : ∀ a ∈ r.addresses, a.FitsWords ∧ a.IsRepresentable := by
  apply (spelling_of_read h).fits
  have := length_le_utf8ByteSize expr.toList
  rw [String.ofList_toList] at this
  exact this.trans_lt short

theorem parse_text {r : Range} (fits : ∀ a ∈ r.addresses, a.FitsWords ∧ a.IsRepresentable) :
    parse r.text = .ok r :=
  read_of_spelling (spelling_text (fun a ha => (fits a ha).1) fun a ha => (fits a ha).2)

/-- A range of machine numbers comes back from its canonical form exactly if each of its addresses
can be written. An expression that fits into memory is only ever read as such a range, so its
range comes back, and writing the range again changes nothing. -/
theorem parse_text_iff_isRepresentable :
    (∀ r : Range, (∀ a ∈ r.addresses, a.FitsWords) →
      (parse r.text = .ok r ↔ ∀ a ∈ r.addresses, a.IsRepresentable)) ∧
    (∀ (expr : String) (r : Range), expr.utf8ByteSize < sizeLimit → parse expr = .ok r →
      (∀ a ∈ r.addresses, a.FitsWords ∧ a.IsRepresentable) ∧ parse r.text = .ok r) ∧
    ∀ expr s : String, expr.utf8ByteSize < sizeLimit → reprint expr = .ok s →
      reprint s = .ok s := by
  refine ⟨fun r fits => ⟨fun h => ?_, fun representable => ?_⟩, fun expr r short h => ?_,
    fun expr s short h => ?_⟩
  · intro a ha
    exact ⟨offset_ne_least_of_read fits h a ha, (spelling_of_read h).source a ha⟩
  · exact parse_text fun a ha => ⟨fits a ha, representable a ha⟩
  · have fits := fits_of_parse short h
    exact ⟨fits, parse_text fits⟩
  · obtain ⟨r, hparse, rfl⟩ := reprint_eq_ok_iff.mp h
    exact reprint_eq_ok_iff.mpr ⟨r, parse_text (fits_of_parse short hparse), rfl⟩

theorem parse_text_extreme_offsets :
    (parse (text ⟨⟨.pattern ",;+ 1", 0x7FFFFFFFFFFFFFFF⟩, some (.semicolon, ⟨.last, -1⟩)⟩) =
        .ok ⟨⟨.pattern ",;+ 1", 0x7FFFFFFFFFFFFFFF⟩, some (.semicolon, ⟨.last, -1⟩)⟩ ∧
      parse (text ⟨⟨.current, -0x8000000000000000⟩, none⟩) ≠
        .ok ⟨⟨.current, -0x8000000000000000⟩, none⟩) ∧
    reprint "007 ; - - " = .ok "7;.-2" ∧ reprint "7;.-2" = .ok "7;.-2" ∧
    parse (text ⟨⟨.line 7, 0⟩, some (.semicolon, ⟨.current, -2⟩)⟩) =
      .ok ⟨⟨.line 7, 0⟩, some (.semicolon, ⟨.current, -2⟩)⟩ := by
  obtain ⟨hiff, hparse, hreprint⟩ := parse_text_iff_isRepresentable
  have hread : reprint "007 ; - - " = .ok "7;.-2" := by decide +kernel
  refine ⟨⟨?_, ?_⟩, hread, hreprint _ _ (by decide) hread,
    (hparse "007 ; - - " _ (by decide) (by decide +kernel)).2⟩
  · apply (hiff _ ?_).mpr
    · rw [forall_addresses_span]
      exact ⟨⟨by decide, by rintro p ⟨⟩; exact ⟨by decide, by simp⟩⟩, ⟨by decide, by rintro p ⟨⟩⟩⟩
    · rw [forall_addresses_span]
      exact ⟨⟨by rintro n ⟨⟩, by decide, by decide⟩, ⟨by rintro n ⟨⟩, by decide, by decide⟩⟩
  · intro h
    have fits : ∀ a ∈ addresses ⟨⟨.current, -0x8000000000000000⟩, none⟩, a.FitsWords := by
      rw [forall_addresses_single]
      exact ⟨by rintro n ⟨⟩, by decide, by decide⟩
    have := (hiff _ fits).mp h
    rw [forall_addresses_single] at this
    exact this.offset (by decide)

end Range

end LineSelect
