import LineSelect.Pattern
import LineSelect.Proofs.Meaning
import LineSelect.Proofs.Spelling
import LineSelect.Replacement.Template

/-!
Why a replacement is refused. The units of a replacement and what can be wrong with one of them are
described without the functions that cut and expand; a replacement is refused exactly if one of its
units is bad, and what is reported is the first of these with the place of its backslash.
-/

namespace LineSelect.Replacement

open LineSelect.Text

/-- A replacement reads as units from left to right. After a backslash, a second digit belongs to
the first, and a name reaches up to the first closing bracket. -/
inductive ReadsAs : List Char → List Token → Prop where
  | nil : ReadsAs [] []
  | plain {c : Char} {s : List Char} {units : List Token} (plain : c ≠ '\\')
      (rest : ReadsAs s units) : ReadsAs (c :: s) (.plain c :: units)
  | digit {d : Char} {s : List Char} {units : List Token} (digit : d.isDigit = true)
      (stop : StopsAt Char.isDigit s) (rest : ReadsAs s units) :
      ReadsAs ('\\' :: d :: s) (.number [d] :: units)
  | digits {d e : Char} {s : List Char} {units : List Token} (first : d.isDigit = true)
      (second : e.isDigit = true) (rest : ReadsAs s units) :
      ReadsAs ('\\' :: d :: e :: s) (.number [d, e] :: units)
  | escape {c : Char} {s : List Char} {units : List Token} (digitFree : c.isDigit = false)
      (other : c ≠ 'g') (rest : ReadsAs s units) : ReadsAs ('\\' :: c :: s) (.escape c :: units)
  | named {name s : List Char} {units : List Token} (closed : '>' ∉ name)
      (rest : ReadsAs s units) :
      ReadsAs ('\\' :: 'g' :: '<' :: name ++ '>' :: s) (.named name :: units)
  | loneBackslash : ReadsAs ['\\'] [.loneBackslash]
  | unopenedName {s : List Char} {units : List Token} (unopened : s.head? ≠ some '<')
      (rest : ReadsAs s units) : ReadsAs ('\\' :: 'g' :: s) (.unopenedName :: units)
  | unclosedName {s : List Char} (unclosed : '>' ∉ s) :
      ReadsAs ('\\' :: 'g' :: '<' :: s) [.unclosedName s]

section Reading

variable {s : List Char} {units : List Token}

theorem tokens_unopenedName (h : s.head? ≠ some '<') :
    tokens ('\\' :: 'g' :: s) = .unopenedName :: tokens s := by
  rw [tokens.eq_4]
  rintro rest rfl
  exact h rfl

theorem tokens_unclosedName (h : '>' ∉ s) :
    tokens ('\\' :: 'g' :: '<' :: s) = [.unclosedName s] := by
  have hdrop : s.dropWhile (fun x => decide (x ≠ '>')) = [] := by
    apply List.dropWhile_eq_nil_iff.mpr
    intro x hx
    simpa using fun heq : x = '>' => h (heq ▸ hx)
  rw [tokens.eq_3]
  split
  · rfl
  · next x after hcons =>
    rw [hdrop] at hcons
    cases hcons

theorem readsAs_tokens (s : List Char) : ReadsAs s (tokens s) := by
  fun_induction tokens s with
  | case1 => exact .nil
  | case2 => exact .loneBackslash
  | case3 rest hrest =>
      apply ReadsAs.unclosedName
      intro hmem
      simpa using List.dropWhile_eq_nil_iff.mp hrest _ hmem
  | case4 rest x after hrest _ ih =>
      have hnamed := ReadsAs.named (notMem_takeWhile_ne (s := rest)) ih
      rwa [List.cons_append, List.cons_append, List.cons_append,
        ← eq_append_cons_of_dropWhile hrest] at hnamed
  | case5 rest hrest ih =>
      apply ReadsAs.unopenedName _ ih
      intro hhead
      obtain ⟨after, rfl⟩ := List.head?_eq_some_iff.mp hhead
      exact hrest after rfl
  | case6 c _ hc d rest hd _ ih => exact .digits hc hd ih
  | case7 c _ hc d rest hd _ ih => exact .digit hc (by simpa using hd) ih
  | case8 c _ hc => exact .digit hc stopsAt_nil .nil
  | case9 c rest _ hg hc ih => exact .escape (by simpa using hc) hg ih
  | case10 c rest hend _ _ hother ih =>
      apply ReadsAs.plain _ ih
      rintro rfl
      cases rest with
      | nil => exact hend rfl rfl
      | cons d rest => exact hother d rest rfl rfl

theorem ReadsAs.tokens_eq (h : ReadsAs s units) : tokens s = units := by
  induction h with
  | nil => simp [tokens]
  | plain hplain rest ih => rw [tokens_plain hplain, ih]
  | digit hd hstop rest ih => rw [tokens_digit hd hstop, ih]
  | digits hd he rest ih => rw [tokens_digits hd he, ih]
  | escape hc hother rest ih => rw [tokens_escape hc hother, ih]
  | named closed rest ih => rw [tokens_named closed, ih]
  | loneBackslash => simp [tokens]
  | unopenedName unopened rest ih => rw [tokens_unopenedName unopened, ih]
  | unclosedName unclosed => exact tokens_unclosedName unclosed

/-- Every replacement reads as units in exactly one way. -/
theorem readsAs_iff : ReadsAs s units ↔ units = tokens s := by
  constructor
  · intro h
    exact h.tokens_eq.symm
  · rintro rfl
    exact readsAs_tokens s

end Reading

/-! ### References -/

/-- A reference spells a number, with or without a plus sign in front. Leading zeros are allowed. -/
def SpellsNumber (reference : List Char) (n : Nat) : Prop :=
  ∃ digits, (reference = digits ∨ reference = '+' :: digits) ∧ AreDigits digits ∧
    digitsValue digits = n ∧ n < groupNumberLimit

/-- A reference means a group of a pattern whose groups have these names: the number of a group, or,
if it is no number, a name. -/
def MeansGroup (names : List (Option String)) (reference : List Char) : Prop :=
  (∃ n, SpellsNumber reference n ∧ n < names.length) ∨
    (∀ n, ¬ SpellsNumber reference n) ∧ some (String.ofList reference) ∈ names

section References

variable {names : List (Option String)} {reference digits : List Char} {n : Nat}

theorem areDigits_iff : AreDigits digits ↔ digits ≠ [] ∧ digits.all Char.isDigit = true := by
  rw [List.all_eq_true]
  exact ⟨fun h => ⟨h.nonempty, h.digits⟩, fun h => ⟨h.1, h.2⟩⟩

theorem groupNumber?_plus : groupNumber? ('+' :: digits) = some n ↔
    AreDigits digits ∧ digitsValue digits = n ∧ n < groupNumberLimit := by
  simp only [groupNumber?, boundedValue?, Option.ite_none_right_eq_some, areDigits_iff,
    Option.some.injEq]
  grind

theorem groupNumber?_of_head?_ne (h : reference.head? ≠ some '+') :
    groupNumber? reference = some n ↔
      AreDigits reference ∧ digitsValue reference = n ∧ n < groupNumberLimit := by
  unfold groupNumber?
  split
  · simp at h
  · simp only [boundedValue?, Option.ite_none_right_eq_some, areDigits_iff, Option.some.injEq]
    grind

theorem head?_ne_plus_of_areDigits (h : AreDigits digits) : digits.head? ≠ some '+' := by
  intro hhead
  obtain ⟨rest, rfl⟩ := List.head?_eq_some_iff.mp hhead
  have hplus := h.digits '+' (by simp)
  cases hplus

theorem groupNumber?_eq_some_iff : groupNumber? reference = some n ↔ SpellsNumber reference n := by
  constructor
  · intro h
    by_cases hhead : reference.head? = some '+'
    · obtain ⟨digits, rfl⟩ := List.head?_eq_some_iff.mp hhead
      exact ⟨digits, .inr rfl, groupNumber?_plus.mp h⟩
    · exact ⟨reference, .inl rfl, (groupNumber?_of_head?_ne hhead).mp h⟩
  · rintro ⟨digits, rfl | rfl, run, hvalue⟩
    · exact (groupNumber?_of_head?_ne (head?_ne_plus_of_areDigits run)).mpr ⟨run, hvalue⟩
    · exact groupNumber?_plus.mpr ⟨run, hvalue⟩

theorem isKnownGroup_iff : isKnownGroup names reference = true ↔ MeansGroup names reference := by
  simp only [MeansGroup, ← groupNumber?_eq_some_iff]
  unfold isKnownGroup
  split
  · next index hindex => simp [hindex]
  · next hnone => simp [hnone]

end References

/-! ### Faults -/

/-- What can be wrong with a unit that starts at byte `position`, and what is said about it. -/
inductive UnitFault (names : List (Option String)) (position : Nat) : Token → String → Prop where
  | loneBackslash : UnitFault names position .loneBackslash
      ("bad escape (end of pattern) at position " ++ position.repr)
  | unopenedName : UnitFault names position .unopenedName
      ("missing < at position " ++ (position + 2).repr)
  | namelessName : UnitFault names position (.named [])
      ("missing group name at position " ++ (position + 3).repr)
  | unclosedName {rest : List Char} : UnitFault names position (.unclosedName rest)
      ("missing >, unterminated name at position " ++ (position + 3).repr)
  | unknownNumber {digits : List Char} (unknown : ¬ MeansGroup names digits) :
      UnitFault names position (.number digits)
      ("invalid group reference " ++ String.ofList digits ++ " at position " ++
        (position + 1).repr)
  | unknownName {name : List Char} (nonempty : name ≠ []) (unknown : ¬ MeansGroup names name) :
      UnitFault names position (.named name)
      ("invalid group reference " ++ String.ofList name ++ " at position " ++ (position + 1).repr)

/-- Something is wrong with a unit; where it stands makes no difference. -/
def IsBad (names : List (Option String)) (unit : Token) : Prop :=
  ∃ position message, UnitFault names position unit message

section Faults

variable {names : List (Option String)} {position : Nat} {unit : Token} {units : List Token}
  {e : ReplacementError}

theorem expandReference_eq_error_iff {reference : List Char} :
    expandReference names position reference = .error e ↔
      ¬ MeansGroup names reference ∧
        e = .unknownGroup (String.ofList reference) (position + 1) := by
  rw [← isKnownGroup_iff, expandReference]
  split
  · next hknown => simp [hknown]
  · next hunknown => simp [hunknown, eq_comm]

theorem exists_expand_plain (names : List (Option String)) (position : Nat) (c : Char) :
    ∃ part, (Token.plain c).expand names position = .ok part := by
  unfold Token.expand
  split <;> simp_all

theorem exists_expand_escape (names : List (Option String)) (position : Nat) (c : Char) :
    ∃ part, (Token.escape c).expand names position = .ok part := by
  unfold Token.expand
  split <;> simp_all

theorem unitFault_of_expand (h : unit.expand names position = .error e) :
    UnitFault names position unit e.message := by
  cases unit with
  | plain c =>
      obtain ⟨part, hpart⟩ := exists_expand_plain names position c
      rw [hpart] at h
      cases h
  | escape c =>
      obtain ⟨part, hpart⟩ := exists_expand_escape names position c
      rw [hpart] at h
      cases h
  | number digits =>
      obtain ⟨unknown, rfl⟩ := expandReference_eq_error_iff.mp h
      exact .unknownNumber unknown
  | named name =>
      rcases name with _ | ⟨c, name⟩
      · cases h
        exact .namelessName
      · obtain ⟨unknown, rfl⟩ := expandReference_eq_error_iff.mp h
        exact .unknownName (List.cons_ne_nil c name) unknown
  | loneBackslash =>
      cases h
      exact .loneBackslash
  | unopenedName =>
      cases h
      exact .unopenedName
  | unclosedName rest =>
      cases h
      exact .unclosedName

theorem exists_error_of_isBad (h : IsBad names unit) (position : Nat) :
    ∃ e, unit.expand names position = .error e := by
  obtain ⟨_, _, fault⟩ := h
  cases fault with
  | unknownNumber unknown => exact ⟨_, expandReference_eq_error_iff.mpr ⟨unknown, rfl⟩⟩
  | @unknownName name nonempty unknown =>
      obtain ⟨c, name, rfl⟩ := List.exists_cons_of_ne_nil nonempty
      exact ⟨_, expandReference_eq_error_iff.mpr ⟨unknown, rfl⟩⟩
  | _ => exact ⟨_, rfl⟩

theorem not_isBad_of_expand {part : List Char} (h : unit.expand names position = .ok part) :
    ¬ IsBad names unit := by
  intro bad
  obtain ⟨e, he⟩ := exists_error_of_isBad bad position
  rw [h] at he
  cases he

theorem exists_fault_of_expandTokens (h : expandTokens names position units = .error e) :
    ∃ before bad after, units = before ++ bad :: after ∧ (∀ unit ∈ before, ¬ IsBad names unit) ∧
      UnitFault names (position + byteLength (before.flatMap Token.spelling)) bad e.message := by
  induction units generalizing position with
  | nil => cases h
  | cons first rest ih =>
      rw [expandTokens] at h
      split at h
      · next hfirst =>
        obtain rfl := Except.error.inj h
        exact ⟨[], first, rest, rfl, by simp, unitFault_of_expand hfirst⟩
      · next part hpart =>
        split at h
        · next hrest =>
          obtain rfl := Except.error.inj h
          obtain ⟨before, bad, after, rfl, hgood, fault⟩ := ih hrest
          refine ⟨first :: before, bad, after, rfl, ?_, ?_⟩
          · exact List.forall_mem_cons.mpr ⟨not_isBad_of_expand hpart, hgood⟩
          · rwa [List.flatMap_cons, byteLength_append, ← Nat.add_assoc]
        · cases h

theorem exists_spelling_of_isBad (h : IsBad names unit) : ∃ tail, unit.spelling = '\\' :: tail := by
  obtain ⟨_, _, fault⟩ := h
  cases fault <;> exact ⟨_, rfl⟩

theorem exists_error_of_mem (hmem : unit ∈ units) (bad : IsBad names unit) (position : Nat) :
    ∃ e, expandTokens names position units = .error e := by
  induction units generalizing position with
  | nil => cases hmem
  | cons first rest ih =>
      rw [expandTokens]
      split
      · next e _ => exact ⟨e, rfl⟩
      · next part hpart =>
        rcases List.mem_cons.mp hmem with rfl | hmem
        · exact absurd bad (not_isBad_of_expand hpart)
        · obtain ⟨e, he⟩ := ih hmem (position + byteLength first.spelling)
          exact ⟨e, by rw [he]⟩

theorem expand_eq_error_iff {replacement : String} :
    Replacement.expand names replacement = .error e ↔
      expandTokens names 0 (tokens replacement.toList) = .error e := by
  rw [Replacement.expand]
  split <;> simp_all

end Faults

/-- When a replacement is refused, in three parts. It reads as units in exactly one way. It is
refused if and only if one of these is bad for the pattern. And what is reported is what is wrong
with the first bad one, seen from the byte where its backslash stands. -/
theorem expand_fails_at_leftmost_bad (pattern : Pattern) (replacement : String) :
    ∃ units, (∀ others, ReadsAs replacement.toList others ↔ others = units) ∧
      ((∃ e, Replacement.expand pattern.groupNames replacement = .error e) ↔
        ∃ unit ∈ units, IsBad pattern.groupNames unit) ∧
      ∀ e, Replacement.expand pattern.groupNames replacement = .error e →
        ∃ before bad after tail, units = before ++ bad :: after ∧
          (∀ unit ∈ before, ¬ IsBad pattern.groupNames unit) ∧
          replacement.toList = before.flatMap Token.spelling ++ '\\' :: tail ∧
          UnitFault pattern.groupNames (byteLength (before.flatMap Token.spelling)) bad
            e.message := by
  refine ⟨tokens replacement.toList, fun others => readsAs_iff, ?_, ?_⟩
  · simp only [expand_eq_error_iff]
    constructor
    · rintro ⟨e, he⟩
      obtain ⟨before, bad, after, hunits, -, fault⟩ := exists_fault_of_expandTokens he
      exact ⟨bad, by simp [hunits], _, _, fault⟩
    · rintro ⟨unit, hmem, bad⟩
      exact exists_error_of_mem hmem bad 0
  · intro e he
    obtain ⟨before, bad, after, hunits, hgood, fault⟩ :=
      exists_fault_of_expandTokens (expand_eq_error_iff.mp he)
    obtain ⟨tail, htail⟩ := exists_spelling_of_isBad ⟨_, _, fault⟩
    refine ⟨before, bad, after, tail ++ after.flatMap Token.spelling, hunits, hgood, ?_, ?_⟩
    · rw [← flatMap_spelling_tokens replacement.toList, hunits, List.flatMap_append,
        List.flatMap_cons, htail, List.cons_append]
    · rwa [Nat.zero_add] at fault

/-- Both digits belong to the reference; the letter before its backslash takes two bytes. -/
example : Replacement.expand [none, none] "é\\10\\" = .error (.unknownGroup "10" 3) := by
  decide +kernel

end LineSelect.Replacement
