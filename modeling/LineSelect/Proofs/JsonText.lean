import LineSelect.Json.Read
import LineSelect.Proofs.Run

/-!
JSON texts: a value without fractions and exponents comes back when its text over several lines is
read.
-/

namespace LineSelect.Json

open LineSelect.Text
open LineSelect.Unicode

/-- Every number in a value is a whole number. -/
inductive IsIntegral : Json → Prop where
  | null : IsIntegral .null
  | bool (value : Bool) : IsIntegral (.bool value)
  | int (value : Int) : IsIntegral (.int value)
  | str (value : String) : IsIntegral (.str value)
  | arr {items : List Json} (each : ∀ item ∈ items, IsIntegral item) : IsIntegral (.arr items)
  | obj {fields : List (String × Json)} (each : ∀ field ∈ fields, IsIntegral field.2) :
      IsIntegral (.obj fields)

/-- Blanks and line feeds that may stand between the parts of a text. -/
def IsGap (s : List Char) : Prop :=
  ∀ c ∈ s, isSpace c = true

/-- A line feed and the blanks before what stands on the next line. -/
def lineStart (level : Nat) : List Char :=
  '\n' :: (indent level).toList

theorem isGap_lineStart (level : Nat) : IsGap (lineStart level) := by
  intro c hc
  simp only [lineStart, indent, String.toList_ofList, List.mem_cons, List.mem_replicate] at hc
  rcases hc with rfl | ⟨-, rfl⟩ <;> rfl

theorem dropSpace_append {gap s : List Char} (hgap : IsGap gap) :
    dropSpace (gap ++ s) = dropSpace s := by
  rw [dropSpace, dropSpace, List.dropWhile_append_of_pos hgap]

theorem dropSpace_cons {c : Char} {s : List Char} (h : isSpace c = false) :
    dropSpace (c :: s) = c :: s := by
  simp [dropSpace, h]

theorem isNumberChar_of_isSpace {c : Char} (h : isSpace c = true) : isNumberChar c = false := by
  simp only [isSpace, Bool.or_eq_true, beq_iff_eq] at h
  rcases h with ((rfl | rfl) | rfl) | rfl <;> rfl

theorem stopsAt_gap_append {gap s : List Char} {c : Char} (hgap : IsGap gap)
    (hc : isNumberChar c = false) : StopsAt isNumberChar (gap ++ c :: s) := by
  cases gap with
  | nil => simpa using hc
  | cons d gap => simpa using isNumberChar_of_isSpace (hgap d (by simp))

theorem dropSpace_dropSpace (s : List Char) : dropSpace (dropSpace s) = dropSpace s :=
  dropWhile_eq_self_of_stopsAt stopsAt_dropWhile

section Congruence

variable {s t : List Char} {fuel : Nat}

theorem readValue?_congr (h : dropSpace s = dropSpace t) :
    readValue? fuel s = readValue? fuel t := by
  cases fuel with
  | zero => rfl
  | succ fuel => rw [readValue?, readValue?, h]

theorem readItems?_congr (h : dropSpace s = dropSpace t) :
    readItems? fuel s = readItems? fuel t := by
  cases fuel with
  | zero => rfl
  | succ fuel => rw [readItems?, readItems?, readValue?_congr h]

theorem readFields?_congr (h : dropSpace s = dropSpace t) :
    readFields? fuel s = readFields? fuel t := by
  cases fuel with
  | zero => rfl
  | succ fuel => rw [readFields?, readFields?, h]

theorem readValue?_gap {gap : List Char} (hgap : IsGap gap) :
    readValue? fuel (gap ++ s) = readValue? fuel s :=
  readValue?_congr (dropSpace_append hgap)

end Congruence

section Strings

theorem charOfNat?_toNat (c : Char) : charOfNat? c.toNat = some c := by
  have hvalid : c.toNat.isValidChar := c.valid
  rw [charOfNat?, dif_pos hvalid]
  rfl

theorem readHex?_hexDigits {n : Nat} (h : n < 0x20) (rest : List Char) :
    readHex? (hexDigits n ++ rest) = some (n, rest) := by
  have hdigits : ∀ n < 0x20, (hexDigits n).length = 4 ∧
      (hexDigits n).all (CodePoints.hexDigitValue? · |>.isSome) ∧
      CodePoints.hexValue (hexDigits n) = n := by
    decide
  obtain ⟨hlength, hall, hvalue⟩ := hdigits n h
  match hexDigits n, hlength, hall, hvalue with
  | [a, b, c, d], _, hall, hvalue => simp [readHex?, hall, hvalue]

theorem readChar?_escapedChar (c : Char) (rest : List Char) :
    readChar? (escapedChar c ++ rest) = some (c, rest) := by
  unfold escapedChar
  split
  case h_8 _ _ hbackslash _ _ _ _ _ =>
    split
    · next hcontrol =>
      have hunit : readUnit? (hexDigits c.toNat ++ rest) = some (c, rest) := by
        have hlow : ¬(0xD800 ≤ c.toNat && c.toNat < 0xDC00) = true := by
          simp only [Bool.and_eq_true, decide_eq_true_eq]
          omega
        simp only [readUnit?, readHex?_hexDigits hcontrol, Option.bind_eq_bind, Option.bind_some,
          if_neg hlow, charOfNat?_toNat]
        rfl
      simpa [readChar?] using hunit
    · next hplain =>
      rw [List.singleton_append, readChar?]
      · rw [if_neg hplain]
      · rintro _ _ rfl
        exact absurd rfl hbackslash
  all_goals rfl

theorem escapedChar_ne_quote (c : Char) (s rest : List Char) :
    escapedChar c ++ s ≠ '"' :: rest := by
  unfold escapedChar
  split
  case h_8 =>
    split
    · simp
    · simp_all
  all_goals simp

theorem readString?_step {acc s rest : List Char} {c : Char} (fuel : Nat)
    (hs : ∀ rest, s ≠ '"' :: rest) (hread : readChar? s = some (c, rest)) :
    readString? (fuel + 1) acc s = readString? fuel (c :: acc) rest := by
  rw [readString?]
  · rw [hread]
    rfl
  · exact hs

theorem readString?_escaped (cs acc rest : List Char) {fuel : Nat} (h : cs.length < fuel) :
    readString? fuel acc (cs.flatMap escapedChar ++ '"' :: rest) =
      some (String.ofList (acc.reverse ++ cs), rest) := by
  induction cs generalizing acc fuel with
  | nil =>
      obtain ⟨fuel, rfl⟩ := Nat.exists_eq_add_of_lt h
      simp [readString?]
  | cons c cs ih =>
      cases fuel with
      | zero => cases h
      | succ fuel =>
          rw [List.flatMap_cons, List.append_assoc,
            readString?_step fuel (escapedChar_ne_quote c _) (readChar?_escapedChar c _),
            ih (c :: acc) (Nat.lt_of_succ_lt_succ h)]
          simp

theorem length_le_flatMap_escapedChar (cs : List Char) :
    cs.length ≤ (cs.flatMap escapedChar).length := by
  have hone (c : Char) : 1 ≤ (escapedChar c).length := by
    unfold escapedChar
    split <;> first | decide | (split <;> simp)
  induction cs with
  | nil => simp
  | cons c cs ih =>
      have := hone c
      simp only [List.flatMap_cons, List.length_append, List.length_cons]
      omega

theorem toList_quote (s : String) :
    (quote s).toList = '"' :: (s.toList.flatMap escapedChar ++ ['"']) := by
  simp [quote]

theorem readString?_quoted (s : String) (rest : List Char) :
    readString? ((s.toList.flatMap escapedChar ++ '"' :: rest).length + 1) []
      (s.toList.flatMap escapedChar ++ '"' :: rest) = some (s, rest) := by
  have := length_le_flatMap_escapedChar s.toList
  rw [readString?_escaped s.toList [] rest (by rw [List.length_append]; omega)]
  simp

end Strings

section Numbers

theorem head?_toDigits_ne_zero {n : Nat} (h : 0 < n) : (Nat.toDigits 10 n).head? ≠ some '0' := by
  induction n using Nat.strongRecOn with
  | ind n ih =>
      by_cases hn : n < 10
      · have : ∀ n < 10, 0 < n → (Nat.toDigits 10 n).head? ≠ some '0' := by decide
        exact this n hn h
      · rw [Nat.toDigits_of_base_le (by decide) (by omega),
          List.head?_append, Option.or_of_isSome (by simp [Nat.toDigits_ne_nil])]
        exact ih (n / 10) (by omega) (by omega)

theorem isWhole_repr (n : Nat) : isWhole n.repr.toList = true := by
  rw [isWhole, Nat.toList_repr]
  have hdigits : (Nat.toDigits 10 n).all Char.isDigit = true := by
    rw [List.all_eq_true]
    intro c hc
    exact Nat.isDigit_of_mem_toDigits (by decide) (by decide) hc
  have hhead : (Nat.toDigits 10 n).length = 1 ∨ (Nat.toDigits 10 n).head? ≠ some '0' := by
    rcases Nat.eq_zero_or_pos n with rfl | hn
    · exact .inl (by decide)
    · exact .inr (head?_toDigits_ne_zero hn)
  simpa [hdigits, Nat.toDigits_ne_nil] using hhead

theorem ofLiteral_digits {digits : List Char} (whole : isWhole digits = true) :
    ofLiteral digits = some (.int (digitsValue digits)) := by
  unfold ofLiteral
  split
  · cases whole
  · simp [isWhole] at whole
  · cases whole
  · rw [if_pos whole]

theorem ofLiteral_minus {digits : List Char} (whole : isWhole digits = true)
    (positive : 0 < digitsValue digits) :
    ofLiteral ('-' :: digits) = some (.int (-(digitsValue digits : Int))) := by
  rw [ofLiteral, if_pos whole]
  rintro rfl
  exact absurd positive (by decide)

theorem toList_repr_negSucc (n : Nat) :
    (Int.negSucc n).repr.toList = '-' :: (n + 1).repr.toList := by
  change ("-" ++ (n + 1).repr).toList = _
  rw [String.toList_append]
  rfl

theorem ofLiteral_repr (n : Int) : ofLiteral n.repr.toList = some (.int n) := by
  cases n with
  | ofNat n =>
      change ofLiteral n.repr.toList = _
      rw [ofLiteral_digits (isWhole_repr n), digitsValue_repr]
      rfl
  | negSucc n =>
      rw [toList_repr_negSucc, ofLiteral_minus (isWhole_repr _) (by rw [digitsValue_repr]; omega),
        digitsValue_repr]
      rfl

theorem isNumberChar_of_mem_repr {n : Int} {c : Char} (h : c ∈ n.repr.toList) :
    isNumberChar c = true := by
  have hdigit {n : Nat} (h : c ∈ n.repr.toList) : isNumberChar c = true := by
    rw [Nat.toList_repr] at h
    simp [isNumberChar, Nat.isDigit_of_mem_toDigits (by decide) (by decide) h]
  cases n with
  | ofNat n => exact hdigit h
  | negSucc n =>
      rw [toList_repr_negSucc] at h
      rcases List.mem_cons.mp h with rfl | h
      · rfl
      · exact hdigit h

theorem readValue?_number {c : Char} {s : List Char} (fuel : Nat) (hc : isNumberChar c = true) :
    readValue? (fuel + 1) (c :: s) =
      (ofLiteral ((c :: s).takeWhile isNumberChar)).map fun number =>
        (number, (c :: s).dropWhile isNumberChar) := by
  have hspace : isSpace c = false := by
    rw [Bool.eq_false_iff]
    intro h
    rw [isNumberChar_of_isSpace h] at hc
    cases hc
  rw [readValue?, dropSpace_cons hspace]
  split
  case h_7 => rfl
  all_goals
    next heq =>
      obtain ⟨rfl, -⟩ := List.cons.inj heq
      exact absurd hc (by decide)

theorem repr_ne_nil (n : Int) : n.repr.toList ≠ [] := by
  intro hnil
  have hliteral := ofLiteral_repr n
  rw [hnil] at hliteral
  cases hliteral

theorem readValue?_repr (n : Int) {rest : List Char} (fuel : Nat)
    (hrest : StopsAt isNumberChar rest) :
    readValue? (fuel + 1) (n.repr.toList ++ rest) = some (.int n, rest) := by
  have hchars (c) (h : c ∈ n.repr.toList) := isNumberChar_of_mem_repr h
  have hliteral := ofLiteral_repr n
  obtain ⟨c, s, hs⟩ := List.exists_cons_of_ne_nil (repr_ne_nil n)
  rw [hs] at hchars hliteral ⊢
  rw [List.cons_append, readValue?_number fuel (hchars c (by simp)), ← List.cons_append,
    takeWhile_append_of_stopsAt hchars hrest, dropWhile_append_of_stopsAt hchars hrest, hliteral]
  rfl

end Numbers

section Values

variable {level : Nat}

theorem toList_prettyItems_cons (item : Json) (items : List Json) :
    (prettyItems level (item :: items)).toList =
      ',' :: (lineStart level ++ ((pretty level item).toList ++
        (prettyItems level items).toList)) := by
  simp [prettyItems, lineStart]

theorem toList_pretty_arr (item : Json) (items : List Json) :
    (pretty level (.arr (item :: items))).toList =
      '[' :: (lineStart (level + 1) ++ ((pretty (level + 1) item).toList ++
        ((prettyItems (level + 1) items).toList ++ (lineStart level ++ [']'])))) := by
  simp [pretty, lineStart]

/-- The text of a field: the name, a colon, a blank and the value. -/
def fieldText (level : Nat) (field : String × Json) : List Char :=
  (quote field.1).toList ++ ':' :: ' ' :: (pretty level field.2).toList

theorem toList_prettyFields_cons (field : String × Json) (fields : List (String × Json)) :
    (prettyFields level (field :: fields)).toList =
      ',' :: (lineStart level ++ (fieldText level field ++
        (prettyFields level fields).toList)) := by
  simp [prettyFields, lineStart, fieldText]

theorem toList_pretty_obj (field : String × Json) (fields : List (String × Json)) :
    (pretty level (.obj (field :: fields))).toList =
      '\x7b' :: (lineStart (level + 1) ++ (fieldText (level + 1) field ++
        ((prettyFields (level + 1) fields).toList ++ (lineStart level ++ ['\x7d'])))) := by
  simp [pretty, lineStart, fieldText]

/-- Reading the text of a value gives the value and leaves what comes after it. -/
def ReadsBack (j : Json) : Prop :=
  ∀ (level fuel : Nat) (rest : List Char), (pretty level j).toList.length ≤ fuel →
    StopsAt isNumberChar rest →
    readValue? (fuel + 1) ((pretty level j).toList ++ rest) = some (j, rest)

theorem readItems?_last {s after : List Char} {item : Json} {fuel : Nat}
    (rest : List Char) (hitem : readValue? fuel s = some (item, rest))
    (hrest : dropSpace rest = ']' :: after) :
    readItems? (fuel + 1) s = some ([item], after) := by
  simp [readItems?, hitem, hrest]

theorem readItems?_comma {s rest after : List Char} {item : Json} {items : List Json} {fuel : Nat}
    (hitem : readValue? fuel s = some (item, ',' :: rest))
    (hitems : readItems? fuel rest = some (items, after)) :
    readItems? (fuel + 1) s = some (item :: items, after) := by
  have hrest : dropSpace (',' :: rest) = ',' :: rest := dropSpace_cons rfl
  simp [readItems?, hitem, hrest, hitems]

theorem readItems?_pretty {item : Json} {items : List Json} {gap close : List Char}
    (fuel level : Nat) (rest : List Char) (each : ∀ i ∈ item :: items, ReadsBack i)
    (hgap : IsGap gap) (hclose : IsGap close)
    (hfuel : (pretty level item).toList.length + (prettyItems level items).toList.length + 1 <
      fuel) :
    readItems? fuel (gap ++ ((pretty level item).toList ++ ((prettyItems level items).toList ++
      (close ++ ']' :: rest)))) = some (item :: items, rest) := by
  induction items generalizing item gap fuel with
  | nil =>
      obtain _ | _ | fuel := fuel
      · omega
      · omega
      apply readItems?_last (close ++ ']' :: rest)
      · rw [readValue?_gap hgap]
        exact each item (by simp) level fuel _ (by omega) (stopsAt_gap_append hclose rfl)
      · rw [dropSpace_append hclose, dropSpace_cons rfl]
  | cons next items ih =>
      obtain _ | _ | fuel := fuel
      · omega
      · omega
      rw [toList_prettyItems_cons] at hfuel ⊢
      simp only [List.length_cons, List.length_append] at hfuel
      simp only [List.cons_append, List.append_assoc]
      apply readItems?_comma
      · rw [readValue?_gap hgap]
        exact each item (by simp) level fuel _ (by omega) (stopsAt_cons_iff.mpr rfl)
      · exact ih (fuel + 1) (fun i hi => each i (.tail _ hi)) (isGap_lineStart level) (by omega)

theorem readValue?_quote (fuel : Nat) (s : String) (rest : List Char) :
    readValue? (fuel + 1) ((quote s).toList ++ rest) = some (.str s, rest) := by
  rw [toList_quote, List.cons_append, List.append_assoc, List.singleton_append, readValue?,
    dropSpace_cons rfl]
  simp only [readString?_quoted, Option.map_some]

theorem dropSpace_quote (name : String) (s : List Char) :
    dropSpace ((quote name).toList ++ s) =
      '"' :: (name.toList.flatMap escapedChar ++ '"' :: s) := by
  rw [toList_quote, List.cons_append, List.append_assoc, List.singleton_append]
  exact dropSpace_cons rfl

section Field

variable {gap s rest after : List Char} {value : Json} {fields : List (String × Json)} {fuel : Nat}

theorem readFields?_last (name : String) (hgap : IsGap gap)
    (hvalue : readValue? fuel s = some (value, rest))
    (hrest : dropSpace rest = '\x7d' :: after) :
    readFields? (fuel + 1) (gap ++ ((quote name).toList ++ ':' :: s)) =
      some ([(name, value)], after) := by
  have hcolon : dropSpace (':' :: s) = ':' :: s := dropSpace_cons rfl
  rw [readFields?, dropSpace_append hgap, dropSpace_quote]
  simp only [readString?_quoted, hcolon, hvalue, hrest, Option.bind_eq_bind, Option.bind_some]

theorem readFields?_comma (name : String) (hgap : IsGap gap)
    (hvalue : readValue? fuel s = some (value, ',' :: rest))
    (hfields : readFields? fuel rest = some (fields, after)) :
    readFields? (fuel + 1) (gap ++ ((quote name).toList ++ ':' :: s)) =
      some ((name, value) :: fields, after) := by
  have hcolon : dropSpace (':' :: s) = ':' :: s := dropSpace_cons rfl
  have hcomma : dropSpace (',' :: rest) = ',' :: rest := dropSpace_cons rfl
  rw [readFields?, dropSpace_append hgap, dropSpace_quote]
  simp only [readString?_quoted, hcolon, hvalue, hcomma, hfields, Option.bind_eq_bind,
    Option.bind_some, Option.map_some]

end Field

theorem readFields?_pretty {field : String × Json} {fields : List (String × Json)}
    {gap close : List Char} (fuel level : Nat) (rest : List Char)
    (each : ∀ f ∈ field :: fields, ReadsBack f.2) (hgap : IsGap gap) (hclose : IsGap close)
    (hfuel : (fieldText level field).length + (prettyFields level fields).toList.length + 1 <
      fuel) :
    readFields? fuel (gap ++ (fieldText level field ++ ((prettyFields level fields).toList ++
      (close ++ '\x7d' :: rest)))) = some (field :: fields, rest) := by
  have hblank : IsGap [' '] := by
    simp [IsGap, isSpace]
  have hlength (field : String × Json) :
      (pretty level field.2).toList.length ≤ (fieldText level field).length := by
    simp only [fieldText, List.length_append, List.length_cons]
    omega
  induction fields generalizing field gap fuel with
  | nil =>
      obtain _ | _ | fuel := fuel
      · omega
      · omega
      have := hlength field
      have hvalue := each field (by simp) level fuel (close ++ '\x7d' :: rest) (by omega)
        (stopsAt_gap_append hclose rfl)
      have hdrop : dropSpace (close ++ '\x7d' :: rest) = '\x7d' :: rest := by
        rw [dropSpace_append hclose, dropSpace_cons rfl]
      rw [← readValue?_gap hblank] at hvalue
      simpa [fieldText, prettyFields] using readFields?_last field.1 hgap hvalue hdrop
  | cons next fields ih =>
      obtain _ | _ | fuel := fuel
      · omega
      · omega
      rw [toList_prettyFields_cons] at hfuel ⊢
      simp only [List.length_cons, List.length_append] at hfuel
      have := hlength field
      have hfields := ih (fuel + 1) (fun f hf => each f (.tail _ hf)) (isGap_lineStart level)
        (by omega)
      have hvalue := each field (by simp) level fuel (',' :: (lineStart level ++
        (fieldText level next ++ ((prettyFields level fields).toList ++
          (close ++ '\x7d' :: rest))))) (by omega) (stopsAt_cons_iff.mpr rfl)
      rw [← readValue?_gap hblank] at hvalue
      simpa [fieldText] using readFields?_comma field.1 hgap hvalue hfields

theorem readValue?_bracket (fuel : Nat) (s : List Char) :
    readValue? (fuel + 1) ('[' :: s) =
      match dropSpace s with
      | ']' :: rest => some (.arr [], rest)
      | rest => (readItems? fuel rest).map fun (items, rest) => (.arr items, rest) := by
  rw [readValue?, dropSpace_cons rfl]
  rfl

theorem readValue?_brace (fuel : Nat) (s : List Char) :
    readValue? (fuel + 1) ('\x7b' :: s) =
      match dropSpace s with
      | '\x7d' :: rest => some (.obj [], rest)
      | rest => (readFields? fuel rest).map fun (fields, rest) => (.obj fields, rest) := by
  rw [readValue?, dropSpace_cons rfl]
  rfl

theorem readItems?_closed {s rest : List Char} (h : dropSpace s = ']' :: rest) (fuel : Nat) :
    readItems? fuel s = none := by
  have hvalue (fuel : Nat) : readValue? fuel s = none := by
    cases fuel with
    | zero => rfl
    | succ fuel =>
        rw [readValue?, h]
        rfl
  cases fuel with
  | zero => rfl
  | succ fuel =>
      rw [readItems?, hvalue]
      rfl

theorem readFields?_closed {s rest : List Char} (h : dropSpace s = '\x7d' :: rest) (fuel : Nat) :
    readFields? fuel s = none := by
  cases fuel with
  | zero => rfl
  | succ fuel =>
      rw [readFields?, h]
      rfl

theorem readValue?_items {s rest : List Char} {items : List Json} {fuel : Nat}
    (hitems : readItems? fuel s = some (items, rest)) :
    readValue? (fuel + 1) ('[' :: s) = some (.arr items, rest) := by
  rw [readValue?_bracket]
  split
  · next heq =>
    rw [readItems?_closed heq] at hitems
    cases hitems
  · rw [readItems?_congr (dropSpace_dropSpace s), hitems]
    rfl

theorem readValue?_fields {s rest : List Char} {fields : List (String × Json)} {fuel : Nat}
    (hfields : readFields? fuel s = some (fields, rest)) :
    readValue? (fuel + 1) ('\x7b' :: s) = some (.obj fields, rest) := by
  rw [readValue?_brace]
  split
  · next heq =>
    rw [readFields?_closed heq] at hfields
    cases hfields
  · rw [readFields?_congr (dropSpace_dropSpace s), hfields]
    rfl

theorem readsBack {j : Json} (h : IsIntegral j) : ReadsBack j := by
  induction h with
  | null =>
      intro level fuel rest hfuel hrest
      rw [pretty]
      rfl
  | bool value =>
      intro level fuel rest hfuel hrest
      cases value <;> rw [pretty] <;> rfl
  | int n =>
      intro level fuel rest hfuel hrest
      rw [pretty]
      exact readValue?_repr n fuel hrest
  | str s =>
      intro level fuel rest hfuel hrest
      rw [pretty]
      exact readValue?_quote fuel s rest
  | @arr items each ih =>
      intro level fuel rest hfuel hrest
      obtain _ | ⟨item, items⟩ := items
      · rw [pretty]
        exact readValue?_bracket fuel (']' :: rest)
      · rw [toList_pretty_arr] at hfuel ⊢
        simp only [List.length_cons, List.length_append] at hfuel
        have hitems := readItems?_pretty fuel (level + 1) rest ih (isGap_lineStart (level + 1))
          (isGap_lineStart level) (by omega)
        apply readValue?_items
        simpa using hitems
  | @obj fields each ih =>
      intro level fuel rest hfuel hrest
      obtain _ | ⟨field, fields⟩ := fields
      · rw [pretty]
        exact readValue?_brace fuel ('\x7d' :: rest)
      · rw [toList_pretty_obj] at hfuel ⊢
        simp only [List.length_cons, List.length_append] at hfuel
        have hfields := readFields?_pretty fuel (level + 1) rest ih (isGap_lineStart (level + 1))
          (isGap_lineStart level) (by omega)
        apply readValue?_fields
        simpa using hfields

end Values

/-- A value without fractions and exponents comes back from its text over several lines. -/
theorem parse?_pretty {j : Json} (h : IsIntegral j) : parse? (j.pretty 0 ++ "\n") = some j := by
  have hread := readsBack h 0 (2 * (j.pretty 0 ++ "\n").toList.length + 1) ['\n']
    (by simp only [String.toList_append, List.length_append]; omega) (stopsAt_cons_iff.mpr rfl)
  have htext : (j.pretty 0 ++ "\n").toList = (j.pretty 0).toList ++ ['\n'] := by
    rw [String.toList_append]
    rfl
  have hend : dropSpace ['\n'] = [] := rfl
  rw [← htext] at hread
  simp only [parse?, hread, Option.bind_eq_bind, Option.bind_some, hend, if_true]

end LineSelect.Json
