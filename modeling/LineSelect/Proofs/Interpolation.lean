import Mathlib.Data.List.TakeWhile
import LineSelect.Proofs.GroupNames
import LineSelect.Proofs.Meaning
import LineSelect.Substitution

/-!
What the template of a replacement is filled in with. Filling in gives the meaning of the
replacement except where an escaped dollar sign, which goes into the template as it stands, opens a
reference there.
-/

namespace LineSelect.Replacement

open LineSelect.Text

/-! ### Filling in -/

section FillIn

variable {value : List Char → List Char} {c : Char} {name rest : List Char}

theorem fillIn_plain (h : c ≠ '$') : fillIn value (c :: rest) = c :: fillIn value rest := by
  rw [fillIn.eq_5] <;> simp [h]

theorem fillIn_bracedReference (h : '\x7d' ∉ name) :
    fillIn value (bracedReference name ++ rest) = value name ++ fillIn value rest := by
  obtain ⟨htake, hdrop⟩ := take_drop_of_notMem (s := rest) h
  have hform : bracedReference name ++ rest = '$' :: '\x7b' :: (name ++ '\x7d' :: rest) := by
    simp [bracedReference]
  rw [hform, fillIn.eq_3]
  split
  · next hnil =>
    rw [hdrop] at hnil
    cases hnil
  · next x after hcons =>
    rw [hdrop] at hcons
    obtain ⟨-, rfl⟩ := List.cons.inj hcons
    simp only [htake]

theorem fillIn_append_of_notMem {s : List Char} (h : '$' ∉ s) :
    fillIn value (s ++ rest) = s ++ fillIn value rest := by
  induction s with
  | nil => rfl
  | cons c s ih =>
      rw [List.mem_cons, not_or] at h
      rw [List.cons_append, fillIn_plain (Ne.symm h.1), ih h.2, List.cons_append]

theorem fillIn_dollar_unclosed (h : '\x7d' ∉ rest) :
    fillIn value ('$' :: '\x7b' :: rest) = '$' :: '\x7b' :: fillIn value rest := by
  have hdrop : rest.dropWhile (fun x => decide (x ≠ '\x7d')) = [] := by
    refine List.dropWhile_eq_nil_iff.mpr fun x hx => ?_
    simpa using fun heq : x = '\x7d' => h (heq ▸ hx)
  rw [fillIn.eq_3]
  split
  · rw [fillIn_plain (by decide)]
  · next x after hcons =>
    rw [hdrop] at hcons
    cases hcons

theorem exists_fillIn_dollar_closed (value : List Char → List Char) (h : '\x7d' ∈ rest) :
    ∃ name after, fillIn value ('$' :: '\x7b' :: rest) = value name ++ fillIn value after := by
  rw [fillIn.eq_3]
  split
  · next hnil => simpa using List.dropWhile_eq_nil_iff.mp hnil _ h
  · exact ⟨_, _, rfl⟩

theorem fillIn_dollar_of_ne (hdollar : rest.head? ≠ some '$') (hbrace : rest.head? ≠ some '\x7b')
    (hbare : StopsAt isBareNameChar rest) :
    fillIn value ('$' :: rest) = '$' :: fillIn value rest := by
  rw [fillIn.eq_4, if_pos (takeWhile_eq_nil_of_stopsAt hbare)]
  · rintro after rfl
    exact hdollar rfl
  · rintro after rfl
    exact hbrace rfl

theorem exists_fillIn_dollar_bare (value : List Char → List Char) (rest : List Char)
    (h : isBareNameChar c = true) :
    ∃ name after, fillIn value ('$' :: c :: rest) = value name ++ fillIn value after := by
  rw [fillIn.eq_4, if_neg (by simp [h])]
  · exact ⟨_, _, rfl⟩
  · intro after heq
    obtain ⟨rfl, -⟩ := List.cons.inj heq
    revert h
    decide
  · intro after heq
    obtain ⟨rfl, -⟩ := List.cons.inj heq
    revert h
    decide

end FillIn

/-! ### Templates -/

namespace Token

/-- The part of a template that a unit turns into, unless it is refused. -/
def part : Token → List Char
  | plain '$' => ['$', '$']
  | plain c => [c]
  | escape '\\' => ['\\']
  | escape 'n' => ['\n']
  | escape 't' => ['\t']
  | escape c => ['\\', c]
  | number digits => bracedReference digits
  | named name => bracedReference name
  | loneBackslash | unopenedName | unclosedName _ => []

/-- The reference of a unit, if it has one, holds no closing brace. -/
def IsClosed : Token → Prop
  | number reference | named reference => '\x7d' ∉ reference
  | _ => True

/-- Whether a closing brace comes up in the part of the template that a unit turns into. -/
def closesBrace : Token → Bool
  | plain c | escape c => c == '\x7d'
  | number _ | named _ => true
  | _ => false

theorem mem_part_of_closesBrace {token : Token} (h : token.closesBrace = true) :
    '\x7d' ∈ token.part := by
  cases token with
  | plain c =>
      obtain rfl := eq_of_beq h
      simp [part]
  | escape c =>
      obtain rfl := eq_of_beq h
      simp [part]
  | number digits => simp [part, bracedReference]
  | named name => simp [part, bracedReference]
  | _ => cases h

theorem notMem_part_of_closesBrace {token : Token} (h : token.closesBrace = false) :
    '\x7d' ∉ token.part := by
  cases token with
  | plain c =>
      have hne : '\x7d' ≠ c := fun heq => ne_of_beq_false h heq.symm
      unfold part
      split <;> simp_all
  | escape c =>
      have hne : '\x7d' ≠ c := fun heq => ne_of_beq_false h heq.symm
      unfold part
      split <;> simp_all
  | number digits => cases h
  | named name => cases h
  | _ => simp [part]

theorem part_plain {c : Char} (h : c ≠ '$') : (plain c).part = [c] := by
  unfold part
  split <;> simp_all

theorem exists_part_escape (c : Char) :
    ∃ d tail, (escape c).part = d :: tail ∧ d ∈ ['\\', '\n', '\t'] := by
  unfold part
  split <;> simp_all

theorem part_escape_eq_meaning (value : List Char → List Char) (c : Char) :
    (escape c).part = (escape c).meaning value := by
  unfold part meaning
  split <;> simp_all

end Token

/-- Whether a dollar sign right before the template of these units opens a reference there. -/
def opensReference : List Token → Bool
  | .plain '$' :: rest => opensReference rest
  | .plain '\x7b' :: rest => rest.any Token.closesBrace
  | .plain c :: _ => isBareNameChar c
  | .number _ :: _ | .named _ :: _ => true
  | _ => false

/-- Whether no escaped dollar sign opens a reference in the template of these units. -/
def hasInertDollars : List Token → Bool
  | [] => true
  | .escape '$' :: rest => !opensReference rest && hasInertDollars rest
  | _ :: rest => hasInertDollars rest

section Templates

variable {value : List Char → List Char} {token : Token} {units : List Token} {rest : List Char}

theorem fillIn_dollar_of_not_opensReference (hwhole : ∀ token ∈ units, token.IsWhole)
    (h : opensReference units = false) :
    fillIn value ('$' :: units.flatMap Token.part) =
      '$' :: fillIn value (units.flatMap Token.part) := by
  fun_induction opensReference units with
  | case1 rest ih =>
      -- Two more dollar signs shift the pairs by one and make no difference.
      have hrest := ih (List.forall_mem_cons.mp hwhole).2 h
      simp only [List.flatMap_cons, Token.part, List.cons_append, List.nil_append, fillIn.eq_2,
        hrest]
  | case2 rest =>
      have hclose : '\x7d' ∉ rest.flatMap Token.part := by
        intro hmem
        obtain ⟨token, htoken, hmem⟩ := List.mem_flatMap.mp hmem
        have hfalse := List.any_eq_false.mp h token htoken
        exact Token.notMem_part_of_closesBrace (by simpa using hfalse) hmem
      rw [List.flatMap_cons, Token.part_plain (by decide), List.singleton_append,
        fillIn_dollar_unclosed hclose, fillIn_plain (by decide)]
  | case3 c rest hdollar hbrace =>
      rw [List.flatMap_cons, Token.part_plain hdollar, List.singleton_append]
      exact fillIn_dollar_of_ne (by simpa using hdollar) (by simpa using hbrace) (by simpa using h)
  | case4 => cases h
  | case5 => cases h
  | case6 units _ _ hplain hnumber hnamed =>
      cases units with
      | nil => exact fillIn_dollar_of_ne (by simp) (by simp) (by simp)
      | cons token rest =>
          have htoken := (List.forall_mem_cons.mp hwhole).1
          cases token with
          | plain c => exact (hplain c rest rfl).elim
          | number digits => exact (hnumber digits rest rfl).elim
          | named name => exact (hnamed name rest rfl).elim
          | escape c =>
              obtain ⟨d, tail, hpart, hd⟩ := Token.exists_part_escape c
              rw [List.flatMap_cons, hpart, List.cons_append]
              simp only [List.mem_cons, List.not_mem_nil, or_false] at hd
              rcases hd with rfl | rfl | rfl <;>
                exact fillIn_dollar_of_ne (by simp) (by simp) (by simp [isBareNameChar])
          | _ => exact htoken.elim

/-- Every reference as the single character `x`. -/
def marked (_ : List Char) : List Char :=
  ['x']

theorem fillIn_dollar_ne_of_opensReference (h : opensReference units = true) :
    fillIn marked ('$' :: units.flatMap Token.part) ≠
      '$' :: units.flatMap (Token.meaning marked) := by
  fun_induction opensReference units with
  | case1 rest ih =>
      intro heq
      simp only [List.flatMap_cons, Token.part, Token.meaning, List.cons_append, List.nil_append,
        fillIn.eq_2] at heq
      exact ih h (List.cons.inj heq).2
  | case2 rest =>
      obtain ⟨token, htoken, hclose⟩ := List.any_eq_true.mp h
      obtain ⟨name, after, hfill⟩ := exists_fillIn_dollar_closed marked
        (List.mem_flatMap.mpr ⟨token, htoken, Token.mem_part_of_closesBrace hclose⟩)
      rw [List.flatMap_cons, Token.part_plain (by decide), List.singleton_append, hfill]
      simp [marked]
  | case3 c rest hdollar hbrace =>
      obtain ⟨name, after, hfill⟩ := exists_fillIn_dollar_bare marked
        (rest.flatMap Token.part) h
      rw [List.flatMap_cons, Token.part_plain hdollar, List.singleton_append, hfill]
      simp [marked]
  | case4 digits rest =>
      simp [Token.part, Token.meaning, bracedReference, marked, fillIn.eq_2, fillIn_plain]
  | case5 name rest =>
      simp [Token.part, Token.meaning, bracedReference, marked, fillIn.eq_2, fillIn_plain]
  | case6 => cases h

theorem fillIn_part_append (hdollar : token ≠ .escape '$') (hwhole : token.IsWhole)
    (hclosed : token.IsClosed) :
    fillIn value (token.part ++ rest) = token.meaning value ++ fillIn value rest := by
  cases token with
  | plain c =>
      by_cases hc : c = '$'
      · rw [hc]
        exact fillIn.eq_2 value rest
      · rw [Token.part_plain hc]
        exact fillIn_plain hc
  | escape c =>
      have hc : '$' ≠ c := fun heq => hdollar (by rw [heq])
      rw [← Token.part_escape_eq_meaning]
      refine fillIn_append_of_notMem ?_
      unfold Token.part
      split <;> simp_all
  | number digits => exact fillIn_bracedReference hclosed
  | named name => exact fillIn_bracedReference hclosed
  | _ => exact hwhole.elim

theorem fillIn_escaped_dollar : fillIn value ((Token.escape '$').part ++ rest) =
    '\\' :: fillIn value ('$' :: rest) :=
  fillIn_plain (by decide)

theorem fillIn_flatMap_part (hwhole : ∀ token ∈ units, token.IsWhole)
    (hclosed : ∀ token ∈ units, token.IsClosed) (hinert : hasInertDollars units = true) :
    fillIn value (units.flatMap Token.part) = units.flatMap (Token.meaning value) := by
  fun_induction hasInertDollars units with
  | case1 => exact fillIn.eq_1 value
  | case2 rest ih =>
      simp only [Bool.and_eq_true, Bool.not_eq_true'] at hinert
      obtain ⟨-, hwhole⟩ := List.forall_mem_cons.mp hwhole
      obtain ⟨-, hclosed⟩ := List.forall_mem_cons.mp hclosed
      rw [List.flatMap_cons, List.flatMap_cons, fillIn_escaped_dollar,
        fillIn_dollar_of_not_opensReference hwhole hinert.1, ih hwhole hclosed hinert.2]
      rfl
  | case3 token rest hdollar ih =>
      obtain ⟨htoken, hwhole⟩ := List.forall_mem_cons.mp hwhole
      obtain ⟨hreference, hclosed⟩ := List.forall_mem_cons.mp hclosed
      rw [List.flatMap_cons, List.flatMap_cons,
        fillIn_part_append (fun heq => hdollar heq) htoken hreference,
        ih hwhole hclosed hinert]

theorem hasInertDollars_of_fillIn (hwhole : ∀ token ∈ units, token.IsWhole)
    (hclosed : ∀ token ∈ units, token.IsClosed)
    (h : fillIn marked (units.flatMap Token.part) = units.flatMap (Token.meaning marked)) :
    hasInertDollars units = true := by
  fun_induction hasInertDollars units with
  | case1 => rfl
  | case2 rest ih =>
      obtain ⟨-, hwhole⟩ := List.forall_mem_cons.mp hwhole
      obtain ⟨-, hclosed⟩ := List.forall_mem_cons.mp hclosed
      rw [List.flatMap_cons, List.flatMap_cons, fillIn_escaped_dollar] at h
      have htail := (List.cons.inj h).2
      have hopens : opensReference rest = false := by
        by_contra hopens
        exact fillIn_dollar_ne_of_opensReference (by simpa using hopens) htail
      rw [fillIn_dollar_of_not_opensReference hwhole hopens] at htail
      simp [hopens, ih hwhole hclosed (List.cons.inj htail).2]
  | case3 token rest hdollar ih =>
      obtain ⟨htoken, hwhole⟩ := List.forall_mem_cons.mp hwhole
      obtain ⟨hreference, hclosed⟩ := List.forall_mem_cons.mp hclosed
      rw [List.flatMap_cons, List.flatMap_cons,
        fillIn_part_append (fun heq => hdollar heq) htoken hreference] at h
      exact ih hwhole hclosed (List.append_cancel_left h)

theorem hasInertDollars_of_notMem (h : Token.escape '$' ∉ units) :
    hasInertDollars units = true := by
  fun_induction hasInertDollars units with
  | case1 => rfl
  | case2 rest => simp at h
  | case3 token rest _ ih => exact ih fun hmem => h (List.mem_cons_of_mem _ hmem)

end Templates

/-! ### Expansion -/

section Expansion

variable {names : List (Option String)} {position : ℕ} {reference : List Char}

theorem notMem_of_all_isDigit {c : Char} {digits : List Char} (hc : c.isDigit = false)
    (h : digits.all Char.isDigit = true) : c ∉ digits := by
  intro hmem
  rw [List.all_eq_true.mp h c hmem] at hc
  cases hc

theorem notMem_of_groupNumber? {index : ℕ} (h : groupNumber? reference = some index) :
    '\x7d' ∉ reference := by
  simp only [groupNumber?, Option.ite_none_right_eq_some] at h
  have hdigits := h.1.2
  split at hdigits
  · next digits => simpa using notMem_of_all_isDigit (by decide) hdigits
  · exact notMem_of_all_isDigit (by decide) hdigits

theorem isGroupNameChar_brace : Pattern.isGroupNameChar false '\x7d' = false := by
  decide +kernel

theorem notMem_of_isKnownGroup (hnames : ∀ name, some name ∈ names → Pattern.IsGroupName name)
    (h : isKnownGroup names reference = true) : '\x7d' ∉ reference := by
  unfold isKnownGroup at h
  split at h
  · next index hindex => exact notMem_of_groupNumber? hindex
  · intro hmem
    have hchar := hnames _ (List.contains_iff_mem.mp h) '\x7d' (by simpa using hmem)
    rw [isGroupNameChar_brace] at hchar
    cases hchar

theorem expandReference_eq_ok {part : List Char}
    (h : expandReference names position reference = .ok part) :
    isKnownGroup names reference = true ∧ part = bracedReference reference := by
  unfold expandReference at h
  split at h
  · next hknown => exact ⟨hknown, (Except.ok.inj h).symm⟩
  · cases h

theorem Token.expand_eq_ok {token : Token} {part : List Char}
    (hnames : ∀ name, some name ∈ names → Pattern.IsGroupName name)
    (h : token.expand names position = .ok part) :
    token.IsWhole ∧ token.IsClosed ∧ part = token.part := by
  cases token with
  | plain c =>
      refine ⟨trivial, trivial, ?_⟩
      unfold expand at h
      unfold Token.part
      split at h <;> simp_all
  | escape c =>
      refine ⟨trivial, trivial, ?_⟩
      unfold expand at h
      unfold Token.part
      split at h <;> simp_all
  | number digits =>
      obtain ⟨hknown, rfl⟩ := expandReference_eq_ok h
      exact ⟨trivial, notMem_of_isKnownGroup hnames hknown, rfl⟩
  | named name =>
      cases name with
      | nil => cases h
      | cons c name =>
          obtain ⟨hknown, rfl⟩ := expandReference_eq_ok h
          exact ⟨List.cons_ne_nil c name, notMem_of_isKnownGroup hnames hknown, rfl⟩
  | _ => cases h

theorem expandTokens_eq_ok {units : List Token} {template : List Char}
    (hnames : ∀ name, some name ∈ names → Pattern.IsGroupName name)
    (h : expandTokens names position units = .ok template) :
    (∀ token ∈ units, token.IsWhole) ∧ (∀ token ∈ units, token.IsClosed) ∧
      template = units.flatMap Token.part := by
  induction units generalizing position template with
  | nil =>
      obtain rfl := Except.ok.inj h
      simp
  | cons token units ih =>
      rw [expandTokens] at h
      split at h
      · cases h
      · next part hpart =>
        split at h
        · cases h
        · next parts hparts =>
          obtain rfl := Except.ok.inj h
          obtain ⟨htoken, hreference, rfl⟩ := Token.expand_eq_ok hnames hpart
          obtain ⟨hwhole, hclosed, rfl⟩ := ih hparts
          exact ⟨List.forall_mem_cons.mpr ⟨htoken, hwhole⟩,
            List.forall_mem_cons.mpr ⟨hreference, hclosed⟩, rfl⟩

end Expansion

end LineSelect.Replacement

namespace LineSelect.Substitution

open LineSelect.Replacement

theorem ofText_eq_ok {pattern replacement : String} {scope : Scope} {s : Substitution}
    (h : ofText pattern replacement scope = .ok s) :
    Pattern.compile pattern = .ok s.pattern ∧
      expandTokens s.pattern.groupNames 0 (tokens replacement.toList) = .ok s.template.toList := by
  unfold ofText at h
  split at h
  · cases h
  · next compiled hcompile =>
    split at h
    · cases h
    · next template hexpand =>
      obtain rfl := Except.ok.inj h
      refine ⟨hcompile, ?_⟩
      unfold Replacement.expand at hexpand
      split at hexpand
      · cases hexpand
      · next chars hchars =>
        obtain rfl := Except.ok.inj hexpand
        rw [hchars, String.toList_ofList]

/-- When a match gives way to what its replacement means, in four parts. Every replacement that is
not refused has one meaning. Where escaped dollar signs are inert, a match is rendered with that
meaning. They have to be inert if the template is to have that meaning whatever the groups are. And
they are if no dollar sign is escaped. -/
theorem means_render_iff_hasInertDollars {pattern replacement : String} {scope : Scope}
    {s : Substitution} (h : ofText pattern replacement scope = .ok s) :
    (∀ value, ∃! meaning, Means value replacement.toList meaning) ∧
    (hasInertDollars (tokens replacement.toList) = true → ∀ text m meaning,
      Means (s.referenceText text m) replacement.toList meaning ↔ meaning = s.render text m) ∧
    ((∀ value, Means value replacement.toList (fillIn value s.template.toList)) ↔
      hasInertDollars (tokens replacement.toList) = true) ∧
    (Token.escape '$' ∉ tokens replacement.toList →
      hasInertDollars (tokens replacement.toList) = true) := by
  obtain ⟨hcompile, hexpand⟩ := ofText_eq_ok h
  have hnames (name : String) (hname : some name ∈ s.pattern.groupNames) :=
    Pattern.isGroupName_of_compile hcompile hname
  obtain ⟨hwhole, hclosed, htemplate⟩ := expandTokens_eq_ok hnames hexpand
  refine ⟨fun value => ⟨_, means_of_forall_isWhole hwhole, fun meaning hmeaning => ?_⟩,
    fun hinert text m meaning => ?_, ⟨fun hmeans => ?_, fun hinert value => ?_⟩,
    hasInertDollars_of_notMem⟩
  · exact (meansByUnits_of_means hmeaning).2
  · rw [render, htemplate, fillIn_flatMap_part hwhole hclosed hinert, means_iff]
    exact ⟨fun hmeaning => hmeaning.2, fun hmeaning => ⟨hwhole, hmeaning⟩⟩
  · refine hasInertDollars_of_fillIn hwhole hclosed ?_
    rw [← htemplate]
    exact (meansByUnits_of_means (hmeans marked)).2
  · rw [htemplate, fillIn_flatMap_part hwhole hclosed hinert]
    exact means_of_forall_isWhole hwhole

theorem means_render_plain_dollar :
    ∃ s, ofText "(a)" "\\1$1" .every = .ok s ∧ ∀ text m,
      Means (s.referenceText text m) "\\1$1".toList (s.render text m) := by
  have haccepted : (ofText "(a)" "\\1$1" .every).toOption.isSome = true := by decide +kernel
  cases h : ofText "(a)" "\\1$1" .every with
  | error e =>
      rw [h] at haccepted
      cases haccepted
  | ok s =>
      refine ⟨s, rfl, fun text m => ?_⟩
      exact ((means_render_iff_hasInertDollars h).2.1 (by decide +kernel) text m _).mpr rfl

/-- An escaped dollar sign before a digit means itself, and yet the text of a group is filled in. -/
theorem render_escaped_dollar :
    ∃ s, ofText "(a)" "\\$1" .first = .ok s ∧
      s.render ['a'] ⟨0, 1, [(0, 0), (1, 1), (2, 0), (3, 1)]⟩ = ['\\', 'a'] ∧
      ∀ value meaning, Means value "\\$1".toList meaning ↔ meaning = ['\\', '$', '1'] := by
  have hrender : (ofText "(a)" "\\$1" .first).toOption.map
      (fun s => s.render ['a'] ⟨0, 1, [(0, 0), (1, 1), (2, 0), (3, 1)]⟩) = some ['\\', 'a'] := by
    decide +kernel
  cases h : ofText "(a)" "\\$1" .first with
  | error e =>
      rw [h] at hrender
      cases hrender
  | ok s =>
      rw [h] at hrender
      refine ⟨s, rfl, Option.some.inj hrender, fun value meaning => ?_⟩
      have htokens : tokens "\\$1".toList = [.escape '$', .plain '1'] := by decide +kernel
      rw [means_iff, MeansByUnits, htokens]
      simp [Token.IsWhole, Token.meaning]

end LineSelect.Substitution
