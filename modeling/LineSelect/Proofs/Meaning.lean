import Mathlib.Data.List.TakeWhile
import LineSelect.Proofs.Run
import LineSelect.Replacement.Token

/-!
What a replacement means: the text that is read off the replacement as it is written, given what
its references stand for. Cutting the replacement into units gives the same.
-/

namespace LineSelect.Replacement

open LineSelect.Text

/-- A replacement means a text, where `value` gives the text of a reference: escapes are resolved
from left to right, and everything else stands for itself. -/
inductive Means (value : List Char → List Char) : List Char → List Char → Prop where
  | nil : Means value [] []
  | plain {c : Char} {s t : List Char} (plain : c ≠ '\\') (rest : Means value s t) :
      Means value (c :: s) (c :: t)
  | backslash {s t : List Char} (rest : Means value s t) :
      Means value ('\\' :: '\\' :: s) ('\\' :: t)
  | lineFeed {s t : List Char} (rest : Means value s t) : Means value ('\\' :: 'n' :: s) ('\n' :: t)
  | tab {s t : List Char} (rest : Means value s t) : Means value ('\\' :: 't' :: s) ('\t' :: t)
  | digit {d : Char} {s t : List Char} (digit : d.isDigit = true) (stop : StopsAt Char.isDigit s)
      (rest : Means value s t) : Means value ('\\' :: d :: s) (value [d] ++ t)
  | digits {d e : Char} {s t : List Char} (first : d.isDigit = true) (second : e.isDigit = true)
      (rest : Means value s t) : Means value ('\\' :: d :: e :: s) (value [d, e] ++ t)
  | named {name s t : List Char} (nonempty : name ≠ []) (closed : '>' ∉ name)
      (rest : Means value s t) :
      Means value ('\\' :: 'g' :: '<' :: name ++ '>' :: s) (value name ++ t)
  | escape {c : Char} {s t : List Char} (digitFree : c.isDigit = false)
      (other : c ∉ ['\\', 'n', 't', 'g']) (rest : Means value s t) :
      Means value ('\\' :: c :: s) ('\\' :: c :: t)

namespace Token

/-- The text that a unit means. -/
def meaning (value : List Char → List Char) : Token → List Char
  | plain c => [c]
  | escape '\\' => ['\\']
  | escape 'n' => ['\n']
  | escape 't' => ['\t']
  | escape c => ['\\', c]
  | number digits => value digits
  | named name => value name
  | loneBackslash | unopenedName | unclosedName _ => []

/-- Units that are not faulty in themselves. -/
def IsWhole : Token → Prop
  | plain _ | escape _ | number _ => True
  | named name => name ≠ []
  | loneBackslash | unopenedName | unclosedName _ => False

end Token

section Tokens

variable {c d e : Char} {name s t : List Char} {value : List Char → List Char}

theorem ne_g_of_isDigit (h : d.isDigit = true) : d ≠ 'g' := by
  rintro rfl
  cases h

theorem tokens_plain (h : c ≠ '\\') : tokens (c :: s) = .plain c :: tokens s := by
  rw [tokens] <;> simp [h]

theorem tokens_digits (hd : d.isDigit = true) (he : e.isDigit = true) :
    tokens ('\\' :: d :: e :: s) = .number [d, e] :: tokens s := by
  rw [tokens] <;> simp [hd, he, ne_g_of_isDigit hd]

theorem tokens_digit (hd : d.isDigit = true) (hs : StopsAt Char.isDigit s) :
    tokens ('\\' :: d :: s) = .number [d] :: tokens s := by
  cases s with
  | nil => simp [tokens, hd, ne_g_of_isDigit hd]
  | cons e s => simp [tokens, hd, ne_g_of_isDigit hd, stopsAt_cons_iff.mp hs]

theorem tokens_escape (hc : c.isDigit = false) (hg : c ≠ 'g') :
    tokens ('\\' :: c :: s) = .escape c :: tokens s := by
  cases s with
  | nil => simp [tokens, hc]
  | cons e s => simp [tokens, hc, hg]

theorem take_drop_of_notMem {close : Char} (h : close ∉ name) :
    (name ++ close :: s).takeWhile (fun x => decide (x ≠ close)) = name ∧
      (name ++ close :: s).dropWhile (fun x => decide (x ≠ close)) = close :: s := by
  have hrun : ∀ x ∈ name, decide (x ≠ close) = true := by
    intro x hx
    have hne : x ≠ close := fun heq => h (heq ▸ hx)
    simpa using hne
  have hstop : StopsAt (fun x => decide (x ≠ close)) (close :: s) := by simp
  exact ⟨takeWhile_append_of_stopsAt hrun hstop, dropWhile_append_of_stopsAt hrun hstop⟩

theorem tokens_named (closed : '>' ∉ name) :
    tokens ('\\' :: 'g' :: '<' :: name ++ '>' :: s) = .named name :: tokens s := by
  obtain ⟨htake, hdrop⟩ := take_drop_of_notMem (s := s) closed
  simp only [List.cons_append]
  rw [tokens.eq_3]
  split
  · next h =>
    rw [hdrop] at h
    cases h
  · next x after h =>
    rw [hdrop] at h
    obtain ⟨-, rfl⟩ := List.cons.inj h
    simp only [htake]

theorem Token.meaning_escape (h : c ∉ ['\\', 'n', 't']) :
    (escape c).meaning value = ['\\', c] := by
  unfold meaning
  split <;> simp_all

/-- The units of a replacement are whole, and mean a text one after another. -/
def MeansByUnits (value : List Char → List Char) (s t : List Char) : Prop :=
  (∀ token ∈ tokens s, token.IsWhole) ∧ t = (tokens s).flatMap (Token.meaning value)

theorem MeansByUnits.cons {token : Token} {whole : List Char}
    (htokens : tokens whole = token :: tokens s) (htoken : token.IsWhole)
    (h : MeansByUnits value s t) : MeansByUnits value whole (token.meaning value ++ t) := by
  rw [MeansByUnits, htokens, List.flatMap_cons, ← h.2]
  exact ⟨List.forall_mem_cons.mpr ⟨htoken, h.1⟩, rfl⟩

theorem meansByUnits_of_means (h : Means value s t) : MeansByUnits value s t := by
  induction h with
  | nil => simp [MeansByUnits, tokens]
  | plain hplain rest ih => exact ih.cons (tokens_plain hplain) trivial
  | backslash rest ih => exact ih.cons (tokens_escape (by decide) (by decide)) trivial
  | lineFeed rest ih => exact ih.cons (tokens_escape (by decide) (by decide)) trivial
  | tab rest ih => exact ih.cons (tokens_escape (by decide) (by decide)) trivial
  | digit hd hstop rest ih => exact ih.cons (tokens_digit hd hstop) trivial
  | digits hd he rest ih => exact ih.cons (tokens_digits hd he) trivial
  | named nonempty closed rest ih => exact ih.cons (tokens_named closed) nonempty
  | escape hc hother rest ih =>
      simp only [List.mem_cons, List.not_mem_nil, or_false, not_or] at hother
      have hstep := ih.cons (tokens_escape hc hother.2.2.2) trivial
      rwa [Token.meaning_escape (by simp [hother])] at hstep

theorem eq_append_cons_of_dropWhile {close x : Char} {after : List Char}
    (h : s.dropWhile (fun c => decide (c ≠ close)) = x :: after) :
    s = s.takeWhile (fun c => decide (c ≠ close)) ++ close :: after := by
  have hx : x = close := by
    have hstop : StopsAt (fun c => decide (c ≠ close)) (x :: after) := h ▸ stopsAt_dropWhile
    simpa using hstop
  rw [← hx, ← h, hx, List.takeWhile_append_dropWhile]

theorem notMem_takeWhile_ne {close : Char} : close ∉ s.takeWhile (fun c => decide (c ≠ close)) := by
  intro h
  simpa using List.mem_takeWhile_imp h

theorem means_of_forall_isWhole (h : ∀ token ∈ tokens s, token.IsWhole) :
    Means value s ((tokens s).flatMap (Token.meaning value)) := by
  fun_induction tokens s with
  | case1 => exact .nil
  | case2 => simp [Token.IsWhole] at h
  | case3 rest hrest => simp [Token.IsWhole] at h
  | case4 rest x after hrest _ ih =>
      obtain ⟨hname, hafter⟩ := List.forall_mem_cons.mp h
      have hmeans := Means.named hname notMem_takeWhile_ne (ih hafter)
      rwa [List.cons_append, List.cons_append, List.cons_append,
        ← eq_append_cons_of_dropWhile hrest] at hmeans
  | case5 rest hrest ih => simp [Token.IsWhole] at h
  | case6 c _ hc d rest hd _ ih => exact .digits hc hd (ih (List.forall_mem_cons.mp h).2)
  | case7 c _ hc d rest hd _ ih =>
      exact .digit hc (by simpa using hd) (ih (List.forall_mem_cons.mp h).2)
  | case8 c _ hc => exact .digit hc stopsAt_nil .nil
  | case9 c rest _ hg hc ih =>
      have hrest := ih (List.forall_mem_cons.mp h).2
      by_cases hbackslash : c = '\\'
      · subst hbackslash
        exact .backslash hrest
      by_cases hlineFeed : c = 'n'
      · subst hlineFeed
        exact .lineFeed hrest
      by_cases htab : c = 't'
      · subst htab
        exact .tab hrest
      rw [List.flatMap_cons, Token.meaning_escape (by simp [hbackslash, hlineFeed, htab])]
      refine .escape (by simpa using hc) ?_ hrest
      simpa [hbackslash, hlineFeed, htab] using hg
  | case10 c rest hend _ _ hother ih =>
      refine .plain ?_ (ih (List.forall_mem_cons.mp h).2)
      rintro rfl
      cases rest with
      | nil => exact hend rfl rfl
      | cons d rest => exact hother d rest rfl rfl

/-- A replacement has one meaning, that of its units, if they are whole, and else none. -/
theorem means_iff : Means value s t ↔ MeansByUnits value s t := by
  refine ⟨meansByUnits_of_means, ?_⟩
  rintro ⟨hwhole, rfl⟩
  exact means_of_forall_isWhole hwhole

end Tokens

end LineSelect.Replacement
