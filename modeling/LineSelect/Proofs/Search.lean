import Mathlib.Order.Bounds.Basic
import LineSelect.Selection

/-!
Searching forward: the line found is the least one after the cursor whose content matches.
-/

namespace LineSelect

open LineSelect.Text

/-- Line `number`, counted from 1, exists, and the pattern matches in it. The ending of the line is
not part of what the pattern sees. -/
def Pattern.MatchesLine (pattern : Pattern) (lines : List String) (number : Int) : Prop :=
  0 < number ∧ ∃ line, lines[(number - 1).toNat]? = some line ∧
    pattern.matchesIn (content line) = true

section Scan

variable {pattern : Pattern} {lines : List String} {skipped : Nat}

theorem isLeast_of_findIdx? {i : Nat}
    (h : (lines.drop skipped).findIdx? (fun line => pattern.matchesIn (content line)) = some i) :
    IsLeast {n : Int | skipped < n ∧ pattern.MatchesLine lines n} (skipped + i + 1) := by
  obtain ⟨hi, hmatch, hbefore⟩ := List.findIdx?_eq_some_iff_getElem.mp h
  rw [List.length_drop] at hi
  have hbound : skipped + i < lines.length := by omega
  constructor
  · refine ⟨by omega, by omega, lines[skipped + i], ?_, by simpa using hmatch⟩
    have hplace : ((skipped : Int) + i + 1 - 1).toNat = skipped + i := by omega
    rw [hplace]
    exact List.getElem?_eq_getElem _
  · rintro n ⟨hskip, -, line, hline, hn⟩
    by_contra hlt
    obtain ⟨j, hj⟩ : ∃ j : Nat, (n - 1).toNat = skipped + j := ⟨(n - 1).toNat - skipped, by omega⟩
    rw [hj] at hline
    obtain ⟨hbound, rfl⟩ := List.getElem?_eq_some_iff.mp hline
    exact hbefore j (by omega) (by simpa using hn)

theorem not_matchesLine_of_findIdx?
    (h : (lines.drop skipped).findIdx? (fun line => pattern.matchesIn (content line)) = none)
    {n : Int} (hskip : skipped < n) : ¬ pattern.MatchesLine lines n := by
  rintro ⟨-, line, hline, hn⟩
  have hmem : line ∈ lines.drop skipped := by
    refine List.mem_iff_getElem?.mpr ⟨(n - 1).toNat - skipped, ?_⟩
    rw [List.getElem?_drop, ← hline]
    congr 1
    omega
  rw [List.findIdx?_eq_none_iff.mp h line hmem] at hn
  cases hn

end Scan

/-- A search finds the least line after the cursor that matches; negative cursors count as 0. -/
theorem searchForward_eq_ok_iff {source : String} {lines : List String} {cursor line : Int} :
    searchForward source lines cursor = .ok line ↔
      ∃ pattern, Pattern.compile source = .ok pattern ∧
        IsLeast {n | max cursor 0 < n ∧ pattern.MatchesLine lines n} line := by
  have hcursor : max cursor 0 = (cursor.toNat : Int) := by omega
  rw [hcursor, searchForward]
  split
  · next hcompile => simp [hcompile]
  · next pattern hcompile =>
    simp only [hcompile, Except.ok.injEq, exists_eq_left']
    split
    · next i hfound =>
      have hleast := isLeast_of_findIdx? hfound
      rw [Except.ok.injEq]
      exact ⟨fun h => h ▸ hleast, fun h => hleast.unique h⟩
    · next hmissing =>
      refine ⟨fun h => (by cases h), fun h => ?_⟩
      exact absurd h.1.2 (not_matchesLine_of_findIdx? hmissing h.1.1)

end LineSelect
