/-!
Runs at the front of a text: where a scan for accepted characters stops.
-/

namespace LineSelect.Text

variable {p : Char → Bool} {run rest s : List Char}

/-- No accepted character comes first in `s`. -/
def StopsAt (p : Char → Bool) (s : List Char) : Prop :=
  ∀ c ∈ s.head?, p c = false

@[simp] theorem stopsAt_nil : StopsAt p [] := by
  simp [StopsAt]

@[simp] theorem stopsAt_cons_iff {c : Char} : StopsAt p (c :: s) ↔ p c = false := by
  simp [StopsAt]

theorem stopsAt_dropWhile : StopsAt p (s.dropWhile p) := by
  intro c hc
  have := List.head?_dropWhile_not p s
  rw [Option.mem_def.mp hc] at this
  simpa using this

theorem takeWhile_eq_nil_of_stopsAt (hs : StopsAt p s) : s.takeWhile p = [] := by
  cases s with
  | nil => rfl
  | cons c s => simp [stopsAt_cons_iff.mp hs]

theorem dropWhile_eq_self_of_stopsAt (hs : StopsAt p s) : s.dropWhile p = s := by
  cases s with
  | nil => rfl
  | cons c s => simp [stopsAt_cons_iff.mp hs]

theorem stopsAt_of_takeWhile_eq_nil (hs : s.takeWhile p = []) : StopsAt p s := by
  have hsplit : s.takeWhile p ++ s.dropWhile p = s := List.takeWhile_append_dropWhile
  rw [hs, List.nil_append] at hsplit
  exact hsplit ▸ stopsAt_dropWhile

theorem takeWhile_append_of_stopsAt (hrun : ∀ c ∈ run, p c = true) (hrest : StopsAt p rest) :
    (run ++ rest).takeWhile p = run := by
  rw [List.takeWhile_append_of_pos hrun, takeWhile_eq_nil_of_stopsAt hrest, List.append_nil]

theorem dropWhile_append_of_stopsAt (hrun : ∀ c ∈ run, p c = true) (hrest : StopsAt p rest) :
    (run ++ rest).dropWhile p = rest := by
  rw [List.dropWhile_append_of_pos hrun, dropWhile_eq_self_of_stopsAt hrest]

theorem stopsAt_append_of_ne_nil (hne : run ≠ []) :
    StopsAt p (run ++ rest) ↔ StopsAt p run := by
  cases run with
  | nil => exact absurd rfl hne
  | cons c run => simp

end LineSelect.Text
