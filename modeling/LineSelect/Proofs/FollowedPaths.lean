import LineSelect.Main

/-!
Following the text of a path looks at nothing but the paths that it comes by, and ends at one of
them.
-/

namespace LineSelect.FileTree

open LineSelect.Host

variable {tree other : FileTree} {path start place : Path} {names : List String} {text : String}

theorem follow_congr (h : ∀ p ∈ pathsAlong path names, tree.get? p = other.get? p) :
    tree.follow path names = other.follow path names := by
  induction names generalizing path with
  | nil => rfl
  | cons name rest ih =>
      rw [pathsAlong, List.forall_mem_cons] at h
      obtain ⟨hpath, hrest⟩ := h
      rw [follow, follow, hpath]
      split
      · rfl
      · rfl
      · split at hrest
        · next hstay =>
          rw [if_pos hstay, if_pos hstay]
          exact ih hrest
        · next hstay =>
          rw [if_neg hstay, if_neg hstay]
          split at hrest
          · next hup =>
            rw [if_pos hup, if_pos hup]
            exact ih hrest
          · next hup =>
            rw [if_neg hup, if_neg hup, ih hrest]

theorem mem_pathsAlong_of_follow (h : tree.follow path names = .ok place) :
    place ∈ pathsAlong path names := by
  induction names generalizing path with
  | nil =>
      obtain rfl := Except.ok.inj h
      exact List.mem_singleton_self path
  | cons name rest ih =>
      rw [follow] at h
      rw [pathsAlong]
      apply List.mem_cons_of_mem
      split at h
      · cases h
      · cases h
      · split at h
        · next hstay =>
          rw [if_pos hstay]
          exact ih h
        · next hstay =>
          rw [if_neg hstay]
          split at h
          · next hup =>
            rw [if_pos hup]
            exact ih h
          · next hup =>
            rw [if_neg hup]
            split at h
            · cases h
            · exact ih h

theorem locate_congr (h : ∀ p ∈ pathsOf start text, tree.get? p = other.get? p) :
    tree.locate start text = other.locate start text := by
  unfold pathsOf at h
  unfold locate
  split
  · rfl
  · split
    · rfl
    · next rest htext =>
      rw [htext] at h
      exact follow_congr h
    · next hslash =>
      split at h
      · next rest htext => exact absurd htext (hslash rest)
      · exact follow_congr h

theorem mem_pathsOf_of_locate (h : tree.locate start text = .ok place) :
    place ∈ pathsOf start text := by
  unfold locate at h
  unfold pathsOf
  split at h
  · cases h
  · split at h
    · cases h
    · next rest htext =>
      rw [htext]
      exact mem_pathsAlong_of_follow h
    · next hslash =>
      split
      · next rest htext => exact absurd htext (hslash rest)
      · exact mem_pathsAlong_of_follow h

theorem readText_congr (h : tree.get? path = other.get? path) :
    tree.readText path = other.readText path := by
  rw [readText, readText, read, read, h]

end LineSelect.FileTree

namespace LineSelect.Program

open LineSelect.Host

theorem readText_congr {env : Environment} {tree other : FileTree} {file : Option String}
    (h : ∀ name, file = some name → ∀ p ∈ pathsOf env.directory name,
      tree.get? p = other.get? p) : readText env tree file = readText env other file := by
  cases file with
  | none => rfl
  | some name =>
      have hpaths := h name rfl
      simp only [readText, FileTree.locate_congr hpaths]
      split
      · rfl
      · next place hplace =>
        have hmem := FileTree.mem_pathsOf_of_locate hplace
        rw [FileTree.readText_congr (hpaths place hmem)]

end LineSelect.Program
