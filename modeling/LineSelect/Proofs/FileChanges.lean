import Mathlib.Data.List.Infix
import LineSelect.FileTree

/-!
What file operations change. Writing and appending change one entry, and making directories fills
places on the way that were empty; everything else stays as it was.
-/

namespace LineSelect.FileTree

variable {tree changed : FileTree} {path other : Path} {content : ByteArray}

theorem get?_set (tree : FileTree) (entry : FileEntry) (h : path ≠ []) (other : Path) :
    (tree.set path entry).get? other = if other = path then some entry else tree.get? other := by
  split
  · next heq =>
    rw [heq]
    exact get?_set_self tree entry h
  · next hne => exact get?_set_of_ne tree entry hne

theorem get?_of_write (h : tree.write path content = .ok changed) (other : Path) :
    changed.get? other = if other = path then some (.file content) else tree.get? other := by
  have hnil : path ≠ [] := by
    rintro rfl
    cases h
  unfold write at h
  split at h
  · cases h
  · obtain rfl := Except.ok.inj h
    exact get?_set tree _ hnil other

theorem append_eq_ok_iff : tree.append path content = .ok changed ↔
    tree.get? path = none ∧ changed = tree.set path (.file content) ∨
      ∃ old, tree.get? path = some (.file old) ∧
        changed = tree.set path (.file (old ++ content)) := by
  unfold append
  split
  · next hdirectory => simp [hdirectory]
  · next old hold => simp [hold, eq_comm]
  · next hnone => simp [hnone, eq_comm]

theorem get?_of_append (h : tree.append path content = .ok changed) (other : Path) :
    changed.get? other = tree.get? other ∨
      other = path ∧
        (tree.get? path = none ∧ changed.get? path = some (.file content) ∨
          ∃ old, tree.get? path = some (.file old) ∧
            changed.get? path = some (.file (old ++ content))) := by
  have hnil : path ≠ [] := by
    rintro rfl
    cases h
  by_cases hother : other = path
  · right
    refine ⟨hother, ?_⟩
    rcases append_eq_ok_iff.mp h with ⟨hnone, rfl⟩ | ⟨old, hold, rfl⟩
    · exact .inl ⟨hnone, get?_set_self tree _ hnil⟩
    · exact .inr ⟨old, hold, get?_set_self tree _ hnil⟩
  · left
    rcases append_eq_ok_iff.mp h with ⟨-, rfl⟩ | ⟨old, -, rfl⟩
    · exact get?_set_of_ne tree _ hother
    · exact get?_set_of_ne tree _ hother

/-- The bytes of the file at a path; without a file there are none. -/
def contentAt (tree : FileTree) (path : Path) : ByteArray :=
  match tree.get? path with
  | some (.file content) => content
  | _ => .empty

theorem contentAt_of_get? (h : tree.get? path = some (.file content)) :
    tree.contentAt path = content := by
  rw [contentAt, h]

theorem get?_append_self (h : tree.append path content = .ok changed) :
    changed.get? path = some (.file (tree.contentAt path ++ content)) := by
  have hnil : path ≠ [] := by
    rintro rfl
    cases h
  rcases append_eq_ok_iff.mp h with ⟨hnone, rfl⟩ | ⟨old, hold, rfl⟩
  · rw [get?_set_self tree _ hnil, contentAt, hnone, ByteArray.empty_append]
  · rw [get?_set_self tree _ hnil, contentAt_of_get? hold]

theorem exists_append_of_get? (h : tree.get? path = some (.file content)) (added : ByteArray) :
    ∃ changed, tree.append path added = .ok changed :=
  ⟨_, append_eq_ok_iff.mpr (.inr ⟨content, h, rfl⟩)⟩

theorem get?_of_makeDirectoriesFrom {names : List String}
    (h : tree.makeDirectoriesFrom path names = .ok changed) (other : Path) :
    changed.get? other = tree.get? other ∨
      other <+: path ++ names ∧ tree.get? other = none ∧
        changed.get? other = some .directory := by
  induction names generalizing tree path with
  | nil =>
      obtain rfl := Except.ok.inj h
      exact .inl rfl
  | cons name rest ih =>
      rw [List.append_cons]
      rw [makeDirectoriesFrom] at h
      split at h
      · cases h
      · exact ih h
      · next hnone =>
        have hset := get?_set tree .directory (List.append_ne_nil_of_right_ne_nil path
          (List.cons_ne_nil name [])) other
        rcases ih h with hsame | ⟨hway, hempty, hmade⟩
        · rw [hset] at hsame
          split at hsame
          · next heq =>
            rw [heq] at hsame ⊢
            exact .inr ⟨List.prefix_append _ rest, hnone, hsame⟩
          · exact .inl hsame
        · rw [hset] at hempty
          split at hempty
          · cases hempty
          · exact .inr ⟨hway, hempty, hmade⟩

theorem get?_of_makeDirectories (h : tree.makeDirectories path = .ok changed) (other : Path) :
    changed.get? other = tree.get? other ∨
      other <+: path ∧ tree.get? other = none ∧ changed.get? other = some .directory :=
  get?_of_makeDirectoriesFrom h other

end LineSelect.FileTree
