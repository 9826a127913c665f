import LineSelect.Config

/-!
Texts of configurations: the document that is written where there is none spells the defaults, and a
configuration that is written out spells itself.
-/

namespace LineSelect

theorem toList_append_of_toList {s t : String} {front back : List Char} (ht : t.toList = back)
    (hs : s.toList = front) : (s ++ t).toList = front ++ back := by
  rw [String.toList_append, hs, ht]

namespace Config

/-- The configuration that characters spell without a mark of the byte order in front. -/
def ofChars? (chars : List Char) : Option Config := do
  ofEntries? (← Toml.build? [] [] (← Toml.readStatements? (chars.length + 1) chars))

theorem parse?_eq_ofChars? {text : String} {chars : List Char} (h : text.toList = chars)
    (hfirst : chars.head? ≠ some '\uFEFF') : parse? text = ofChars? chars := by
  unfold parse? Toml.parse? ofChars?
  rw [h]
  split
  · simp at hfirst
  · exact Option.bind_assoc _ _ _

theorem parse?_of_toList {text : String} {chars : List Char} {config : Config}
    (h : text.toList = chars)
    (hread : chars.head? ≠ some '\uFEFF' ∧ ofChars? chars = some config) :
    parse? text = some config := by
  rw [parse?_eq_ofChars? h hread.1, hread.2]

theorem parse?_defaultText : parse? defaultText = some {} := by
  apply parse?_of_toList
  · unfold defaultText
    iterate 19 apply toList_append_of_toList String.toList_ofList
    exact String.toList_ofList
  · decide +kernel

theorem parse?_text (config : Config) : parse? config.text = some config := by
  obtain ⟨⟨debug⟩, ⟨isGlobal⟩, ⟨numberLines, color⟩⟩ := config
  cases debug <;> cases isGlobal <;> cases numberLines <;> cases color <;>
  · apply parse?_of_toList
    · unfold text
      iterate 8 apply toList_append_of_toList String.toList_ofList
      exact String.toList_ofList
    · decide +kernel

end Config

end LineSelect
