import LineSelect.Proofs.Canonical
import LineSelect.Proofs.JsonText
import LineSelect.Range.Encoding

/-!
Ranges in reports: a range whose numbers fit into machine words comes back from its JSON value.
-/

namespace LineSelect

theorem Json.intBetween?_int {low high n : Int} (hlow : low ≤ n) (hhigh : n < high) :
    Json.intBetween? low high (.int n) = some n :=
  if_pos ⟨hlow, hhigh⟩

namespace Position

theorem isIntegral_toJson (p : Position) : p.toJson.IsIntegral := by
  cases p with
  | line n => exact .obj (by simpa using .int n)
  | pattern source => exact .obj (by simpa using .str source)
  | last => exact .str _
  | current => exact .str _

theorem ofJson?_toJson {p : Position} (fits : ∀ n, p = .line n → n < Address.lineNumberLimit) :
    ofJson? p.toJson = some p := by
  cases p with
  | line n =>
      have hnumber : Json.intBetween? 0 Address.lineNumberLimit (.int n) = some (n : Int) :=
        Json.intBetween?_int (Int.natCast_nonneg n) (Int.ofNat_lt.mpr (fits n rfl))
      -- simplifying here would make the kernel count up to the limit
      rw [ofJson?]
      apply Option.bind_eq_some_iff.mpr
      refine ⟨("LineNumber", some (.int n)), rfl, ?_⟩
      exact Option.bind_eq_some_iff.mpr ⟨n, hnumber, rfl⟩
  | pattern source => rfl
  | last => rfl
  | current => rfl

end Position

namespace Address

theorem isIntegral_toJson (a : Address) : a.toJson.IsIntegral := by
  apply Json.IsIntegral.obj
  rintro field (_ | ⟨_, _ | ⟨_, ⟨⟩⟩⟩)
  · exact .int a.offset
  · exact a.position.isIntegral_toJson

theorem ofJson?_toJson {a : Address} (fits : a.FitsWords) : ofJson? a.toJson = some a := by
  have hoffset := Json.intBetween?_int fits.low fits.high
  have hposition := Position.ofJson?_toJson fits.number
  simp [ofJson?, toJson, Json.field?, hoffset, hposition]

end Address

theorem Separator.ofJson?_name (s : Separator) : ofJson? (.str s.name) = some s := by
  cases s <;> rfl

namespace Range

theorem isIntegral_toJson (r : Range) : r.toJson.IsIntegral := by
  obtain ⟨start, _ | ⟨separator, stop⟩⟩ := r
  · apply Json.IsIntegral.obj
    rintro field (_ | ⟨_, _ | ⟨_, ⟨⟩⟩⟩)
    · exact .null
    · exact start.isIntegral_toJson
  · apply Json.IsIntegral.obj
    rintro field (_ | ⟨_, _ | ⟨_, ⟨⟩⟩⟩)
    · apply Json.IsIntegral.arr
      rintro item (_ | ⟨_, _ | ⟨_, ⟨⟩⟩⟩)
      · exact .str _
      · exact stop.isIntegral_toJson
    · exact start.isIntegral_toJson

theorem ofJson?_toJson {r : Range} (fits : ∀ a ∈ r.addresses, a.FitsWords) :
    ofJson? r.toJson = some r := by
  obtain ⟨start, _ | ⟨separator, stop⟩⟩ := r
  · rw [forall_addresses_single] at fits
    have hstart := Address.ofJson?_toJson fits
    simp [ofJson?, toJson, Json.field?, hstart, stopOfJson?]
  · rw [forall_addresses_span] at fits
    have hstart := Address.ofJson?_toJson fits.1
    have hstop := Address.ofJson?_toJson fits.2
    have hseparator := separator.ofJson?_name
    simp [ofJson?, toJson, Json.field?, hstart, hstop, hseparator, stopOfJson?]

theorem mapM_ofJson?_toJson {ranges : List Range}
    (fits : ∀ r ∈ ranges, ∀ a ∈ r.addresses, a.FitsWords) :
    (ranges.map toJson).mapM ofJson? = some ranges := by
  induction ranges with
  | nil => rfl
  | cons r ranges ih =>
      have hr := ofJson?_toJson (fits r (by simp))
      have hranges := ih fun s hs => fits s (.tail _ hs)
      simp [hr, hranges]

end Range

end LineSelect
