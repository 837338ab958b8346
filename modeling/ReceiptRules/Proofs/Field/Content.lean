import ReceiptRules.Field.Content
import ReceiptRules.Proofs.Date.Reading
import ReceiptRules.Proofs.Except

/-!
# What is read from a field

A field holds nothing, what its value stands for, or the text of its value. Under the default
settings every value is read, unless it is to be taken as text and holds a whole number that is too
long to be written.
-/

namespace ReceiptRules

variable {settings : Settings} {receipt : Receipt} {f : Field}

namespace Value

variable {v : Value}

theorem written_eq_ok_iff {s : String} :
    v.written = .ok s ↔ v.isWritable = true ∧ v.asText = s := by
  unfold written
  cases v.isWritable <;> simp

theorem written_eq_error_iff {e : Failure} :
    v.written = .error e ↔ v.isWritable = false ∧ e = .unwritableNumber := by
  unfold written
  cases v.isWritable <;> simp [eq_comm]

end Value

namespace Field

/-- The content of a field that has a value. -/
theorem contentIn_of_ne_null (h : receipt.get f ≠ .null) :
    f.contentIn settings receipt =
      (settings.contentOf? (receipt.get f) f.kind >>= fun
        | some content => .ok (some content)
        | none => (receipt.get f).written.map fun s ↦ some (.text s)) := by
  unfold contentIn
  split
  · next hnull => exact absurd hnull h
  · rfl

theorem contentIn_of_null (h : receipt.get f = .null) :
    f.contentIn settings receipt = .ok none := by
  rw [contentIn, h]

theorem contentIn_eq_none_iff :
    f.contentIn settings receipt = .ok none ↔ receipt.get f = .null := by
  refine ⟨fun h ↦ ?_, contentIn_of_null⟩
  by_contra hnull
  rw [contentIn_of_ne_null hnull] at h
  obtain ⟨found, -, h⟩ := Except.bind_eq_ok_iff.mp h
  cases found with
  | some content => cases h
  | none =>
    obtain ⟨s, -, h⟩ := Except.map_eq_ok_iff.mp h
    cases h

/-- A field holds what its value stands for, or else the text of the value. -/
theorem contentIn_eq_some_iff {content : Content} :
    f.contentIn settings receipt = .ok (some content) ↔ receipt.get f ≠ .null ∧
      (settings.contentOf? (receipt.get f) f.kind = .ok (some content) ∨
        settings.contentOf? (receipt.get f) f.kind = .ok none ∧
          (receipt.get f).isWritable = true ∧ content = .text (receipt.get f).asText) := by
  by_cases hnull : receipt.get f = .null
  · simp [contentIn_of_null hnull, hnull]
  · rw [contentIn_of_ne_null hnull, Except.bind_eq_ok_iff, and_iff_right hnull]
    constructor
    · rintro ⟨found, hfound, h⟩
      cases found with
      | some content' =>
        cases h
        exact .inl hfound
      | none =>
        obtain ⟨s, hs, h⟩ := Except.map_eq_ok_iff.mp h
        obtain ⟨hwritable, rfl⟩ := Value.written_eq_ok_iff.mp hs
        cases h
        exact .inr ⟨hfound, hwritable, rfl⟩
    · rintro (hfound | ⟨hfound, hwritable, rfl⟩)
      · exact ⟨_, hfound, rfl⟩
      · have hwritten := Value.written_eq_ok_iff.mpr ⟨hwritable, rfl⟩
        exact ⟨none, hfound, Except.map_eq_ok_iff.mpr ⟨_, hwritten, rfl⟩⟩

/-- A field holds what its value stands for. -/
theorem contentIn_of_contentOf? {content : Content}
    (h : settings.contentOf? (receipt.get f) f.kind = .ok (some content)) :
    f.contentIn settings receipt = .ok (some content) := by
  refine contentIn_eq_some_iff.mpr ⟨fun hnull ↦ ?_, .inl h⟩
  rw [hnull] at h
  cases hkind : f.kind <;> rw [hkind] at h <;> cases h

theorem contentIn_eq_error_iff {e : Failure} :
    f.contentIn settings receipt = .error e ↔ receipt.get f ≠ .null ∧
      (settings.contentOf? (receipt.get f) f.kind = .error e ∨
        settings.contentOf? (receipt.get f) f.kind = .ok none ∧
          (receipt.get f).isWritable = false ∧ e = .unwritableNumber) := by
  by_cases hnull : receipt.get f = .null
  · simp [contentIn_of_null hnull, hnull]
  · rw [contentIn_of_ne_null hnull, Except.bind_eq_error_iff, and_iff_right hnull]
    refine or_congr_right ⟨?_, ?_⟩
    · rintro ⟨found, hfound, h⟩
      cases found with
      | some content => cases h
      | none => exact ⟨hfound, Value.written_eq_error_iff.mp (Except.map_eq_error_iff.mp h)⟩
    · rintro ⟨hfound, hwritten⟩
      exact ⟨none, hfound, Except.map_eq_error_iff.mpr (Value.written_eq_error_iff.mpr hwritten)⟩

/-! ## Kinds of contents -/

theorem contentOf?_date_eq_some_iff {v : Value} {content : Content} :
    settings.contentOf? v .date = .ok (some content) ↔
      ∃ d, settings.dateOf? v = .ok (some d) ∧ content = .date d := by
  rw [Settings.contentOf?, Except.map_eq_ok_iff]
  constructor
  · rintro ⟨day, hday, h⟩
    obtain ⟨d, rfl, rfl⟩ := Option.map_eq_some_iff.mp h
    exact ⟨d, hday, rfl⟩
  · rintro ⟨d, hday, rfl⟩
    exact ⟨some d, hday, rfl⟩

/-- The date field holds a date, a text or nothing. -/
theorem contentIn_date_cases {content : Option Content}
    (h : Field.date.contentIn settings receipt = .ok content) :
    content = none ∨ (∃ d, content = some (.date d)) ∨ ∃ s, content = some (.text s) := by
  cases content with
  | none => exact .inl rfl
  | some content =>
    obtain ⟨-, hfound | ⟨-, -, rfl⟩⟩ := contentIn_eq_some_iff.mp h
    · obtain ⟨d, -, rfl⟩ := contentOf?_date_eq_some_iff.mp hfound
      exact .inr (.inl ⟨d, rfl⟩)
    · exact .inr (.inr ⟨_, rfl⟩)

/-- A text field holds nothing but texts. -/
theorem exists_text_of_contentIn {content : Content} (hkind : f.kind = .text)
    (h : f.contentIn settings receipt = .ok (some content)) : ∃ s, content = .text s := by
  obtain ⟨-, hfound | ⟨-, -, rfl⟩⟩ := contentIn_eq_some_iff.mp h
  · rw [hkind] at hfound
    cases hfound
  · exact ⟨_, rfl⟩

/-! ## The default settings -/

theorem exists_dateOfText? (s : String) : ∃ d, Settings.dateOfText? {} s = .ok d := by
  obtain ⟨d, hd⟩ := Date.exists_ok_of_ofText?_defaultFormats s
  exact ⟨d, by rw [Settings.dateOfText?, hd]⟩

theorem exists_dateOf? (v : Value) : ∃ d, Settings.dateOf? {} v = .ok d := by
  cases v with
  | text s | receiptType s => exact exists_dateOfText? s
  | _ => exact ⟨_, rfl⟩

theorem exists_contentOf? (v : Value) (kind : FieldKind) :
    ∃ found, Settings.contentOf? {} v kind = .ok found := by
  cases kind with
  | text | number => exact ⟨_, rfl⟩
  | date =>
    obtain ⟨d, hd⟩ := exists_dateOf? v
    exact ⟨_, Except.map_eq_ok_iff.mpr ⟨d, hd, rfl⟩⟩

end Field

/-- The value of the field is to be taken as text and has none. -/
def Receipt.Unwritten (receipt : Receipt) (f : Field) : Prop :=
  Settings.contentOf? {} (receipt.get f) f.kind = .ok none ∧ (receipt.get f).isWritable = false

/-- Under the default settings, only a value without a text stops the reading of a field. -/
theorem Field.contentIn_eq_error_iff_unwritten {e : Failure} :
    f.contentIn {} receipt = .error e ↔ receipt.Unwritten f ∧ e = .unwritableNumber := by
  rw [contentIn_eq_error_iff]
  constructor
  · rintro ⟨-, hfound | ⟨hfound, hwritable, rfl⟩⟩
    · obtain ⟨found, hfound'⟩ := exists_contentOf? (receipt.get f) f.kind
      cases hfound'.symm.trans hfound
    · exact ⟨⟨hfound, hwritable⟩, rfl⟩
  · rintro ⟨⟨hfound, hwritable⟩, rfl⟩
    refine ⟨fun hnull ↦ ?_, .inr ⟨hfound, hwritable, rfl⟩⟩
    rw [hnull] at hwritable
    cases hwritable

end ReceiptRules
