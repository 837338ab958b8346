import ReceiptRules.Proofs.Date.Order
import ReceiptRules.Proofs.Decimal.Value
import ReceiptRules.Proofs.Field.Content
import ReceiptRules.Proofs.Value.Amounts

/-!
# Numbers that values are compared by

A value of a number field stands for its amount, and a value of a date field for the number of its
day. Where the value stands for neither, the text of the value may: this happens for whole numbers
and decimals in a date field, and nowhere else.
-/

namespace ReceiptRules

namespace Value

/-- What a value of a number field or of a date field stands for: an amount, or the number of a
day. -/
def measure? (v : Value) : FieldKind → Option ℚ
  | .text => none
  | .number => v.amount?.map Decimal.value
  | .date =>
    match Settings.dateOf? {} v with
    | .ok (some d) => some d.ordinal
    | _ => none

/-- What a value stands for, or what its text does if the value stands for nothing itself. -/
def measureAgain? (v : Value) (kind : FieldKind) : Option ℚ :=
  (v.measure? kind).or (if v.isWritable then (text v.asText).measure? kind else none)

variable {v : Value} {kind : FieldKind}

theorem measure?_number_eq_some_iff {x : ℚ} :
    v.measure? .number = some x ↔ ∃ d, v.amount? = some d ∧ d.value = x :=
  Option.map_eq_some_iff

theorem measure?_date_eq_some_iff {x : ℚ} :
    v.measure? .date = some x ↔
      ∃ d, Settings.dateOf? {} v = .ok (some d) ∧ (d.ordinal : ℚ) = x := by
  obtain ⟨day, hday⟩ := Field.exists_dateOf? v
  cases day <;> simp [measure?, hday]

theorem measureAgain?_of_some {x : ℚ} (h : v.measure? kind = some x) :
    v.measureAgain? kind = some x := by
  rw [measureAgain?, h, Option.some_or]

theorem measure?_eq_none_iff (hkind : kind ≠ .text) :
    v.measure? kind = none ↔ Settings.contentOf? {} v kind = .ok none := by
  cases kind with
  | text => exact absurd rfl hkind
  | number => simp [measure?, Settings.contentOf?]
  | date =>
    obtain ⟨day, hday⟩ := Field.exists_dateOf? v
    cases day <;> simp [measure?, Settings.contentOf?, hday, Except.map]

theorem measure?_date_of_isNumber (h : v.IsNumber) : v.measure? .date = none := by
  rw [Value.measure?, Value.dateOf?_of_isNumber h]

/-- A number in a date field apart, nothing is gained by reading the text of a value. -/
theorem measureAgain?_eq (hkind : kind ≠ .text) (h : kind = .date → ¬ v.IsNumber) :
    v.measureAgain? kind = v.measure? kind := by
  cases hmeasure : v.measure? kind with
  | some x => exact measureAgain?_of_some hmeasure
  | none =>
    have hagain : (text v.asText).measure? kind = none := by
      cases kind with
      | text => exact absurd rfl hkind
      | number =>
        have hamount : v.amount? = none := Option.map_eq_none_iff.mp hmeasure
        exact Option.map_eq_none_iff.mpr (amountOfText?_asText hamount)
      | date =>
        have hday : Settings.dateOf? {} (text v.asText) = Settings.dateOf? {} v :=
          (dateOf?_eq_dateOfText? (h rfl)).symm
        rwa [measure?, hday]
    rw [measureAgain?, hmeasure, hagain, Option.none_or, ite_self]

end Value

/-- A content as a value. -/
def Content.value : Content → Value
  | .text s => .text s
  | .number d => .decimal (.finite d)
  | .date d => .date d

/-- A field is read as what its value stands for, or else as what the text of the value does. -/
theorem Field.measure?_of_contentIn {receipt : Receipt} {f : Field} {content : Content}
    (hkind : f.kind ≠ .text) (h : f.contentIn {} receipt = .ok (some content)) :
    content.value.measure? f.kind = (receipt.get f).measureAgain? f.kind := by
  obtain ⟨-, hfound | ⟨hfound, hwritable, rfl⟩⟩ := contentIn_eq_some_iff.mp h
  · cases hf : f.kind with
    | text => exact absurd hf hkind
    | number =>
      rw [hf] at hfound
      obtain ⟨d, hd, rfl⟩ := Option.map_eq_some_iff.mp (Except.ok.inj hfound)
      exact (Value.measureAgain?_of_some (Value.measure?_number_eq_some_iff.mpr ⟨d, hd, rfl⟩)).symm
    | date =>
      rw [hf] at hfound
      obtain ⟨d, hd, rfl⟩ := contentOf?_date_eq_some_iff.mp hfound
      exact (Value.measureAgain?_of_some (Value.measure?_date_eq_some_iff.mpr ⟨d, hd, rfl⟩)).symm
  · rw [← Value.measure?_eq_none_iff hkind] at hfound
    rw [Value.measureAgain?, hfound, hwritable]
    rfl

end ReceiptRules
