import ReceiptRules.Field.Content
import ReceiptRules.Proofs.Date.RoundTrip

/-!
# Days that values and their texts stand for

A value stands for the day that its text is read as, by the default formats. Whole numbers and
decimals are the exception: they stand for no day, although their texts can be read as one.
-/

namespace ReceiptRules

open Text

namespace Binary64

/-- The text of a float holds a point, an exponent or a letter. -/
theorem exists_mem_text (x : Binary64) : ∃ c ∈ x.text.toList, c ∈ ['.', 'e', 'n'] := by
  cases x with
  | infinite negative => cases negative <;> exact ⟨'n', by decide, by decide⟩
  | undefined => exact ⟨'n', by decide, by decide⟩
  | finite negative m q =>
    have hfinite : '.' ∈ finiteText m q ∨ 'e' ∈ finiteText m q := by
      unfold finiteText
      split
      · exact .inl (by decide)
      · dsimp only
        split
        · exact .inr (List.mem_append_right _ List.mem_cons_self)
        · split
          · exact .inl (List.mem_cons_of_mem _ List.mem_cons_self)
          · split
            · exact .inl (List.mem_append_right _ List.mem_cons_self)
            · exact .inl (List.mem_append_right _ List.mem_cons_self)
    rw [text, String.toList_ofList]
    rcases hfinite with h | h
    · exact ⟨'.', List.mem_append_right _ h, by decide⟩
    · exact ⟨'e', List.mem_append_right _ h, by decide⟩

end Binary64

/-- The standard text of a date stands for the date. -/
theorem Settings.dateOfText?_iso (d : Date) : dateOfText? {} d.iso = .ok (some d) := by
  rw [dateOfText?, Date.ofText?_iso]

namespace Value

open Date

/-- The value is a number that a whole number or a decimal variable holds. -/
def IsNumber (v : Value) : Prop := (∃ n, v = int n) ∨ ∃ d, v = decimal d

theorem asText_list (items : List Value) :
    (list items).asText = s!"[{commaSeparated (shownItems items)}]" := rfl

theorem asText_object (entries : List (String × Value)) :
    (object entries).asText = "\x7b" ++ commaSeparated (shownEntries entries) ++ "\x7d" := rfl

/-- Characters by which the texts of values that are neither texts nor dates are told from dates. -/
def foreignChars : List Char := ['.', 'e', 'n', 'N', 'T', 'F', '[', '\x7b']

theorem ofText?_eq_none_of_foreign {s : String} {c : Char} (hc : c ∈ s.toList)
    (hforeign : c ∈ foreignChars) : ofText? defaultFormats s = .ok none := by
  have hall : (foreignChars.all fun c ↦
      !Blank.isBlank c && defaultItems.all fun item ↦ !admits item c) = true := by
    decide +kernel
  simp only [List.all_eq_true, Bool.and_eq_true, Bool.not_eq_true'] at hall
  obtain ⟨hblank, hadmits⟩ := hall c hforeign
  exact ofText?_defaultFormats_eq_none hc hblank hadmits

theorem dateOf?_of_isNumber {v : Value} (h : v.IsNumber) (settings : Settings) :
    settings.dateOf? v = .ok none := by
  rcases h with ⟨n, rfl⟩ | ⟨d, rfl⟩ <;> rfl

/-- Numbers apart, what a value stands for and what its text stands for is the same. -/
theorem dateOf?_eq_dateOfText? {v : Value} (h : ¬ v.IsNumber) :
    Settings.dateOf? {} v = Settings.dateOfText? {} v.asText := by
  -- For a value that is no date, it is enough that a character of its text has no place in dates.
  have other {v : Value} {c : Char} (hnone : Settings.dateOf? {} v = .ok none)
      (hc : c ∈ v.asText.toList) (hforeign : c ∈ foreignChars) :
      Settings.dateOf? {} v = Settings.dateOfText? {} v.asText := by
    rw [hnone, Settings.dateOfText?, ofText?_eq_none_of_foreign hc hforeign]
  cases v with
  | null => exact other rfl (c := 'N') (by decide) (by decide)
  | bool b =>
    cases b with
    | true => exact other rfl (c := 'T') (by decide) (by decide)
    | false => exact other rfl (c := 'F') (by decide) (by decide)
  | int n => exact absurd (.inl ⟨n, rfl⟩) h
  | decimal d => exact absurd (.inr ⟨d, rfl⟩) h
  | float x =>
    obtain ⟨c, hc, hmark⟩ := x.exists_mem_text
    have hforeign : ∀ c ∈ ['.', 'e', 'n'], c ∈ foreignChars := by simp [foreignChars]
    exact other rfl hc (hforeign c hmark)
  | text s => rfl
  | receiptType name => rfl
  | date d => rw [Settings.dateOf?, asText, Settings.dateOfText?_iso]
  | timestamp t => rw [Settings.dateOf?, asText, Settings.dateOfText?_iso]
  | list items => exact other rfl (c := '[') (by simp [asText_list, toString]) (by decide)
  | object entries => exact other rfl (c := '\x7b') (by simp [asText_object]) (by decide)

end Value

end ReceiptRules
