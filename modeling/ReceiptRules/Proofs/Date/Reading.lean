import ReceiptRules.Proofs.Date.Matching
import ReceiptRules.Proofs.Except
import ReceiptRules.Proofs.Text.Blank

/-!
# Reading dates by a format

A text that is read by a format, blanks around it apart, is matched by the items of the format and
holds only characters that one of them admits. Where one format alone may read a text, the order of
the formats makes no difference. Reading fails only at a format that repeats a field.
-/

namespace ReceiptRules.Date

open Text Format

/-! ## Reading by one format -/

/-- The date that is read comes from fields that match the whole text. -/
theorem exists_matches_of_readItems? {items : List Item} {cs : List Char} {d : Date}
    (h : readItems? items cs = some d) :
    ∃ found, Matches items found cs ∧ (found.foldlM Parts.add {}).bind Parts.date? = some d := by
  unfold readItems? at h
  split at h
  · next found hmatch =>
    obtain ⟨taken, rfl, hmatches⟩ := exists_matches_of_matchItems hmatch
    exact ⟨found, by simpa using hmatches, h⟩
  · cases h

theorem exists_admits_of_readItems? {items : List Item} {cs : List Char} {d : Date}
    (h : readItems? items cs = some d) : ∀ c ∈ cs, ∃ item ∈ items, admits item c = true := by
  obtain ⟨found, hmatches, -⟩ := exists_matches_of_readItems? h
  exact hmatches.exists_admits

/-! ## Reading by a list of formats -/

/-- A text is read by one of the formats, and each of its characters is admitted by an item of it. -/
theorem exists_admits_of_readChars? {formats : List String} {cs : List Char} {d : Date}
    (h : readChars? formats cs = .ok (some d)) :
    ∃ format ∈ formats, ∃ items, Format.read format = .ok items ∧
      ∀ c ∈ cs, ∃ item ∈ items, admits item c = true := by
  induction formats with
  | nil => cases h
  | cons format others ih =>
    have later (h : readChars? others cs = .ok (some d)) :
        ∃ f ∈ format :: others, ∃ items, Format.read f = .ok items ∧
          ∀ c ∈ cs, ∃ item ∈ items, admits item c = true := by
      obtain ⟨f, hf, hadmits⟩ := ih h
      exact ⟨f, List.mem_cons_of_mem format hf, hadmits⟩
    rw [readChars?] at h
    split at h
    · exact later h
    · cases h
    · next items hread =>
      split at h
      · next found hfound =>
        cases h
        exact ⟨format, List.mem_cons_self, items, hread, exists_admits_of_readItems? hfound⟩
      · exact later h

theorem readChars?_cons (format : String) (others : List String) (cs : List Char) :
    readChars? (format :: others) cs = (readChars? [format] cs).bind fun d ↦
      if d.isSome then .ok d else readChars? others cs := by
  rw [readChars?, readChars?]
  split
  · rfl
  · rfl
  · next items _ =>
    cases readItems? items cs <;> rfl

theorem readChars?_cons_eq_error_iff {format : String} {others : List String} {cs : List Char}
    {e : Format.Error} :
    readChars? (format :: others) cs = .error e ↔
      Format.read format = .error e ∧ e ≠ .unknownDirective ∨
        readChars? [format] cs = .ok none ∧ readChars? others cs = .error e := by
  rw [readChars?, readChars?]
  split
  · next hread =>
    have hother : ¬ (Format.read format = .error e ∧ e ≠ .unknownDirective) := by
      rintro ⟨he, hknown⟩
      exact hknown (Except.error.inj (he.symm.trans hread))
    simp [hother, readChars?]
  · next e' hknown hread =>
    constructor
    · rintro ⟨⟩
      exact .inl ⟨hread, hknown⟩
    · rintro (⟨he, -⟩ | ⟨hnone, -⟩)
      · cases hread.symm.trans he
        rfl
      · cases hnone
  · next items hread =>
    cases hfound : readItems? items cs with
    | none => simp [hread, readChars?]
    | some d => simp [hread]

/-- Reading fails at a format that repeats a field, unless a format before it fits the text. -/
theorem readChars?_eq_error_iff {formats : List String} {cs : List Char} {e : Format.Error} :
    readChars? formats cs = .error e ↔
      formats.Halts (fun format ↦ readChars? [format] cs = .ok none)
        (fun format ↦ Format.read format = .error e ∧ e ≠ .unknownDirective) := by
  induction formats with
  | nil => exact iff_of_false nofun List.not_halts_nil
  | cons format others ih => rw [readChars?_cons_eq_error_iff, List.halts_cons_iff, ih]

/-- A list of formats without a mistake never fails to say whether a text is a date. -/
theorem exists_ok_of_readChars? {formats : List String} (cs : List Char)
    (h : ∀ format ∈ formats, ∃ items, Format.read format = .ok items) :
    ∃ d, readChars? formats cs = .ok d := by
  cases hread : readChars? formats cs with
  | ok d => exact ⟨d, rfl⟩
  | error e =>
    obtain ⟨front, format, back, rfl, -, herror, -⟩ := readChars?_eq_error_iff.mp hread
    obtain ⟨items, hitems⟩ := h format (List.mem_append_right front List.mem_cons_self)
    cases herror.symm.trans hitems

theorem readChars?_singleton {format : String} {items : List Item}
    (hread : Format.read format = .ok items) (cs : List Char) :
    readChars? [format] cs = .ok (readItems? items cs) := by
  rw [readChars?, hread]
  cases h : readItems? items cs <;> simp [h, readChars?]

theorem readChars?_eq_none {formats : List String} {cs : List Char}
    (h : ∀ format ∈ formats, readChars? [format] cs = .ok none) :
    readChars? formats cs = .ok none := by
  induction formats with
  | nil => rfl
  | cons format others ih =>
    obtain ⟨hfirst, hothers⟩ := List.forall_mem_cons.mp h
    rw [readChars?_cons, hfirst]
    exact ih hothers

/-- Where one format alone may read a text, its place in the list makes no difference. -/
theorem readChars?_of_forall_ne {formats : List String} {format : String} {cs : List Char}
    (hmem : format ∈ formats)
    (hothers : ∀ other ∈ formats, other ≠ format → readChars? [other] cs = .ok none)
    {r : Option Date} (hr : readChars? [format] cs = .ok r) : readChars? formats cs = .ok r := by
  cases r with
  | none =>
    refine readChars?_eq_none fun other hother ↦ ?_
    by_cases heq : other = format
    · rw [heq, hr]
    · exact hothers other hother heq
  | some d =>
    induction formats with
    | nil => cases hmem
    | cons first rest ih =>
      rw [readChars?_cons]
      by_cases heq : first = format
      · rw [heq, hr]
        rfl
      · rw [hothers first List.mem_cons_self heq]
        exact ih (List.mem_of_ne_of_mem (Ne.symm heq) hmem) fun other hother ↦
          hothers other (List.mem_cons_of_mem first hother)

/-! ## The default formats -/

/-- The items of the default formats. -/
def defaultItems : List Item := [
  .field .year, .field .month, .field .day, .literal '-', .literal '/', .literal '年',
  .literal '月', .literal '日']

theorem read_defaultFormats : ∀ format ∈ defaultFormats,
    ∃ items, Format.read format = .ok items ∧ ∀ item ∈ items, item ∈ defaultItems := by
  simp only [defaultFormats, List.forall_mem_cons]
  refine ⟨⟨_, rfl, by decide⟩, ⟨_, rfl, by decide⟩, ⟨_, rfl, by decide⟩, ⟨_, rfl, by decide⟩, ?_⟩
  simp

theorem exists_ok_of_ofText?_defaultFormats (s : String) :
    ∃ d, ofText? defaultFormats s = .ok d := by
  simp only [ofText?]
  split
  · exact ⟨none, rfl⟩
  · refine exists_ok_of_readChars? _ fun format hformat ↦ ?_
    obtain ⟨items, hitems, -⟩ := read_defaultFormats format hformat
    exact ⟨items, hitems⟩

/-- A text with a character that is no blank and has no place in a date is no date. -/
theorem ofText?_defaultFormats_eq_none {s : String} {c : Char} (hc : c ∈ s.toList)
    (hblank : Blank.isBlank c = false) (hforeign : ∀ item ∈ defaultItems, admits item c = false) :
    ofText? defaultFormats s = .ok none := by
  obtain ⟨d, hd⟩ := exists_ok_of_ofText?_defaultFormats s
  cases d with
  | none => exact hd
  | some d =>
    simp only [ofText?] at hd
    split at hd
    · cases hd
    · obtain ⟨format, hformat, items, hitems, hadmits⟩ := exists_admits_of_readChars? hd
      obtain ⟨items', hitems', hdefault⟩ := read_defaultFormats format hformat
      cases hitems.symm.trans hitems'
      obtain ⟨item, hitem, hc⟩ := hadmits c (Blank.mem_trimChars hc hblank)
      rw [hforeign item (hdefault item hitem)] at hc
      cases hc

end ReceiptRules.Date
