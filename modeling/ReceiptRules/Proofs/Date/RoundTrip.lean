import Mathlib.Data.List.Nodup
import ReceiptRules.Field.Content
import ReceiptRules.Proofs.Date.Spelling

/-!
# Dates are read back

The text of a date in one of the default formats is read back as the date, with any blanks around it,
and the text of a year, a month and a day that make up no date is read as none. The order in which the
formats are tried makes no difference, since all but one read nothing from such a text.
-/

namespace ReceiptRules.Date

open Text Format

/-! ## The default formats -/

theorem exists_layout {format : String} (hformat : format ∈ defaultFormats) :
    ∃ items ∈ defaultLayouts, Format.read format = .ok items := by
  have hmem : Format.read format ∈ defaultFormats.map Format.read := List.mem_map_of_mem hformat
  rw [map_read_defaultFormats, List.mem_map] at hmem
  obtain ⟨items, hitems, hread⟩ := hmem
  exact ⟨items, hitems, hread.symm⟩

theorem format_eq_of_read {format other : String} (hformat : format ∈ defaultFormats)
    (hother : other ∈ defaultFormats) (h : Format.read other = Format.read format) :
    other = format := by
  have hnodup : (defaultFormats.map Format.read).Nodup := by
    rw [map_read_defaultFormats]
    exact List.Nodup.map (fun _ _ h ↦ Except.ok.inj h) (by decide)
  exact List.inj_on_of_nodup_map hnodup hother hformat h

section Text

variable {s : Spelling} {format : String} {items : List Item} {text : String}

theorem isBlank_of_mem_text (hitems : items ∈ defaultLayouts) {c : Char} (hc : c ∈ s.text items) :
    Blank.isBlank c = false := by
  rcases Spelling.mem_text hc with ⟨d, hd, rfl⟩ | hliteral
  · exact Digit.isBlank_of_isDigit (Digit.isDigit_char hd)
  · exact isBlank_sign c (mem_signs_of_mem hitems hliteral)

theorem text_ne_nil (hitems : items ∈ defaultLayouts) : s.text items ≠ [] := by
  have hyear : ∀ items ∈ defaultLayouts, .field .year ∈ items := by decide
  intro hnil
  have hchars := List.flatMap_eq_nil_iff.mp hnil _ (hyear items hitems)
  exact Digit.padded_ne_nil 4 s.year hchars

theorem ofText?_of_around (formats : List String) (hitems : items ∈ defaultLayouts)
    (haround : Blank.Around (s.text items) text.toList) :
    ofText? formats text = readChars? formats (s.text items) := by
  have htrim : Blank.trimChars text.toList = s.text items := by
    rw [Blank.trimChars_of_around haround,
      Blank.trimChars_of_forall fun c hc ↦ isBlank_of_mem_text hitems hc]
  have hne : (s.text items).isEmpty = false := List.isEmpty_eq_false_iff.mpr (text_ne_nil hitems)
  simp only [ofText?, htrim, hne, Bool.false_eq_true, if_false]

/-- The default formats read a text in one of them as the date that its numbers make up, if there is
one, and no other of them alone reads anything. -/
theorem ofText?_text (hformat : format ∈ defaultFormats) (hread : Format.read format = .ok items)
    (hsuits : s.Suits items) (haround : Blank.Around (s.text items) text.toList) :
    ofText? defaultFormats text = .ok (of? s.year s.month s.day) ∧
      ∀ other ∈ defaultFormats, other ≠ format → ofText? [other] text = .ok none := by
  obtain ⟨items', hitems, hread'⟩ := exists_layout hformat
  cases hread.symm.trans hread'
  have hothers : ∀ other ∈ defaultFormats, other ≠ format →
      readChars? [other] (s.text items) = .ok none := by
    intro other hother hne
    obtain ⟨otherItems, hother', hreadOther⟩ := exists_layout hother
    rw [readChars?_singleton hreadOther, readItems?_text_of_ne hitems hother']
    intro heq
    exact hne (format_eq_of_read hformat hother (by rw [hreadOther, hread, heq]))
  simp only [ofText?_of_around _ hitems haround]
  refine ⟨readChars?_of_forall_ne hformat hothers ?_, hothers⟩
  rw [readChars?_singleton hread, readItems?_text hitems hsuits]

end Text

/-- The default formats read the standard text of a date as the date. -/
theorem ofText?_iso (d : Date) : ofText? defaultFormats d.iso = .ok (some d) := by
  let s : Spelling := ⟨d.year, d.month, d.day, true, true, (bounds_of_isDay d.valid).1⟩
  have htext : d.iso.toList = s.text (separated '-' '-' []) := by
    rw [text_separated, iso, String.toList_ofList, isoChars, List.append_nil, List.append_assoc]
    rfl
  have hread : Format.read "%Y-%m-%d" = .ok (separated '-' '-' []) := rfl
  have haround : Blank.Around (s.text (separated '-' '-' [])) d.iso.toList :=
    Blank.around_of_all [] [] (by rw [htext, List.append_nil, List.nil_append]) rfl rfl
  rw [(ofText?_text (by simp [defaultFormats]) hread (.inr ⟨rfl, rfl⟩) haround).1, of?_parts]

/-- Whatever blanks stand around it, a text in a default format of a year of four digits, a month and
a day is read as the date that these make up, and as none if they make up none. No format tried
before can take it for another date, since none of the others reads anything from it. -/
theorem dateOf?_spelled (s : Spelling) {format : String} {items : List Item} {text : String}
    (hformat : format ∈ defaultFormats) (hread : Format.read format = .ok items)
    (hsuits : s.Suits items) (haround : Blank.Around (s.text items) text.toList) :
    (∀ d : Date, d.year = s.year → d.month = s.month → d.day = s.day →
      Settings.dateOf? {} (.text text) = .ok (some d)) ∧
    (isDay s.year s.month s.day = false → Settings.dateOf? {} (.text text) = .ok none) ∧
    ∀ other ∈ defaultFormats, other ≠ format → ofText? [other] text = .ok none := by
  obtain ⟨htext, hothers⟩ := ofText?_text hformat hread hsuits haround
  have hdate : Settings.dateOf? {} (.text text) = .ok (of? s.year s.month s.day) := by
    rw [Settings.dateOf?, Settings.dateOfText?, htext]
  refine ⟨?_, ?_, hothers⟩
  · intro d hyear hmonth hday
    rw [hdate, of?_eq_some_iff.mpr ⟨hyear, hmonth, hday⟩]
  · intro hnone
    rw [hdate, of?, dif_neg (by simp [hnone])]

/-- The 29th of February, which is not in every year. -/
def lateFebruary (year : Nat) (h : year < 10000) : Spelling :=
  { year := year, month := 2, day := 29, monthPadded := false, year_lt := h }

theorem dateOf?_spelled_lateFebruary :
    let s := lateFebruary 2000 (by decide)
    let s' := lateFebruary 1900 (by decide)
    "%Y年%m月%d日" ∈ defaultFormats ∧
      Format.read "%Y年%m月%d日" = .ok (separated '年' '月' ['日']) ∧
      s.Suits (separated '年' '月' ['日']) ∧ s'.Suits (separated '年' '月' ['日']) ∧
      Blank.Around (s.text (separated '年' '月' ['日'])) "\t2000年2月29日 ".toList ∧
      Blank.Around (s'.text (separated '年' '月' ['日'])) "1900年2月29日".toList ∧
      Settings.dateOf? {} (.text "\t2000年2月29日 ") = .ok (some ⟨2000, 2, 29, by decide⟩) ∧
      Settings.dateOf? {} (.text "1900年2月29日") = .ok none := by
  intro s s'
  have hformat : "%Y年%m月%d日" ∈ defaultFormats := by simp [defaultFormats]
  have hread : Format.read "%Y年%m月%d日" = .ok (separated '年' '月' ['日']) := rfl
  have hsuits : s.Suits (separated '年' '月' ['日']) := .inl ⟨'年', by decide⟩
  have hsuits' : s'.Suits (separated '年' '月' ['日']) := .inl ⟨'年', by decide⟩
  have haround : Blank.Around (s.text (separated '年' '月' ['日'])) "\t2000年2月29日 ".toList :=
    Blank.around_of_all ['\t'] [' '] (by decide +kernel) rfl rfl
  have haround' : Blank.Around (s'.text (separated '年' '月' ['日'])) "1900年2月29日".toList :=
    Blank.around_of_all [] [] (by decide +kernel) rfl rfl
  exact ⟨hformat, hread, hsuits, hsuits', haround, haround',
    (dateOf?_spelled s hformat hread hsuits haround).1 ⟨2000, 2, 29, by decide⟩ rfl rfl rfl,
    (dateOf?_spelled s' hformat hread hsuits' haround').2.1 (by decide)⟩

end ReceiptRules.Date
