import ReceiptRules.Field.Content
import ReceiptRules.Proofs.Decimal.Reading

/-!
# Amounts are read back

The text of a decimal is read back as an amount of the same value and the same sign, also when
thousands are set apart by commas, a currency mark stands in front and blanks stand around. The
amount need not be the same decimal, since zeros stand for a positive exponent. The bounds of the
exponent are those of every decimal that can be stored; what a text is read as keeps them.
-/

namespace ReceiptRules

open Text

namespace Decimal

/-- What may stand around the digits of an amount. -/
structure Dress where
  front : List Char := []
  mark : Option Char := none
  /-- Blanks behind the mark. -/
  gap : List Char := []
  back : List Char := []
  isBlank_front : ∀ c ∈ front, Blank.isBlank c = true := by simp
  mem_currencyMarks : ∀ c ∈ mark, c ∈ currencyMarks := by simp
  isBlank_gap : ∀ c ∈ gap, Blank.isBlank c = true := by simp
  isBlank_back : ∀ c ∈ back, Blank.isBlank c = true := by simp

def Dress.around (dress : Dress) (cs : List Char) : List Char :=
  dress.front ++ (dress.mark.toList ++ (dress.gap ++ (cs ++ dress.back)))

/-- The text with commas put into it. -/
def WithCommas (text cs : List Char) : Prop := cs.filter (· != ',') = text

/-- A text that is read as an amount of the decimal's value and sign. -/
def ReadAs (d : Decimal) (cs : List Char) : Prop :=
  ∃ x, (Value.text (String.ofList cs)).amount? = some x ∧ x.value = d.value ∧
    x.negative = d.negative

variable {d : Decimal} {text cs : List Char}

theorem isBlank_of_withCommas (hplain : text ⊆ plainCharacters) (hcommas : WithCommas text cs) :
    ∀ c ∈ cs, Blank.isBlank c = false := by
  have hblank : ∀ c ∈ ',' :: plainCharacters, Blank.isBlank c = false :=
    List.all_iff_forall_prop.mp (by decide)
  intro c hc
  refine hblank c (List.mem_cons.mpr (or_iff_not_imp_left.mpr fun hcomma ↦ hplain ?_))
  rw [← hcommas]
  exact List.mem_filter.mpr ⟨hc, bne_iff_ne.mpr hcomma⟩

theorem withCommas_ne_nil (hne : text ≠ []) (hcommas : WithCommas text cs) : cs ≠ [] := by
  rintro rfl
  exact hne hcommas.symm

theorem trimChars_around (dress : Dress) (hne : cs ≠ []) (h : ∀ c ∈ cs, Blank.isBlank c = false) :
    Blank.trimChars (dress.around cs) = match dress.mark with
      | none => cs
      | some m => m :: (dress.gap ++ cs) := by
  obtain ⟨front, mark, gap, back, hfront, hmark, hgap, hback⟩ := dress
  rw [Dress.around, Blank.trimChars_append_left hfront]
  cases mark with
  | none =>
    rw [Option.toList_none, List.nil_append, Blank.trimChars_append_left hgap,
      Blank.trimChars_append_right hback, Blank.trimChars_of_forall h]
  | some m =>
    have hmarks : ∀ m ∈ currencyMarks, Blank.isBlank m = false :=
      List.all_iff_forall_prop.mp (by decide)
    have hlast : (m :: (gap ++ cs)).getLast? = some (cs.getLast hne) := by
      rw [← List.cons_append, List.getLast?_append_of_ne_nil _ hne,
        List.getLast?_eq_some_getLast hne]
    have hinner : Blank.trimChars (m :: (gap ++ cs)) = m :: (gap ++ cs) :=
      Blank.trimChars_of_ends rfl hlast (hmarks m (hmark m rfl)) (h _ (List.getLast_mem hne))
    have hall : [m] ++ (gap ++ (cs ++ back)) = m :: (gap ++ cs) ++ back := by simp
    rw [Option.toList_some, hall, Blank.trimChars_append_right hback, hinner]

theorem dropCurrency_of_subset (hplain : text ⊆ plainCharacters) : dropCurrency text = text := by
  have hmarks : ∀ c ∈ plainCharacters, ¬ currencyMarks.contains c = true :=
    List.all_iff_forall_prop.mp (by decide)
  cases text with
  | nil => rfl
  | cons c rest => exact if_neg (hmarks c (hplain List.mem_cons_self))

/-- What stands around the digits of an amount makes no difference. -/
theorem amountOfChars?_around (dress : Dress) (hne : text ≠ []) (hplain : text ⊆ plainCharacters)
    (hcommas : WithCommas text cs) :
    amountOfChars? (dress.around cs) = (Extended.readChars? text).bind Extended.finite? := by
  have htrim := trimChars_around dress (withCommas_ne_nil hne hcommas)
    (isBlank_of_withCommas hplain hcommas)
  have hdigits : cs.filter (· != ',') = text := hcommas
  rw [amountOfChars?, htrim]
  cases hmark : dress.mark with
  | none => rw [hdigits, dropCurrency_of_subset hplain]
  | some m =>
    have hm : m ∈ currencyMarks := dress.mem_currencyMarks m hmark
    have hcomma : ∀ m ∈ currencyMarks, (m != ',') = true := List.all_iff_forall_prop.mp (by decide)
    have hgap : dress.gap.filter (· != ',') = dress.gap := by
      refine List.filter_eq_self.mpr fun c hc ↦ bne_iff_ne.mpr ?_
      exact Blank.ne_of_isBlank (by decide) (dress.isBlank_gap c hc)
    have hblank : ∀ c ∈ text, Blank.isBlank c = false := by
      intro c hc
      rw [← hdigits] at hc
      exact isBlank_of_withCommas hplain hcommas c (List.mem_of_mem_filter hc)
    have hdropped : dropCurrency (m :: (dress.gap ++ text)) = text := by
      rw [dropCurrency, if_pos (List.contains_iff_mem.mpr hm),
        Blank.trimChars_append_left dress.isBlank_gap, Blank.trimChars_of_forall hblank]
    simp only [List.filter_cons, hcomma m hm, if_true, List.filter_append, hgap, hdigits, hdropped]

/-- The texts of a decimal are read as an amount of its value and its sign, and whatever a text is
read as can be stored. -/
theorem readAs_around (hfits : d.fits = true) :
    d.ReadAs (Value.decimal (.finite d)).asText.toList ∧
    (∀ (dress : Dress) (cs : List Char),
      WithCommas (Value.decimal (.finite d)).asText.toList cs → d.ReadAs (dress.around cs)) ∧
    ∀ s, (Value.text s).amount? = none ∨ ∃ x, (Value.text s).amount? = some x ∧ x.fits = true := by
  have htext : (Value.decimal (.finite d)).asText.toList = d.plainChars := by
    exact String.toList_ofList
  have hne : d.plainChars ≠ [] := by
    obtain ⟨ds, fs, hplain, hne, -⟩ := exists_plainAbs_eq d
    simp [plainChars, hplain, hne]
  have haround (dress : Dress) (cs : List Char) (hcommas : WithCommas d.plainChars cs) :
      d.ReadAs (dress.around cs) := by
    refine ⟨d.spelledOut, ?_, value_spelledOut d, rfl⟩
    rw [Value.amount?, amountOfText?, String.toList_ofList,
      amountOfChars?_around dress hne (plainChars_subset d) hcommas,
      finite?_readChars?_plainChars hfits]
  rw [htext]
  refine ⟨?_, haround, fun s ↦ ?_⟩
  · have hnone : WithCommas d.plainChars d.plainChars := by
      have hcomma : ∀ c ∈ plainCharacters, (c != ',') = true :=
        List.all_iff_forall_prop.mp (by decide)
      exact List.filter_eq_self.mpr fun c hc ↦ hcomma c (plainChars_subset d hc)
    have hread := haround {} _ hnone
    simpa [Dress.around] using hread
  · cases hread : (Value.text s).amount? with
    | none => exact .inl rfl
    | some x => exact .inr ⟨x, rfl, fits_of_amountOfChars? hread⟩

/-- An amount with a mark and commas. -/
theorem readAs_around_marked :
    let d : Decimal := ⟨true, 12345, 2⟩
    d.fits = true ∧ d.ReadAs "\t¥ -1,234,500 ".toList := by
  intro d
  have hfits : d.fits = true := by decide +kernel
  let dress : Dress :=
    { front := ['\t'], mark := some '¥', gap := [' '], back := [' ']
      isBlank_front := List.forall_mem_singleton.mpr (by decide)
      mem_currencyMarks := by simp [currencyMarks]
      isBlank_gap := List.forall_mem_singleton.mpr (by decide)
      isBlank_back := List.forall_mem_singleton.mpr (by decide) }
  have htext : "\t¥ -1,234,500 ".toList = dress.around "-1,234,500".toList := by decide
  have hcommas : WithCommas (Value.decimal (.finite d)).asText.toList "-1,234,500".toList := by
    rw [WithCommas]
    decide +kernel
  rw [htext]
  exact ⟨hfits, (readAs_around hfits).2.1 dress _ hcommas⟩

end Decimal

end ReceiptRules
