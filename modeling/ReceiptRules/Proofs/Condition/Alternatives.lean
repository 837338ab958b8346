import ReceiptRules.Proofs.Condition.Rejected
import ReceiptRules.Proofs.Pattern.Reading

/-!
# Alternatives of words

A pattern that names words, with bars between them, holds of a field exactly if one of the words is
contained in it. The pattern is never malformed and no problem is noted. The words are free of
signs; they may be empty, begin alike or occur several times, since it does not matter which of them
is found. There is no verdict where the field's own value cannot be written.
-/

namespace ReceiptRules.Condition

open Text Verdict

variable {settings : Settings} {ruleId : Option String} {receipt : Receipt} {f : Field}
  {words : List String} {joiner : Joiner} {content : Content}

theorem positive_ok_iff {holds : Bool} {notes : List Diagnostic} :
    Positive (.ok ⟨holds, notes⟩) ↔ holds = true := by
  simp [Positive]

theorem verdictOn_contains (w : String) :
    verdictOn settings ruleId ⟨f, .contains, w, joiner⟩ content =
      .ok ⟨Search.occursIn w content.asText, []⟩ := rfl

/-- The verdict on a content: each of the words is looked for. -/
theorem verdictOn_alternatives (hne : words ≠ [])
    (hwords : ∀ w ∈ words, ∀ c ∈ w.toList, c ∉ Pattern.Reader.signs) :
    verdictOn settings ruleId ⟨f, .regex, "|".intercalate words, joiner⟩ content =
      .ok ⟨words.any fun w ↦ Search.occursIn w content.asText, []⟩ := by
  have hpattern := Pattern.ofText_intercalate hne hwords
  simp only [verdictOn, patternVerdict, hpattern, Pattern.occursIn]
  congr 2
  rw [Bool.eq_iff_iff, Pattern.isSome_search_alternatives_iff (by simpa using hne)]
  simp [Search.occursIn, Search.occurs_iff_infix]

/-- A pattern of words with bars between them holds exactly if one of the words is contained.
Nothing is noted, and only the field can be at fault when there is no verdict. -/
theorem positive_alternatives_iff (hne : words ≠ [])
    (hwords : ∀ w ∈ words, ∀ c ∈ w.toList, c ∉ Pattern.Reader.signs) :
    let pattern : Condition := ⟨f, .regex, "|".intercalate words, joiner⟩
    (Positive (evaluate settings ruleId receipt pattern) ↔
      ∃ w ∈ words, Positive (evaluate settings ruleId receipt ⟨f, .contains, w, joiner⟩)) ∧
    (∀ v, evaluate settings ruleId receipt pattern = .ok v → v.notes = []) ∧
    ∀ e, evaluate settings ruleId receipt pattern = .error e ↔
      f.contentIn settings receipt = .error e := by
  intro pattern
  have hpattern (content : Content) : verdictOn settings ruleId pattern content = _ :=
    verdictOn_alternatives hne hwords
  refine ⟨?_, ?_, ?_⟩
  · simp only [positive_evaluate_iff, hpattern, verdictOn_contains]
    simp only [positive_ok_iff, List.any_eq_true]
    constructor
    · rintro ⟨content, hcontent, w, hw, hcontained⟩
      exact ⟨w, hw, content, hcontent, hcontained⟩
    · rintro ⟨w, hw, content, hcontent, hcontained⟩
      exact ⟨content, hcontent, w, hw, hcontained⟩
  · intro v hv
    obtain ⟨content, -, hv⟩ := Except.bind_eq_ok_iff.mp hv
    cases content with
    | none =>
      cases hv
      rfl
    | some content =>
      cases (hpattern content).symm.trans hv
      rfl
  · intro e
    refine Except.bind_eq_error_iff.trans (or_iff_left ?_)
    rintro ⟨content, -, he⟩
    cases content with
    | none => cases he
    | some content => cases (hpattern content).symm.trans he

/-- Fares of taxis, by the words of a seller's name. -/
theorem positive_alternatives_taxi :
    let words := ["出租", "客运", "Taxi", "TAXI"]
    let receipt : Receipt := ⟨none, [("SELLER_NAME", .text "City Taxi Ltd.")]⟩
    words ≠ [] ∧ (∀ w ∈ words, ∀ c ∈ w.toList, c ∉ Pattern.Reader.signs) ∧
      Positive (evaluate {} none receipt ⟨.sellerName, .regex, "出租|客运|Taxi|TAXI", .and⟩) := by
  intro words receipt
  have hne : words ≠ [] := List.cons_ne_nil _ _
  have hall : words.all fun w ↦ w.toList.all fun c ↦ c ∉ Pattern.Reader.signs := by decide
  have hwords : ∀ w ∈ words, ∀ c ∈ w.toList, c ∉ Pattern.Reader.signs := by
    simpa only [List.all_eq_true, decide_eq_true_eq] using hall
  have hcontained : Positive (evaluate {} none receipt ⟨.sellerName, .contains, "Taxi", .and⟩) :=
    ⟨⟨true, []⟩, by decide +kernel, rfl⟩
  exact ⟨hne, hwords,
    (positive_alternatives_iff hne hwords).1.mpr ⟨"Taxi", by simp [words], hcontained⟩⟩

end ReceiptRules.Condition
