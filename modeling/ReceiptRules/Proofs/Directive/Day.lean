import ReceiptRules.Condition.Evaluate
import ReceiptRules.Proofs.Directive.Notes
import ReceiptRules.Proofs.Value.Days

/-!
# The day of a receipt in conditions and in numbering

Conditions and numbering read the date of a receipt on their own. A condition reads the text of a
value that stands for no day once more, numbering does not. This makes a difference for whole
numbers and decimals alone: a condition takes the number 20240305 for the fifth of March 2024, and
numbering notes that it is not a date. For every other value the number is given for the month of
the day that conditions see.
-/

namespace ReceiptRules

namespace Date

theorem compareDays_eq_iff {a b : Date} : compareDays a b = .eq ↔ a = b := by
  obtain ⟨year, month, day, valid⟩ := a
  obtain ⟨year', month', day', valid'⟩ := b
  simp [compareDays, Ordering.then_eq_eq]

end Date

theorem Scale.ofText_days (settings : Settings) (s : String) :
    (Scale.days settings).ofText s = settings.dateOfText? s := rfl

namespace Condition

variable {ruleId : Option String} {receipt : Receipt} {joiner : Joiner} {d : Date}

/-- On the scale of days a content of the date field is read as the text of the value is. -/
theorem ofContent_days {content : Content}
    (h : Field.date.contentIn {} receipt = .ok (some content)) :
    (Scale.days {}).ofContent content = Settings.dateOfText? {} (receipt.get .date).asText := by
  obtain ⟨-, hfound | ⟨-, -, rfl⟩⟩ := Field.contentIn_eq_some_iff.mp h
  · obtain ⟨d, hday, rfl⟩ := Field.contentOf?_date_eq_some_iff.mp hfound
    have hnumber : ¬ (receipt.get .date).IsNumber := by
      intro hnumber
      rw [Value.dateOf?_of_isNumber hnumber] at hday
      cases hday
    rw [← Value.dateOf?_eq_dateOfText? hnumber, hday]
    rfl
  · rfl

/-- The date of a receipt is equal to a day exactly if its text is read as that day. -/
theorem holds_equals_iff {v : Verdict}
    (h : evaluate {} ruleId receipt ⟨.date, .equals, d.iso, joiner⟩ = .ok v) :
    v.holds = true ↔
      Settings.dateOfText? {} (receipt.get .date).asText = .ok (some d) := by
  obtain ⟨content, hcontent, h⟩ := Except.bind_eq_ok_iff.mp h
  cases content with
  | none =>
    cases h
    have hnumber : ¬ Value.null.IsNumber := by simp [Value.IsNumber]
    rw [Field.contentIn_eq_none_iff.mp hcontent, ← Value.dateOf?_eq_dateOfText? hnumber]
    simp [Settings.dateOf?]
  | some content =>
    obtain ⟨sides, hsides, rfl⟩ := Except.map_eq_ok_iff.mp h
    obtain ⟨left, hleft, hsides⟩ := Except.bind_eq_ok_iff.mp hsides
    change (Scale.days {}).ofContent content = .ok left at hleft
    rw [← ofContent_days hcontent, hleft]
    cases left with
    | none =>
      cases hsides
      simp
    | some day =>
      obtain ⟨right, hright, hsides⟩ := Except.bind_eq_ok_iff.mp hsides
      rw [Scale.ofText_days, Settings.dateOfText?_iso] at hright
      cases hright
      cases hsides
      simp [Scale.days, Date.compareDays_eq_iff]

end Condition

namespace Directive

open ArchiveNumber

variable {ruleId : Option String} {receipt : Receipt} {occasion : Occasion} {d : Date}

/-- The number of the receipt is asked for in the month of a day: whatever else is to be done and
whenever it is, and without a note that the date cannot be read. -/
def NumberedFor (receipt : Receipt) (d : Date) : Prop :=
  ∀ (ruleId : Option String) (base : Option Directive) (occasion : Occasion)
    (actions : List Action), (∃ a ∈ actions, a.AsksNumber) →
      ∃ directive code, apply {} ruleId (some receipt) base occasion actions = .ok directive ∧
        directive.numberRequest = some ⟨periodOf d, code⟩ ∧
        ∀ shown, dateNote ruleId shown occasion ∈ directive.diagnostics →
          dateNote ruleId shown occasion ∈ (base.getD { ruleId := ruleId }).diagnostics

theorem word_append_ne (kind : ActionKind) (problem shown rest : String) :
    kind.word ++ " not applied: " ++ problem ≠
      "GENERATE_ARCHIVE_NUMBER: DATE value " ++ shown ++ rest := by
  intro h
  -- Within these characters the word ends and is followed by a blank or by a colon.
  have htake := congrArg (fun s ↦ s.toList.take 24) h
  cases kind <;> simp [ActionKind.word] at htake

/-- The note on an invalid action is never one on the date of the receipt. -/
theorem note?_ne_dateNote (a : Action) (shown : String) :
    a.note? ruleId ≠ some (dateNote ruleId shown occasion) := by
  intro h
  obtain ⟨problem, -, h⟩ := Option.map_eq_some_iff.mp h
  have hmessage := congrArg Diagnostic.message h
  simp only [dateNote, toString] at hmessage
  exact word_append_ne a.kind problem shown _ (hmessage.trans String.append_assoc)

theorem receiptDay_of_dateOf? {settings : Settings}
    (h : settings.dateOf? (receipt.get .date) = .ok (some d)) :
    receiptDay settings ruleId (some receipt) occasion = .ok (some d, []) := by
  have hpresent : receipt.get .date ≠ .null := by
    intro hnull
    rw [hnull] at h
    cases h
  have hcontent : Field.date.contentIn settings receipt = .ok (some (.date d)) :=
    Field.contentIn_eq_some_iff.mpr
      ⟨hpresent, .inl (Field.contentOf?_date_eq_some_iff.mpr ⟨d, h, rfl⟩)⟩
  rw [receiptDay, hcontent]
  rfl

/-- A number in the date field is no day, and wherever it has a text it is noted as no date. -/
theorem eq_of_receiptDay_of_isNumber {settings : Settings} {day : Option Date}
    {notes : List Diagnostic} (hnumber : (receipt.get .date).IsNumber)
    (h : receiptDay settings ruleId (some receipt) occasion = .ok (day, notes)) :
    notes = [dateNote ruleId (Text.Quoted.quote (receipt.get .date).asText) occasion] := by
  have hnone := Value.dateOf?_of_isNumber hnumber settings
  cases dayOf_of_receiptDay h with
  | missing hcontent =>
    rw [Field.contentIn_eq_none_iff.mp hcontent] at hnumber
    simp [Value.IsNumber] at hnumber
  | day d hcontent =>
    obtain ⟨-, hfound | ⟨-, -, htext⟩⟩ := Field.contentIn_eq_some_iff.mp hcontent
    · obtain ⟨d', hd', -⟩ := Field.contentOf?_date_eq_some_iff.mp hfound
      cases hd'.symm.trans hnone
    · cases htext
  | unread s hcontent =>
    obtain ⟨-, hfound | ⟨-, -, htext⟩⟩ := Field.contentIn_eq_some_iff.mp hcontent
    · obtain ⟨d', -, hdate⟩ := Field.contentOf?_date_eq_some_iff.mp hfound
      cases hdate
    · cases htext
      rfl

theorem numberedFor_of_dateOf? (h : Settings.dateOf? {} (receipt.get .date) = .ok (some d)) :
    NumberedFor receipt d := by
  intro ruleId base occasion actions hasks
  have happly := @apply_of_asksNumber {} ruleId (some receipt) base occasion actions hasks
  rw [receiptDay_of_dateOf? h] at happly
  refine ⟨_, _, happly, rfl, fun shown hnote ↦ ?_⟩
  simp only [List.append_nil, mem_addNotes, List.mem_filterMap] at hnote
  rcases hnote with hnote | ⟨a, -, ha⟩
  · exact hnote
  · exact absurd ha (note?_ne_dateNote a shown)

theorem not_numberedFor_of_isNumber (h : (receipt.get .date).IsNumber) :
    ¬ NumberedFor receipt d := by
  intro hfor
  -- One action that asks for a number is enough, with no directive before it.
  have hasks : ∃ a ∈ [(⟨.generateArchiveNumber, ""⟩ : Action)], a.AsksNumber :=
    ⟨_, List.mem_singleton_self _, rfl, rfl⟩
  obtain ⟨directive, code, happly, -, hnotes⟩ := hfor none none ⟨none, d⟩ _ hasks
  rw [apply_of_asksNumber hasks] at happly
  obtain ⟨⟨day, notes⟩, hday, rfl⟩ := Except.map_eq_ok_iff.mp happly
  cases eq_of_receiptDay_of_isNumber h hday
  have hnone := hnotes (Text.Quoted.quote (receipt.get .date).asText) (by simp [mem_addNotes])
  cases hnone

/-- Conditions and numbering agree on a day exactly if the date field does not hold a number. -/
theorem numberedFor_iff_of_holds {joiner : Joiner} {v : Verdict}
    (h : Condition.evaluate {} ruleId receipt ⟨.date, .equals, d.iso, joiner⟩ = .ok v)
    (hholds : v.holds = true) :
    NumberedFor receipt d ↔ ¬ (receipt.get .date).IsNumber := by
  constructor
  · intro hfor hnumber
    exact not_numberedFor_of_isNumber hnumber hfor
  · intro hnumber
    apply numberedFor_of_dateOf?
    rw [Value.dateOf?_eq_dateOfText? hnumber]
    exact (Condition.holds_equals_iff h).mp hholds

/-- The fifth of March 2024, written with slashes, on a receipt. -/
theorem numberedFor_slashedDate :
    let receipt : Receipt := ⟨none, [("DATE", .text "2024/03/05")]⟩
    let d : Date := ⟨2024, 3, 5, by decide⟩
    Condition.evaluate {} none receipt ⟨.date, .equals, d.iso, .and⟩ = .ok ⟨true, []⟩ ∧
      NumberedFor receipt d := by
  intro receipt d
  have hevaluate :
      Condition.evaluate {} none receipt ⟨.date, .equals, d.iso, .and⟩ = .ok ⟨true, []⟩ := by
    decide +kernel
  refine ⟨hevaluate, (numberedFor_iff_of_holds hevaluate rfl).mpr ?_⟩
  rintro (⟨n, hn⟩ | ⟨x, hx⟩)
  · cases hn
  · cases hx

/-- The same day as a whole number: the condition holds, and the number is for the current month. -/
theorem wholeNumber_disagreement :
    let receipt : Receipt := ⟨none, [("DATE", .int 20240305)]⟩
    let d : Date := ⟨2024, 3, 5, by decide⟩
    let occasion : Occasion := ⟨none, ⟨2024, 7, 15, by decide⟩⟩
    Condition.evaluate {} none receipt ⟨.date, .equals, d.iso, .and⟩ = .ok ⟨true, []⟩ ∧
      apply {} none (some receipt) none occasion [⟨.generateArchiveNumber, ""⟩] = .ok
        { numberRequest := some ⟨"2024-07", "OTH"⟩
          diagnostics := [dateNote none "'20240305'" occasion] } := by
  decide +kernel

end Directive

end ReceiptRules
