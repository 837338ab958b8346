import ReceiptRules.Proofs.Batch.Numbering
import ReceiptRules.Proofs.Engine.Notes

/-!
# Notes of a batch

The report counts what is noted about the rules and on the directives of all receipts exactly when no
receipt of the batch loses the note on its date: when every receipt that no rule matches has a date
that can be read, or none, or is not to be numbered.
-/

namespace ReceiptRules.Batch

open Engine

variable {settings : Settings} {occasion : Directive.Occasion} {rules : List Rule}
  {receipts : List Receipt} {outcomes : List Outcome} {counters moved : Option ArchiveNumber.Counters}

/-- Sums of notes agree exactly when they agree for each receipt, since no outcome has more notes than
its rules and its directive. -/
theorem length_notes_of_noted (h : List.Forall₂ (Noted settings rules) receipts outcomes) :
    (outcomes.flatMap Outcome.notes).length ≤
        (receipts.flatMap (ruleNotes settings rules)).length +
          (outcomes.flatMap directiveNotes).length ∧
      ((outcomes.flatMap Outcome.notes).length =
          (receipts.flatMap (ruleNotes settings rules)).length +
            (outcomes.flatMap directiveNotes).length ↔
        ∀ pair ∈ receipts.zip outcomes, ¬ LosesNotes settings pair.1 pair.2) := by
  induction h with
  | nil => simp
  | @cons receipt o receipts outcomes hfirst _ ih =>
    obtain ⟨hle, hiff⟩ := ih
    obtain ⟨hle', hiff'⟩ := hfirst.length_notes
    simp only [List.flatMap_cons, List.length_append, List.zip_cons_cons, List.forall_mem_cons]
    rw [← hiff, ← hiff']
    omega

/-- A classification loses the notes on its directive, and a report the count of them, for the
receipts that no rule matches and that are to be numbered by a date which cannot be read, and for
no others. -/
theorem notes_reach_report_iff (settings : Settings) (occasion : Directive.Occasion)
    (rules : List Rule) :
    (∀ receipt counters o moved d,
      classify settings occasion rules receipt counters = (.ok o, moved) → o.directive = some d →
      ((∀ n ∈ d.diagnostics, n ∈ o.notes) ↔ ¬ LosesNotes settings receipt o)) ∧
    ∀ receipts counters now fresh r moved,
      run settings occasion now fresh rules receipts counters = (.ok r, moved) →
      (r.noteCount = (receipts.flatMap (ruleNotes settings rules)).length +
          (r.outcomes.flatMap directiveNotes).length ↔
        ∀ pair ∈ receipts.zip r.outcomes, ¬ LosesNotes settings pair.1 pair.2) := by
  constructor
  · intro receipt counters o moved d h hd
    have hiff := (noted_of_classify h).mem_notes_iff
    rw [directiveNotes, hd] at hiff
    exact hiff
  · intro receipts counters now fresh r moved h
    obtain ⟨outcomes, hall, rfl⟩ := run_eq_ok_iff.mp h
    exact (length_notes_of_noted (forall₂_of_classifyAll noted_of_classify hall)).2

/-- A rule for receipts with a remark on lunch, with an action of an unknown category. -/
def lunchRule : Rule where
  id := "lunch"
  name := "Lunch"
  conditions := [⟨.remarks, .contains, "lunch", .and⟩]
  actions := [⟨.setCategory, "lunch"⟩]
  createdAt := .midnight ⟨2024, 4, 1, by decide⟩
  updatedAt := .midnight ⟨2024, 4, 1, by decide⟩

def lunchReceipt : Receipt := ⟨some "A", [("REMARKS", .text "lunch in town")]⟩

/-- The note on the unknown category reaches the outcome. -/
theorem notes_reach_report_lunch :
    ∃ o d, classify {} ⟨none, ⟨2024, 7, 15, by decide⟩⟩ [lunchRule] lunchReceipt none =
        (.ok o, none) ∧
      o.directive = some d ∧ d.diagnostics ≠ [] ∧ ∀ n ∈ d.diagnostics, n ∈ o.notes := by
  obtain ⟨o, d, hclassify, hd, hnoted, hmatched⟩ :
      ∃ o d, classify {} ⟨none, ⟨2024, 7, 15, by decide⟩⟩ [lunchRule] lunchReceipt none =
          (.ok o, none) ∧
        o.directive = some d ∧ d.diagnostics ≠ [] ∧ o.matched = true :=
    ⟨_, _, rfl, rfl, by decide +kernel, rfl⟩
  refine ⟨o, d, hclassify, hd, hnoted, ?_⟩
  refine ((notes_reach_report_iff _ _ _).1 _ _ _ _ _ hclassify hd).mpr fun hloses ↦ ?_
  have hunmatched := hloses.unmatched
  rw [hmatched] at hunmatched
  cases hunmatched

/-- A receipt whose date is a word. -/
def undated : Receipt := ⟨some "A", [("DATE", .text "soon")]⟩

def undatedNote : Diagnostic := ⟨none, .malformedAction,
  "GENERATE_ARCHIVE_NUMBER: DATE value 'soon' is not a date; period taken from today"⟩

/-- The note on the date of a numbered receipt that no rule matches is found on its directive, but not
on its outcome. -/
theorem undatedNote_lost :
    ∃ o d, classify { unmatchedNumbered := true } ⟨none, ⟨2024, 7, 15, by decide⟩⟩ [] undated none =
        (.ok o, none) ∧
      o.directive = some d ∧ undatedNote ∈ d.diagnostics ∧ undatedNote ∉ o.notes :=
  ⟨_, _, rfl, rfl, by decide +kernel, by decide +kernel⟩

end ReceiptRules.Batch
