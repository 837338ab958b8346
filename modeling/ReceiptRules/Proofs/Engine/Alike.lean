import ReceiptRules.Engine
import ReceiptRules.Proofs.Condition.Alike
import ReceiptRules.Proofs.Rule.Resolution

/-!
# Classifications see what the rules look at

Two receipts of one identifier are classified alike if the fields that the rules look at read alike
on both: the date, and the fields of the conditions of rules that are switched on. Malformed rules
are passed over before their conditions are tried, so that no number is looked at as text. Keys that
denote no field, fields that no rule looks at, and the spelling of amounts and dates never matter.
-/

namespace ReceiptRules

variable {settings : Settings} {a b : Receipt} {rules : List Rule}

/-! ## Resolving -/

/-- Malformed rules are passed over whatever their conditions come to. -/
theorem Rule.firstMatch_congr_of_combine {settings' : Settings}
    (h : ∀ r ∈ rules, r.WellFormed → Condition.combine settings (some r.id) a r.conditions =
      Condition.combine settings' (some r.id) b r.conditions) :
    firstMatch settings a rules = firstMatch settings' b rules := by
  induction rules with
  | nil => rfl
  | cons r rest ih =>
    have hrest := ih fun x hx ↦ h x (List.mem_cons_of_mem r hx)
    cases hreason : r.malformedReason? with
    | some reason => simp only [firstMatch, hreason, hrest]
    | none =>
      have hcombine := h r List.mem_cons_self (malformedReason?_eq_none_iff.mp hreason)
      simp only [firstMatch, hreason, hcombine, hrest]

theorem Rule.firstMatch_congr
    (h : ∀ r ∈ rules, ∀ c ∈ r.conditions, c.field.ReadsAlike settings a b) :
    firstMatch settings a rules = firstMatch settings b rules := by
  apply firstMatch_congr_of_combine
  intro r hr hwf
  apply Condition.combine_congr
  intro c hc
  exact Condition.evaluate_congr (h r hr c hc) (hwf.2 c hc)

/-- The fields that a classification by some rules looks at. -/
def Rule.LookedAt (rules : List Rule) (f : Field) : Prop :=
  f = .date ∨ ∃ r ∈ rules, r.enabled = true ∧ ∃ c ∈ r.conditions, c.field = f

theorem Rule.resolve_congr (h : ∀ f, LookedAt rules f → f.ReadsAlike settings a b) :
    resolve settings a rules = resolve settings b rules := by
  apply firstMatch_congr
  intro r hr c hc
  obtain ⟨hmem, henabled⟩ := List.mem_filter.mp (mem_ordered.mp hr)
  exact h c.field (.inr ⟨r, hmem, henabled, c, hc, rfl⟩)

/-! ## Applying actions -/

theorem Directive.apply_congr (h : Field.date.ReadsAlike settings a b) (ruleId : Option String)
    (base : Option Directive) (occasion : Occasion) (actions : List Action) :
    apply settings ruleId (some a) base occasion actions =
      apply settings ruleId (some b) base occasion actions := by
  have hday : receiptDay settings ruleId (some a) occasion =
      receiptDay settings ruleId (some b) occasion := by
    rw [receiptDay, receiptDay, h.contentIn_eq (by decide)]
  rw [apply, apply, hday]

/-! ## Classifying -/

namespace Engine

theorem classify_congr (settings : Settings) (occasion : Directive.Occasion)
    (rules : List Rule) (counters : Option ArchiveNumber.Counters) (hid : a.id = b.id)
    (h : ∀ f, Rule.LookedAt rules f → f.ReadsAlike settings a b) :
    classify settings occasion rules a counters = classify settings occasion rules b counters := by
  have happly := Directive.apply_congr (h .date (.inl rfl))
  have hmatched : matchedOutcome a = matchedOutcome b := by
    funext r notes d
    rw [matchedOutcome, matchedOutcome, hid]
  have hunmatched : unmatchedOutcome a = unmatchedOutcome b := by
    funext notes d
    rw [unmatchedOutcome, unmatchedOutcome, hid]
  simp only [classify, Rule.resolve_congr h, happly, hmatched, hunmatched]

/-- Receipts of one identifier whose looked-at fields read alike are classified alike; in particular
those whose looked-at fields differ in the spelling of an amount or a day at most. -/
theorem classify_sees_contents (settings : Settings) (occasion : Directive.Occasion)
    (rules : List Rule) (counters : Option ArchiveNumber.Counters) (hid : a.id = b.id) :
    ((∀ f, Rule.LookedAt rules f → f.ReadsAlike settings a b) →
      classify settings occasion rules a counters = classify settings occasion rules b counters) ∧
    ((∀ f, Rule.LookedAt rules f → f.Respelled settings a b) →
      classify settings occasion rules a counters = classify settings occasion rules b counters) := by
  constructor
  · exact classify_congr settings occasion rules counters hid
  · intro h
    exact classify_congr settings occasion rules counters hid fun f hf ↦ (h f hf).readsAlike

/-- A rule that looks at the digits of an amount, and one that looks at its value. -/
def thousandRules : List Rule :=
  let moment := Timestamp.midnight ⟨2024, 1, 1, .refl true⟩
  [{ id := "DIGITS", name := "Digits", priority := 1,
      conditions := [⟨.amount, .contains, "1000", .and⟩],
      createdAt := moment, updatedAt := moment },
    { id := "VALUE", name := "Value",
      conditions := [⟨.amount, .inList, "1e3, lots", .and⟩, ⟨.remarks, .equals, "taxi", .and⟩],
      actions := [⟨.generateArchiveNumber, ""⟩],
      createdAt := moment, updatedAt := moment }]

def listedThousand : Receipt :=
  ⟨some "A", [("AMOUNT", .text "¥1,000.00"), ("DATE", .text "2024/3/5"), ("REMARKS", .text "taxi"),
    ("colour", .text "red"), ("SELLER_NAME", .text "Cafe")]⟩

def plainThousand : Receipt :=
  ⟨some "A", [("DATE", .date ⟨2024, 3, 5, .refl true⟩), ("REMARKS", .text "taxi"),
    ("AMOUNT", .int 1000)]⟩

def summer : Directive.Occasion := ⟨none, ⟨2024, 7, 15, .refl true⟩⟩

/-- An amount and a day in two spellings lead to one number and to the same notes. -/
theorem classify_sees_contents_thousand :
    classify {} summer thousandRules listedThousand (some .empty) =
      classify {} summer thousandRules plainThousand (some .empty) ∧
    (classify {} summer thousandRules plainThousand (some .empty)).1.map
      (fun o ↦ (o.ruleId, o.directive.bind Directive.archiveNumber, o.notes.length)) =
      .ok (some "VALUE", some "2024-03-OTH-0001", 2) := by
  constructor
  · apply (classify_sees_contents {} _ thousandRules (some .empty) (by decide)).2
    have hfields : ∀ r ∈ thousandRules, ∀ c ∈ r.conditions,
        c.field = .amount ∨ c.field = .remarks := by
      decide
    rintro f (rfl | ⟨r, hr, -, c, hc, rfl⟩)
    · exact .day ⟨2024, 3, 5, .refl true⟩ rfl (by decide +kernel) (by decide +kernel)
    · rcases hfields r hr c hc with hfield | hfield
      · rw [hfield]
        refine .amount ⟨false, 100000, -2⟩ ⟨false, 1000, 0⟩ rfl (by decide +kernel)
          (by decide +kernel) ?_
        norm_num [Decimal.value, Decimal.size]
      · rw [hfield]
        exact .same rfl
  · decide +kernel

end Engine

end ReceiptRules
