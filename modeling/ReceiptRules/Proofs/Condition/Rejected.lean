import ReceiptRules.Proofs.Condition.Validation
import ReceiptRules.Proofs.Text.Pieces

/-!
# Rejected conditions

A condition that the check finds problems in does not hold of any receipt, with one exception: a
list without values is a list of blanks, and for a text field it holds of the empty text. Lists of
numbers and dates ignore what is blank. The operator has to fit the field; what becomes of the other
conditions is a matter of the whole rule.
-/

namespace ReceiptRules

open Text

/-- There is a verdict, and the condition holds by it. -/
def Verdict.Positive (verdict : Except Failure Verdict) : Prop :=
  ∃ v, verdict = .ok v ∧ v.holds = true

/-- The text stands for no value of the kind. -/
def FieldKind.Unread (settings : Settings) : FieldKind → String → Prop
  | .text, _ => False
  | .number, s => Decimal.amountOfText? s = none
  | .date, s => settings.dateOfText? s = .ok none

/-- The empty text stands for no number and for no date, whatever the formats are. -/
theorem FieldKind.unread_empty {settings : Settings} {kind : FieldKind} (h : kind ≠ .text) :
    kind.Unread settings "" := by
  cases kind with
  | text => exact h rfl
  | number => exact (by decide +kernel : Decimal.amountOfText? "" = none)
  | date => exact (rfl : settings.dateOfText? "" = .ok none)

namespace Condition

open Verdict

variable {settings : Settings} {ruleId : Option String} {receipt : Receipt} {c : Condition}
  {content : Content}

/-- The operator fits the field, and still the check finds a problem. -/
def Rejected (settings : Settings) (c : Condition) : Prop :=
  c.operator.supportedOn c.field = true ∧ ∃ found, c.problems settings = .ok found ∧ found ≠ []

/-- What the check finds in a condition whose operator fits the field. -/
inductive Flaw (settings : Settings) (c : Condition) : Prop
  | pattern (cause : Pattern.Cause) (position : Option Nat) (hoperator : c.operator = .regex)
    (h : Pattern.ofText c.value = .error (.malformed cause position))
  | list (items : List String) (hoperator : c.operator = .inList)
    (hitems : c.listItems settings = .ok items) (h : ∀ item ∈ items, item = "")
  | comparison (hregex : c.operator ≠ .regex) (hlist : c.operator ≠ .inList)
    (h : c.field.kind.Unread settings c.value)

/-! ## What is rejected -/

theorem malformed_of_patternProblems {found : List String} (h : c.patternProblems = .ok found)
    (hfound : found ≠ []) :
    ∃ cause position, Pattern.ofText c.value = .error (.malformed cause position) := by
  unfold patternProblems at h
  split at h
  · cases h
    exact absurd rfl hfound
  · next cause position hpattern => exact ⟨cause, position, hpattern⟩
  · cases h

theorem unread_of_comparisonProblems {found : List String}
    (h : c.comparisonProblems settings = .ok found) (hfound : found ≠ []) :
    c.field.kind.Unread settings c.value := by
  unfold comparisonProblems at h
  cases hkind : c.field.kind with
  | text =>
    rw [hkind] at h
    cases h
    exact hfound rfl
  | number =>
    rw [hkind] at h
    cases hvalue : Decimal.amountOfText? c.value with
    | none => exact hvalue
    | some d =>
      simp only [hvalue, Option.isNone_some, Bool.false_eq_true, if_false] at h
      cases h
      exact absurd rfl hfound
  | date =>
    rw [hkind] at h
    obtain ⟨d, hvalue, hd⟩ := Except.map_eq_ok_iff.mp h
    cases d with
    | none => exact hvalue
    | some d => exact absurd hd.symm hfound

theorem Rejected.flaw (h : Rejected settings c) : c.Flaw settings := by
  obtain ⟨hsupported, found, hproblems, hfound⟩ := h
  simp only [problems, hsupported, Bool.not_true, Bool.false_eq_true, if_false] at hproblems
  split at hproblems
  · next hoperator =>
    obtain ⟨cause, position, hpattern⟩ := malformed_of_patternProblems hproblems hfound
    exact .pattern cause position hoperator hpattern
  · next hoperator =>
    obtain ⟨items, hitems, hblank⟩ := Except.map_eq_ok_iff.mp hproblems
    split at hblank
    · next hall =>
      refine .list items hoperator hitems fun item hitem ↦ ?_
      exact String.isEmpty_iff.mp (List.all_eq_true.mp hall item hitem)
    · exact absurd hblank.symm hfound
  · next hregex hlist =>
    exact .comparison hregex hlist (unread_of_comparisonProblems hproblems hfound)

/-! ## What a rejected condition holds of -/

theorem not_positive_patternVerdict {cause : Pattern.Cause} {position : Option Nat}
    (h : Pattern.ofText c.value = .error (.malformed cause position)) :
    ¬ Positive (patternVerdict ruleId c content) := by
  rw [patternVerdict, h]
  rintro ⟨v, hv, hholds⟩
  cases hv
  cases hholds

theorem not_compareOn_of_unread {α : Type} {scale : Scale α} (h : scale.ofText c.value = .ok none)
    (order : Ordering) : compareOn scale c content ≠ .ok (.ok order) := by
  intro hcompare
  obtain ⟨left, -, hcompare⟩ := Except.bind_eq_ok_iff.mp hcompare
  cases left with
  | none => cases hcompare
  | some left =>
    obtain ⟨right, hright, hcompare⟩ := Except.bind_eq_ok_iff.mp hcompare
    cases h.symm.trans hright
    cases hcompare

theorem not_compareSides_of_unread (h : c.field.kind.Unread settings c.value) (order : Ordering) :
    compareSides settings c content ≠ .ok (.ok order) := by
  unfold compareSides
  cases hkind : c.field.kind with
  | text =>
    rw [hkind] at h
    exact h.elim
  | number =>
    rw [hkind] at h
    exact not_compareOn_of_unread (congrArg Except.ok h) order
  | date =>
    rw [hkind] at h
    have hvalue : (Scale.days settings).ofText c.value = .ok none := h
    exact not_compareOn_of_unread hvalue order

theorem not_positive_orderVerdict (h : c.field.kind.Unread settings c.value)
    (test : Ordering → Bool) : ¬ Positive (orderVerdict settings ruleId c content test) := by
  rintro ⟨v, hv, hholds⟩
  obtain ⟨sides, hsides, rfl⟩ := Except.map_eq_ok_iff.mp hv
  cases sides with
  | ok order => exact not_compareSides_of_unread h order hsides
  | error message => cases hholds

theorem not_positive_memberOn {α : Type} {scale : Scale α} {left : α} {items : List String}
    (h : ∀ item ∈ items, scale.ofText item = .ok none) :
    ¬ Positive (memberOn scale ruleId c left items) := by
  induction items with
  | nil =>
    rintro ⟨v, hv, hholds⟩
    cases hv
    cases hholds
  | cons item rest ih =>
    obtain ⟨hitem, hrest⟩ := List.forall_mem_cons.mp h
    rintro ⟨v, hv, hholds⟩
    obtain ⟨parsed, hparsed, hv⟩ := Except.bind_eq_ok_iff.mp hv
    obtain ⟨others, hothers, hv⟩ := Except.bind_eq_ok_iff.mp hv
    cases hitem.symm.trans hparsed
    cases hv
    exact ih hrest ⟨others, hothers, hholds⟩

theorem not_positive_listOn {α : Type} {scale : Scale α} {items : List String}
    (h : ∀ item ∈ items, scale.ofText item = .ok none) :
    ¬ Positive (listOn scale ruleId c content items) := by
  rintro ⟨v, hv, hholds⟩
  obtain ⟨left, -, hv⟩ := Except.bind_eq_ok_iff.mp hv
  cases left with
  | none =>
    cases hv
    cases hholds
  | some left => exact not_positive_memberOn h ⟨v, hv, hholds⟩

theorem listItems_ne_nil {items : List String} (h : c.listItems settings = .ok items) :
    items ≠ [] := by
  unfold listItems at h
  split at h
  · cases h
  · cases h
    rw [Ne, List.map_eq_nil_iff, Search.split, List.map_eq_nil_iff]
    exact Search.pieces_ne_nil _ _ _

/-- A list of blanks holds of the empty text alone. -/
theorem positive_listVerdict_iff_of_blank {items : List String}
    (hitems : c.listItems settings = .ok items) (hblank : ∀ item ∈ items, item = "") :
    Positive (listVerdict settings ruleId c content) ↔
      c.field.kind = .text ∧ content.asText = "" := by
  have hunread (hkind : c.field.kind ≠ .text) :
      ∀ item ∈ items, c.field.kind.Unread settings item := by
    intro item hitem
    rw [hblank item hitem]
    exact FieldKind.unread_empty hkind
  simp only [listVerdict, hitems, bind, Except.bind]
  cases hkind : c.field.kind with
  | text =>
    simp only [true_and]
    constructor
    · rintro ⟨v, hv, hholds⟩
      cases hv
      exact hblank _ (List.contains_iff_mem.mp hholds)
    · intro hempty
      obtain ⟨item, hitem⟩ := List.exists_mem_of_ne_nil items (listItems_ne_nil hitems)
      rw [hblank item hitem] at hitem
      refine ⟨_, rfl, List.contains_iff_mem.mpr ?_⟩
      rw [hempty]
      exact hitem
  | number =>
    rw [hkind] at hunread
    have htext : FieldKind.number ≠ .text := by decide
    have hnone : ∀ item ∈ items, Scale.numbers.ofText item = .ok none := fun item hitem ↦
      congrArg Except.ok (hunread htext item hitem)
    exact iff_of_false (not_positive_listOn hnone) fun hboth ↦ htext hboth.1
  | date =>
    rw [hkind] at hunread
    have htext : FieldKind.date ≠ .text := by decide
    exact iff_of_false (not_positive_listOn (hunread htext)) fun hboth ↦ htext hboth.1

theorem positive_verdictOn_iff_of_rejected (h : Rejected settings c) :
    Positive (verdictOn settings ruleId c content) ↔
      c.operator = .inList ∧ c.field.kind = .text ∧ content.asText = "" := by
  have hsupported := h.1
  cases h.flaw with
  | pattern cause position hoperator hpattern =>
    simp only [verdictOn, hoperator]
    exact iff_of_false (not_positive_patternVerdict hpattern) nofun
  | list items hoperator hitems hblank =>
    simp only [verdictOn, hoperator, true_and]
    exact positive_listVerdict_iff_of_blank hitems hblank
  | comparison hregex hlist hunread =>
    have htext : c.field.kind ≠ .text := by
      intro htext
      rw [htext] at hunread
      exact hunread
    refine iff_of_false ?_ fun hboth ↦ hlist hboth.1
    have hequality (wanted : Bool) :
        ¬ Positive (equalityVerdict settings ruleId c content wanted) := by
      unfold equalityVerdict
      split
      · next hkind => exact absurd hkind htext
      · exact not_positive_orderVerdict hunread _
    unfold verdictOn
    cases hoperator : c.operator with
    | equals | notEquals => exact hequality _
    | greaterThan | lessThan | greaterEqual | lessEqual =>
      exact not_positive_orderVerdict hunread _
    | contains | notContains | startsWith | endsWith =>
      -- These operators fit texts alone.
      rw [hoperator, Operator.supportedOn, Operator.fits, beq_iff_eq] at hsupported
      exact absurd hsupported htext
    | regex => exact absurd hoperator hregex
    | inList => exact absurd hoperator hlist

theorem positive_evaluate_iff : Positive (evaluate settings ruleId receipt c) ↔
    ∃ content, c.field.contentIn settings receipt = .ok (some content) ∧
      Positive (verdictOn settings ruleId c content) := by
  constructor
  · rintro ⟨v, hv, hholds⟩
    obtain ⟨content, hcontent, hv⟩ := Except.bind_eq_ok_iff.mp hv
    cases content with
    | none =>
      cases hv
      cases hholds
    | some content => exact ⟨content, hcontent, v, hv, hholds⟩
  · rintro ⟨content, hcontent, v, hv, hholds⟩
    exact ⟨v, Except.bind_eq_ok_iff.mpr ⟨_, hcontent, hv⟩, hholds⟩

/-- A rejected condition holds only as a list on a text field, and then of the empty text alone. -/
theorem positive_iff_of_rejected (h : Rejected settings c) :
    Positive (evaluate settings ruleId receipt c) ↔
      c.operator = .inList ∧ c.field.kind = .text ∧
        c.field.contentIn settings receipt = .ok (some (.text "")) := by
  rw [positive_evaluate_iff]
  constructor
  · rintro ⟨content, hcontent, hpositive⟩
    obtain ⟨hoperator, hkind, hempty⟩ := (positive_verdictOn_iff_of_rejected h).mp hpositive
    obtain ⟨s, rfl⟩ := Field.exists_text_of_contentIn hkind hcontent
    cases (hempty : s = "")
    exact ⟨hoperator, hkind, hcontent⟩
  · rintro ⟨hoperator, hkind, hcontent⟩
    exact ⟨_, hcontent, (positive_verdictOn_iff_of_rejected h).mpr ⟨hoperator, hkind, rfl⟩⟩

/-- A word that is no amount. -/
theorem not_positive_unreadAmount :
    let c : Condition := ⟨.amount, .notEquals, "lots", .and⟩
    Rejected {} c ∧ ¬ Positive (evaluate {} none ⟨none, [("AMOUNT", .int 10)]⟩ c) := by
  intro c
  have hproblems : c.problems {} =
      .ok ["NOT_EQUALS on AMOUNT needs a numeric value, got 'lots'"] := by decide +kernel
  have hrejected : Rejected {} c := ⟨rfl, _, hproblems, List.cons_ne_nil _ _⟩
  refine ⟨hrejected, fun hpositive ↦ ?_⟩
  obtain ⟨hoperator, -⟩ := (positive_iff_of_rejected hrejected).mp hpositive
  cases hoperator

/-- A list without values that holds of a receipt. -/
theorem blankList_positive :
    let c : Condition := ⟨.remarks, .inList, " , ", .and⟩
    let receipt : Receipt := ⟨none, [("REMARKS", .text "")]⟩
    c.operator.supportedOn c.field = true ∧
      c.problems {} = .ok ["IN_LIST on REMARKS has no values"] ∧
      evaluate {} none receipt c = .ok ⟨true, []⟩ := by
  decide +kernel

end Condition

end ReceiptRules
