import Mathlib.Data.List.Basic
import ReceiptRules.Condition.Evaluate
import ReceiptRules.Proofs.Field.Content
import ReceiptRules.Rule.Check

/-!
# Checked conditions

A condition without problems is evaluated without a note on every receipt whose field is empty or
holds a content of the field's own kind, with one exception. A list of numbers or dates is not
checked item by item, so that items which cannot be read are noted at every evaluation although the
condition has no problems.
-/

namespace ReceiptRules

def Content.kind : Content → FieldKind
  | .text _ => .text
  | .number _ => .number
  | .date _ => .date

/-- The receipt has nothing in the field, or a content of the field's own kind. -/
def Receipt.HoldsOwnKind (settings : Settings) (receipt : Receipt) (f : Field) : Prop :=
  ∃ content, f.contentIn settings receipt = .ok content ∧ ∀ c, content = some c → c.kind = f.kind

/-- The text stands for a value of the kind. -/
def FieldKind.Reads (settings : Settings) : FieldKind → String → Prop
  | .text, _ => True
  | .number, s => ∃ d, Decimal.amountOfText? s = some d
  | .date, s => ∃ d, settings.dateOfText? s = .ok (some d)

/-- There is a verdict, and nothing is noted on the way. -/
def Verdict.Unnoted (verdict : Except Failure Verdict) : Prop := ∃ v, verdict = .ok v ∧ v.notes = []

namespace Condition

open Verdict

variable {settings : Settings} {ruleId : Option String} {c : Condition} {content : Content}

/-- The condition is evaluated without a note whatever the receipt holds of the field's own kind. -/
def Silent (settings : Settings) (c : Condition) : Prop :=
  ∀ (ruleId : Option String) (receipt : Receipt), receipt.HoldsOwnKind settings c.field →
    Unnoted (evaluate settings ruleId receipt c)

/-! ## Comparisons -/

theorem reads_of_comparisonProblems (h : c.comparisonProblems settings = .ok []) :
    c.field.kind.Reads settings c.value := by
  unfold comparisonProblems at h
  cases hkind : c.field.kind with
  | text => trivial
  | number =>
    rw [hkind] at h
    cases hvalue : Decimal.amountOfText? c.value with
    | none => simp [hvalue] at h
    | some d => exact ⟨d, hvalue⟩
  | date =>
    rw [hkind] at h
    obtain ⟨d, hvalue, hd⟩ := Except.map_eq_ok_iff.mp h
    cases d with
    | none => simp at hd
    | some d => exact ⟨d, hvalue⟩

theorem compareOn_of_read {α : Type} {scale : Scale α} {left right : α}
    (hleft : scale.ofContent content = .ok (some left))
    (hright : scale.ofText c.value = .ok (some right)) :
    compareOn scale c content = .ok (.ok (scale.order left right)) := by
  simp only [compareOn, hleft, hright, bind, Except.bind, pure, Except.pure]

/-- Contents of the own kind and readable texts of a number or date field are ordered. -/
theorem exists_compareSides (hkind : content.kind = c.field.kind) (htext : c.field.kind ≠ .text)
    (hreads : c.field.kind.Reads settings c.value) :
    ∃ order, compareSides settings c content = .ok (.ok order) := by
  unfold compareSides
  cases content with
  | text s => exact absurd hkind.symm htext
  | number left =>
    rw [← hkind] at hreads ⊢
    obtain ⟨right, hright⟩ := hreads
    exact ⟨_, compareOn_of_read rfl (congrArg Except.ok hright)⟩
  | date left =>
    rw [← hkind] at hreads ⊢
    obtain ⟨right, hright⟩ := hreads
    exact ⟨_, compareOn_of_read rfl hright⟩

theorem unnoted_orderVerdict (hkind : content.kind = c.field.kind) (htext : c.field.kind ≠ .text)
    (hreads : c.field.kind.Reads settings c.value) (test : Ordering → Bool) :
    Unnoted (orderVerdict settings ruleId c content test) := by
  obtain ⟨order, hsides⟩ := exists_compareSides hkind htext hreads
  exact ⟨⟨test order, []⟩, by rw [orderVerdict, hsides]; rfl, rfl⟩

theorem unnoted_equalityVerdict (hkind : content.kind = c.field.kind)
    (hreads : c.field.kind.Reads settings c.value) (wanted : Bool) :
    Unnoted (equalityVerdict settings ruleId c content wanted) := by
  unfold equalityVerdict
  split
  · exact ⟨_, rfl, rfl⟩
  · next htext => exact unnoted_orderVerdict hkind htext hreads _

theorem unnoted_patternVerdict (h : c.patternProblems = .ok []) :
    Unnoted (patternVerdict ruleId c content) := by
  unfold patternProblems at h
  split at h
  · next pattern hpattern => exact ⟨_, by rw [patternVerdict, hpattern], rfl⟩
  · cases h
  · cases h

/-! ## Lists -/

theorem unnoted_memberOn_iff {α : Type} {scale : Scale α} {left : α} {items : List String} :
    Unnoted (memberOn scale ruleId c left items) ↔
      ∀ item ∈ items, ∃ right, scale.ofText item = .ok (some right) := by
  induction items with
  | nil => exact ⟨by simp, fun _ ↦ ⟨_, rfl, rfl⟩⟩
  | cons item rest ih =>
    rw [List.forall_mem_cons, ← ih]
    constructor
    · rintro ⟨v, hv, hnotes⟩
      obtain ⟨parsed, hparsed, hv⟩ := Except.bind_eq_ok_iff.mp hv
      obtain ⟨others, hothers, hv⟩ := Except.bind_eq_ok_iff.mp hv
      cases parsed with
      | none =>
        cases hv
        cases hnotes
      | some right =>
        cases hv
        exact ⟨⟨right, hparsed⟩, others, hothers, hnotes⟩
    · rintro ⟨⟨right, hright⟩, others, hothers, hnotes⟩
      refine ⟨⟨scale.order left right == .eq || others.holds, others.notes⟩, ?_, hnotes⟩
      simp only [memberOn, hright, hothers, bind, Except.bind, pure, Except.pure]

theorem unnoted_listOn_iff {α : Type} {scale : Scale α} {left : α} {items : List String}
    (hleft : scale.ofContent content = .ok (some left)) :
    Unnoted (listOn scale ruleId c content items) ↔
      ∀ item ∈ items, ∃ right, scale.ofText item = .ok (some right) := by
  rw [← @unnoted_memberOn_iff ruleId c α scale left items]
  simp only [listOn, hleft, bind, Except.bind]

/-- A list gives no note exactly if each of its items stands for a value of the field's kind. -/
theorem unnoted_listVerdict_iff {items : List String} (hitems : c.listItems settings = .ok items)
    (hkind : content.kind = c.field.kind) :
    Unnoted (listVerdict settings ruleId c content) ↔
      ∀ item ∈ items, c.field.kind.Reads settings item := by
  simp only [listVerdict, hitems, bind, Except.bind]
  cases content with
  | text s =>
    rw [← hkind]
    exact ⟨fun _ _ _ ↦ trivial, fun _ ↦ ⟨_, rfl, rfl⟩⟩
  | number left =>
    rw [← hkind]
    have hreads (item : String) : (∃ right, Scale.numbers.ofText item = .ok (some right)) ↔
        FieldKind.number.Reads settings item := by
      simp only [Scale.numbers, FieldKind.Reads, Except.ok.injEq]
    exact (unnoted_listOn_iff rfl).trans (forall₂_congr fun item _ ↦ hreads item)
  | date left =>
    rw [← hkind]
    exact unnoted_listOn_iff rfl

/-! ## Checked conditions -/

/-- Every field can be filled with a content of its own kind. -/
theorem exists_content (settings : Settings) (f : Field) : ∃ receipt content,
    f.contentIn settings receipt = .ok (some content) ∧ content.kind = f.kind := by
  have hget (v : Value) : Receipt.get ⟨none, [(f.word, v)]⟩ f = v := by simp [Receipt.get]
  cases hkind : f.kind with
  | text =>
    refine ⟨⟨none, [(f.word, .text "")]⟩, .text "", ?_, rfl⟩
    rw [Field.contentIn, hget, hkind]
    rfl
  | number =>
    refine ⟨⟨none, [(f.word, .int 0)]⟩, .number (Decimal.ofInt 0), ?_, rfl⟩
    rw [Field.contentIn, hget, hkind]
    rfl
  | date =>
    let d : Date := ⟨2024, 1, 1, by decide⟩
    refine ⟨⟨none, [(f.word, .date d)]⟩, .date d, ?_, rfl⟩
    rw [Field.contentIn, hget, hkind]
    rfl

theorem unnoted_evaluate_of_verdictOn {receipt : Receipt}
    (hown : receipt.HoldsOwnKind settings c.field)
    (h : ∀ content : Content, content.kind = c.field.kind →
      Unnoted (verdictOn settings ruleId c content)) :
    Unnoted (evaluate settings ruleId receipt c) := by
  obtain ⟨content, hcontent, hkind⟩ := hown
  simp only [evaluate, hcontent, bind, Except.bind]
  cases content with
  | none => exact ⟨_, rfl, rfl⟩
  | some content => exact h content (hkind content rfl)

theorem supported_of_problems (h : c.problems settings = .ok []) :
    c.operator.supportedOn c.field = true := by
  cases hsupported : c.operator.supportedOn c.field with
  | true => rfl
  | false => simp [problems, hsupported] at h

/-- Outside of lists, a condition without problems is silent. -/
theorem silent_of_problems (h : c.problems settings = .ok []) (hlist : c.operator ≠ .inList) :
    Silent settings c := by
  intro ruleId receipt hown
  have hsupported := supported_of_problems h
  simp only [problems, hsupported, Bool.not_true, Bool.false_eq_true, if_false] at h
  refine unnoted_evaluate_of_verdictOn hown fun content hkind ↦ ?_
  unfold verdictOn
  cases hoperator : c.operator with
  | equals | notEquals =>
    rw [hoperator] at h
    exact unnoted_equalityVerdict hkind (reads_of_comparisonProblems h) _
  | greaterThan | lessThan | greaterEqual | lessEqual =>
    rw [hoperator] at h
    have htext : c.field.kind ≠ .text := by
      intro htext
      rw [hoperator, Operator.supportedOn, htext] at hsupported
      cases hsupported
    exact unnoted_orderVerdict hkind htext (reads_of_comparisonProblems h) _
  | contains | notContains | startsWith | endsWith => exact ⟨_, rfl, rfl⟩
  | regex =>
    rw [hoperator] at h
    exact unnoted_patternVerdict h
  | inList => exact absurd hoperator hlist

theorem exists_listItems (h : c.problems settings = .ok []) (hlist : c.operator = .inList) :
    ∃ items, c.listItems settings = .ok items := by
  have hsupported := supported_of_problems h
  simp only [problems, hsupported, Bool.not_true, Bool.false_eq_true, if_false] at h
  rw [hlist] at h
  obtain ⟨items, hitems, -⟩ := Except.map_eq_ok_iff.mp h
  exact ⟨items, hitems⟩

/-- A list condition is silent exactly if every item stands for a value of the field's kind. -/
theorem silent_iff_of_inList {items : List String} (hlist : c.operator = .inList)
    (hitems : c.listItems settings = .ok items) :
    Silent settings c ↔ ∀ item ∈ items, c.field.kind.Reads settings item := by
  have hverdict (ruleId : Option String) (content : Content) :
      verdictOn settings ruleId c content = listVerdict settings ruleId c content := by
    unfold verdictOn
    rw [hlist]
  constructor
  · intro hsilent
    obtain ⟨receipt, content, hcontent, hkind⟩ := exists_content settings c.field
    have hown : receipt.HoldsOwnKind settings c.field := by
      refine ⟨_, hcontent, fun c hc ↦ ?_⟩
      cases hc
      exact hkind
    have hunnoted := hsilent none receipt hown
    simp only [evaluate, hcontent, bind, Except.bind, hverdict] at hunnoted
    exact (unnoted_listVerdict_iff hitems hkind).mp hunnoted
  · intro hreads ruleId receipt hown
    refine unnoted_evaluate_of_verdictOn hown fun content hkind ↦ ?_
    rw [hverdict]
    exact (unnoted_listVerdict_iff hitems hkind).mpr hreads

/-- A condition without problems is silent exactly if it is no list or every item of the list stands
for a value of the field's kind. -/
theorem silent_iff_of_problems (h : c.problems settings = .ok []) :
    Silent settings c ↔ (c.operator = .inList → ∀ items, c.listItems settings = .ok items →
      ∀ item ∈ items, c.field.kind.Reads settings item) := by
  by_cases hlist : c.operator = .inList
  · obtain ⟨items, hitems⟩ := exists_listItems h hlist
    rw [silent_iff_of_inList hlist hitems]
    constructor
    · intro hreads _ items' hitems'
      cases hitems.symm.trans hitems'
      exact hreads
    · intro hreads
      exact hreads hlist items hitems
  · exact ⟨fun _ hlist' ↦ absurd hlist' hlist, fun _ ↦ silent_of_problems h hlist⟩

/-- Two amounts to compare with. -/
theorem silent_twoAmounts :
    let c : Condition := ⟨.amount, .inList, "10, 20.0", .and⟩
    c.problems {} = .ok [] ∧ Silent {} c := by
  intro c
  have hproblems : c.problems {} = .ok [] := by decide +kernel
  refine ⟨hproblems, (silent_iff_of_problems hproblems).mpr ?_⟩
  intro _ items hitems item hitem
  have hsplit : c.listItems {} = .ok ["10", "20.0"] := by decide +kernel
  cases hsplit.symm.trans hitems
  have hall : ∀ item ∈ ["10", "20.0"], (Decimal.amountOfText? item).isSome = true := by
    decide +kernel
  exact Option.isSome_iff_exists.mp (hall item hitem)

/-- An amount and a word to compare with: no problem is found, and a note is given on a receipt with
an amount. -/
theorem unreadItem_noted :
    let c : Condition := ⟨.amount, .inList, "10, lots", .and⟩
    let receipt : Receipt := ⟨none, [("AMOUNT", .int 10)]⟩
    c.problems {} = .ok [] ∧
      Field.amount.contentIn {} receipt = .ok (some (.number (Decimal.ofInt 10))) ∧
      evaluate {} none receipt c = .ok
        ⟨true, [predicateNote none "IN_LIST item 'lots' ignored for AMOUNT"]⟩ := by
  decide +kernel

end Condition

end ReceiptRules
