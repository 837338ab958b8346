import ReceiptRules.Proofs.Condition.Notes
import ReceiptRules.Proofs.Condition.Validation

/-!
# Conditions that cannot be decided

Under the default settings a condition on which there is no deciding, because its pattern is
malformed or one of the sides is no number or no date, does not hold and gives one note. What stops
an evaluation is a value that is to be taken as text and has none, and a pattern that is refused
although it is not malformed: for numbers that are too large, or for flags that contradict each
other.
-/

namespace ReceiptRules

/-- The pattern is refused for another reason than a mistake in its text. -/
def Pattern.Refused (s : String) (problem : Pattern.Problem) : Prop :=
  Pattern.ofText s = .error problem ∧ ∀ cause position, problem ≠ .malformed cause position

/-- The content is a value of the kind, or a text that stands for one. -/
def Content.StandsFor (kind : FieldKind) : Content → Prop
  | .text s => kind.Reads {} s
  | content => content.kind = kind

/-! ## Scales -/

/-- Everything is read on the scale as a value of the kind or as none. -/
structure Scale.Fits {α : Type} (scale : Scale α) (kind : FieldKind) : Prop where
  ofContent : ∀ content,
    content.StandsFor kind ∧ (∃ left, scale.ofContent content = .ok (some left)) ∨
      ¬ content.StandsFor kind ∧ scale.ofContent content = .ok none
  ofText : ∀ s, kind.Reads {} s ∧ (∃ right, scale.ofText s = .ok (some right)) ∨
    ¬ kind.Reads {} s ∧ scale.ofText s = .ok none

theorem Scale.fits_numbers : numbers.Fits .number := by
  have htext (s : String) : FieldKind.number.Reads {} s ∧
        (∃ right, numbers.ofText s = .ok (some right)) ∨
      ¬ FieldKind.number.Reads {} s ∧ numbers.ofText s = .ok none := by
    cases hs : Decimal.amountOfText? s with
    | none => exact .inr ⟨by simp [FieldKind.Reads, hs], congrArg Except.ok hs⟩
    | some d => exact .inl ⟨⟨d, hs⟩, d, congrArg Except.ok hs⟩
  refine ⟨fun content ↦ ?_, htext⟩
  cases content with
  | text s => exact htext s
  | number d => exact .inl ⟨rfl, d, rfl⟩
  | date d =>
    have hkind : ¬ Content.StandsFor .number (.date d) := by
      intro hkind
      cases hkind
    exact .inr ⟨hkind, rfl⟩

theorem Scale.fits_days : (days {}).Fits .date := by
  have htext (s : String) : FieldKind.date.Reads {} s ∧
        (∃ right, (days {}).ofText s = .ok (some right)) ∨
      ¬ FieldKind.date.Reads {} s ∧ (days {}).ofText s = .ok none := by
    obtain ⟨day, hday⟩ := Field.exists_dateOfText? s
    cases day with
    | none => exact .inr ⟨by simp [FieldKind.Reads, hday], hday⟩
    | some d => exact .inl ⟨⟨d, hday⟩, d, hday⟩
  refine ⟨fun content ↦ ?_, htext⟩
  cases content with
  | text s => exact htext s
  | number d =>
    have hkind : ¬ Content.StandsFor .date (.number d) := by
      intro hkind
      cases hkind
    exact .inr ⟨hkind, rfl⟩
  | date d => exact .inl ⟨rfl, d, rfl⟩

namespace Condition

variable {ruleId : Option String} {receipt : Receipt} {c : Condition} {content : Content}

/-! ## Verdicts on a content -/

/-- The kind of the two sides of a comparison. -/
def comparedKind (c : Condition) : FieldKind :=
  match c.field.kind with
  | .date => .date
  | _ => .number

/-- The condition puts two values in order. -/
def Compares (c : Condition) : Prop :=
  match c.operator with
  | .greaterThan | .lessThan | .greaterEqual | .lessEqual => True
  | .equals | .notEquals => c.field.kind ≠ .text
  | _ => False

/-- There is no deciding whether the condition holds of the content. -/
inductive Undecidable (c : Condition) (content : Content) : Prop
  | pattern (cause : Pattern.Cause) (position : Option Nat) (hoperator : c.operator = .regex)
    (h : Pattern.ofText c.value = .error (.malformed cause position))
  | comparison (hcompares : c.Compares)
    (h : ¬ (content.StandsFor c.comparedKind ∧ c.comparedKind.Reads {} c.value))
  | list (hoperator : c.operator = .inList) (hkind : c.field.kind ≠ .text)
    (h : ¬ content.StandsFor c.field.kind)

section

variable (hcompares : c.Compares) (hregex : c.operator = .regex) (hlist : c.operator = .inList)

include hcompares in
theorem operator_ne_of_compares : c.operator ≠ .regex ∧ c.operator ≠ .inList := by
  constructor <;> intro hoperator <;> simp [Compares, hoperator] at hcompares

include hcompares in
theorem undecidable_iff_of_compares : c.Undecidable content ↔
    ¬ (content.StandsFor c.comparedKind ∧ c.comparedKind.Reads {} c.value) := by
  obtain ⟨hregex, hlist⟩ := operator_ne_of_compares hcompares
  refine ⟨fun h ↦ ?_, .comparison hcompares⟩
  cases h with
  | pattern _ _ hoperator => exact absurd hoperator hregex
  | comparison _ hnot => exact hnot
  | list hoperator => exact absurd hoperator hlist

include hregex in
theorem undecidable_iff_of_regex : c.Undecidable content ↔
    ∃ cause position, Pattern.ofText c.value = .error (.malformed cause position) := by
  refine ⟨fun h ↦ ?_, fun ⟨cause, position, h⟩ ↦ .pattern cause position hregex h⟩
  cases h with
  | pattern cause position _ h => exact ⟨cause, position, h⟩
  | comparison hcompares => exact absurd hregex (operator_ne_of_compares hcompares).1
  | list hoperator => cases hregex.symm.trans hoperator

include hlist in
theorem undecidable_iff_of_inList : c.Undecidable content ↔
    c.field.kind ≠ .text ∧ ¬ content.StandsFor c.field.kind := by
  refine ⟨fun h ↦ ?_, fun ⟨hkind, hnot⟩ ↦ .list hlist hkind hnot⟩
  cases h with
  | pattern _ _ hoperator => cases hlist.symm.trans hoperator
  | comparison hcompares => exact absurd hlist (operator_ne_of_compares hcompares).2
  | list _ hkind hnot => exact ⟨hkind, hnot⟩

end

/-- What becomes of a condition under the default settings. -/
inductive Judged (ruleId : Option String) (c : Condition) (content : Content) :
    Except Failure Verdict → Prop
  | decided (holds : Bool) (h : ¬ c.Undecidable content) : Judged ruleId c content (.ok ⟨holds, []⟩)
  | listed (v : Verdict) (hoperator : c.operator = .inList) (h : ¬ c.Undecidable content) :
    Judged ruleId c content (.ok v)
  | undecided (message : String) (h : c.Undecidable content) :
    Judged ruleId c content (.ok ⟨false, [predicateNote ruleId message]⟩)
  | stopped (problem : Pattern.Problem) (hoperator : c.operator = .regex)
    (h : Pattern.Refused c.value problem) : Judged ruleId c content (.error (.pattern problem))

theorem compareOn_of_fits {α : Type} {scale : Scale α} {kind : FieldKind}
    (hfits : scale.Fits kind) :
    (content.StandsFor kind ∧ kind.Reads {} c.value) ∧
        (∃ order, compareOn scale c content = .ok (.ok order)) ∨
      ¬ (content.StandsFor kind ∧ kind.Reads {} c.value) ∧
        ∃ message, compareOn scale c content = .ok (.error message) := by
  rcases hfits.ofContent content with ⟨hstands, left, hleft⟩ | ⟨hstands, hleft⟩
  · rcases hfits.ofText c.value with ⟨hreads, right, hright⟩ | ⟨hreads, hright⟩
    · exact .inl ⟨⟨hstands, hreads⟩, _, compareOn_of_read hleft hright⟩
    · refine .inr ⟨fun h ↦ hreads h.2, ?_⟩
      simp only [compareOn, hleft, hright, bind, Except.bind]
      exact ⟨_, rfl⟩
  · refine .inr ⟨fun h ↦ hstands h.1, ?_⟩
    simp only [compareOn, hleft, bind, Except.bind]
    exact ⟨_, rfl⟩

theorem compareSides_cases (c : Condition) (content : Content) :
    (content.StandsFor c.comparedKind ∧ c.comparedKind.Reads {} c.value) ∧
        (∃ order, compareSides {} c content = .ok (.ok order)) ∨
      ¬ (content.StandsFor c.comparedKind ∧ c.comparedKind.Reads {} c.value) ∧
        ∃ message, compareSides {} c content = .ok (.error message) := by
  unfold compareSides comparedKind
  cases c.field.kind with
  | date => exact compareOn_of_fits Scale.fits_days
  | text | number => exact compareOn_of_fits Scale.fits_numbers

theorem judged_orderVerdict (hcompares : c.Compares) (test : Ordering → Bool) :
    Judged ruleId c content (orderVerdict {} ruleId c content test) := by
  rcases compareSides_cases c content with ⟨h, order, hsides⟩ | ⟨h, message, hsides⟩
  · rw [orderVerdict, hsides]
    refine .decided (test order) ?_
    rw [undecidable_iff_of_compares hcompares, not_not]
    exact h
  · rw [orderVerdict, hsides]
    exact .undecided message (.comparison hcompares h)

theorem judged_patternVerdict (hoperator : c.operator = .regex) :
    Judged ruleId c content (patternVerdict ruleId c content) := by
  unfold patternVerdict
  split
  · next pattern hpattern =>
    refine .decided _ ?_
    rw [undecidable_iff_of_regex hoperator]
    rintro ⟨cause, position, h⟩
    cases hpattern.symm.trans h
  · next cause position hpattern =>
    exact .undecided _ (.pattern cause position hoperator hpattern)
  · next problem hother hpattern =>
    refine .stopped problem hoperator ⟨hpattern, fun cause position h ↦ ?_⟩
    exact hother cause position h

theorem exists_memberOn {α : Type} {scale : Scale α} {kind : FieldKind} (hfits : scale.Fits kind)
    (left : α) (items : List String) : ∃ v, memberOn scale ruleId c left items = .ok v := by
  induction items with
  | nil => exact ⟨_, rfl⟩
  | cons item rest ih =>
    obtain ⟨others, hothers⟩ := ih
    rcases hfits.ofText item with ⟨-, right, hright⟩ | ⟨-, hright⟩
    all_goals
      simp only [memberOn, hright, hothers, bind, Except.bind]
      exact ⟨_, rfl⟩

theorem judged_listOn {α : Type} {scale : Scale α} (hfits : scale.Fits c.field.kind)
    (hoperator : c.operator = .inList) (hkind : c.field.kind ≠ .text) (items : List String) :
    Judged ruleId c content (listOn scale ruleId c content items) := by
  rcases hfits.ofContent content with ⟨hstands, left, hleft⟩ | ⟨hstands, hleft⟩
  · obtain ⟨v, hv⟩ := @exists_memberOn ruleId c α scale c.field.kind hfits left items
    simp only [listOn, hleft, bind, Except.bind, hv]
    refine .listed v hoperator ?_
    rw [undecidable_iff_of_inList hoperator]
    exact fun h ↦ h.2 hstands
  · simp only [listOn, hleft, bind, Except.bind, pure, Except.pure]
    exact .undecided _ (.list hoperator hkind hstands)

theorem judged_listVerdict (hoperator : c.operator = .inList) :
    Judged ruleId c content (listVerdict {} ruleId c content) := by
  have hitems : c.listItems {} = .ok ((Text.Search.split "," c.value).map Text.Blank.trim) := rfl
  simp only [listVerdict, hitems, bind, Except.bind]
  cases hkind : c.field.kind with
  | text =>
    refine .decided _ ?_
    rw [undecidable_iff_of_inList hoperator]
    exact fun h ↦ h.1 hkind
  | number =>
    have htext : c.field.kind ≠ .text := by simp [hkind]
    have hfits : Scale.numbers.Fits c.field.kind := by
      rw [hkind]
      exact Scale.fits_numbers
    exact judged_listOn hfits hoperator htext _
  | date =>
    have htext : c.field.kind ≠ .text := by simp [hkind]
    have hfits : (Scale.days {}).Fits c.field.kind := by
      rw [hkind]
      exact Scale.fits_days
    exact judged_listOn hfits hoperator htext _

/-- Comparisons of texts are always decided. -/
theorem judged_of_text (hregex : c.operator ≠ .regex) (hlist : c.operator ≠ .inList)
    (hcompares : ¬ c.Compares) (holds : Bool) : Judged ruleId c content (.ok ⟨holds, []⟩) := by
  refine .decided holds ?_
  rintro (⟨_, _, hoperator, -⟩ | ⟨h, -⟩ | ⟨hoperator, -, -⟩)
  · exact hregex hoperator
  · exact hcompares h
  · exact hlist hoperator

theorem judged_equalityVerdict (hoperator : c.operator = .equals ∨ c.operator = .notEquals)
    (wanted : Bool) : Judged ruleId c content (equalityVerdict {} ruleId c content wanted) := by
  unfold equalityVerdict
  split
  · next hkind =>
    rcases hoperator with h | h <;> apply judged_of_text <;> simp [Compares, h, hkind]
  · next hkind =>
    refine judged_orderVerdict ?_ _
    rcases hoperator with h | h
    all_goals
      rw [Compares, h]
      exact hkind

theorem verdictOn_judged (ruleId : Option String) (c : Condition) (content : Content) :
    Judged ruleId c content (verdictOn {} ruleId c content) := by
  unfold verdictOn
  cases hoperator : c.operator with
  | equals => exact judged_equalityVerdict (.inl hoperator) true
  | notEquals => exact judged_equalityVerdict (.inr hoperator) false
  | greaterThan | lessThan | greaterEqual | lessEqual =>
    exact judged_orderVerdict (by rw [Compares, hoperator]; trivial) _
  | contains | notContains | startsWith | endsWith =>
    apply judged_of_text <;> simp [Compares, hoperator]
  | regex => exact judged_patternVerdict hoperator
  | inList => exact judged_listVerdict hoperator

/-! ## Verdicts on a receipt -/

/-- What stops the evaluation of a condition. -/
inductive Stops (receipt : Receipt) (c : Condition) : Failure → Prop
  | unwritten (h : receipt.Unwritten c.field) : Stops receipt c .unwritableNumber
  | refused (problem : Pattern.Problem) (hoperator : c.operator = .regex)
    (hpresent : receipt.get c.field ≠ .null) (hwritten : ¬ receipt.Unwritten c.field)
    (h : Pattern.Refused c.value problem) : Stops receipt c (.pattern problem)

/-- The receipt has a content in the field of the condition on which there is no deciding. -/
def UndecidableOn (receipt : Receipt) (c : Condition) : Prop :=
  ∃ content, c.field.contentIn {} receipt = .ok (some content) ∧ c.Undecidable content

theorem verdictOn_eq_error_iff {e : Failure} : verdictOn {} ruleId c content = .error e ↔
    c.operator = .regex ∧ ∃ problem, Pattern.Refused c.value problem ∧ e = .pattern problem := by
  constructor
  · intro he
    have hjudged := verdictOn_judged ruleId c content
    rw [he] at hjudged
    cases hjudged with
    | stopped problem hoperator h => exact ⟨hoperator, problem, h, rfl⟩
  · rintro ⟨hoperator, problem, ⟨hpattern, hother⟩, rfl⟩
    rw [verdictOn, hoperator]
    cases problem with
    | malformed cause position => exact absurd rfl (hother cause position)
    | tooManyRepetitions | contradictoryFlags | tooManyDigits =>
      simp only [patternVerdict, hpattern]

/-- A failure is never met but on a value without a text and on a pattern that is refused. -/
theorem evaluate_eq_error_iff {e : Failure} :
    evaluate {} ruleId receipt c = .error e ↔ c.Stops receipt e := by
  rw [evaluate, Except.bind_eq_error_iff, Field.contentIn_eq_error_iff_unwritten]
  constructor
  · rintro (⟨hunwritten, rfl⟩ | ⟨content, hcontent, he⟩)
    · exact .unwritten hunwritten
    · have hwritten : ¬ receipt.Unwritten c.field := by
        intro hunwritten
        have hstopped := Field.contentIn_eq_error_iff_unwritten.mpr ⟨hunwritten, rfl⟩
        cases hcontent.symm.trans hstopped
      cases content with
      | none => cases he
      | some content =>
        obtain ⟨hoperator, problem, hrefused, rfl⟩ := verdictOn_eq_error_iff.mp he
        have hpresent := (Field.contentIn_eq_some_iff.mp hcontent).1
        exact .refused problem hoperator hpresent hwritten hrefused
  · intro hstops
    cases hstops with
    | unwritten h => exact .inl ⟨h, rfl⟩
    | refused problem hoperator hpresent hwritten h =>
      refine .inr ?_
      cases hcontent : c.field.contentIn {} receipt with
      | error e => exact absurd (Field.contentIn_eq_error_iff_unwritten.mp hcontent).1 hwritten
      | ok content =>
        cases content with
        | none => exact absurd (Field.contentIn_eq_none_iff.mp hcontent) hpresent
        | some content =>
          exact ⟨_, rfl, verdictOn_eq_error_iff.mpr ⟨hoperator, problem, h, rfl⟩⟩

/-- A condition on which there is no deciding does not hold and gives one note. -/
theorem evaluate_of_undecidableOn (ruleId : Option String) (h : c.UndecidableOn receipt) :
    ∃ message, evaluate {} ruleId receipt c = .ok ⟨false, [predicateNote ruleId message]⟩ := by
  obtain ⟨content, hcontent, hundecidable⟩ := h
  have heq : evaluate {} ruleId receipt c = verdictOn {} ruleId c content := by
    simp only [evaluate, hcontent, bind, Except.bind]
  rw [heq]
  generalize hresult : verdictOn {} ruleId c content = result
  have hjudged := verdictOn_judged ruleId c content
  rw [hresult] at hjudged
  cases hjudged with
  | decided holds hnot | listed v hoperator hnot => exact absurd hundecidable hnot
  | undecided message => exact ⟨message, rfl⟩
  | stopped problem hoperator hrefused =>
    obtain ⟨cause, position, hmalformed⟩ := (undecidable_iff_of_regex hoperator).mp hundecidable
    cases hmalformed.symm.trans hrefused.1
    exact absurd rfl (hrefused.2 cause position)

end Condition

end ReceiptRules
