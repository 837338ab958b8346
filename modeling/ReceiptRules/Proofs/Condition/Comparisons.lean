import ReceiptRules.Proofs.Condition.Failures
import ReceiptRules.Proofs.Value.Measure

/-!
# Comparisons of numbers and days

The six comparisons of a number field or a date field with a text go by the order of two numbers:
the amounts, or the numbers of the days. Where both sides stand for such a number, exactly one of
"less", "equal" and "greater" holds, the other three are made up of these, and nothing is noted.
Where one of them stands for nothing, none of the six holds and each gives one note; where the field
is missing, none holds and nothing is noted.

There are two exceptions. A field whose value is to be taken as text and cannot be written stops
the evaluation. And a whole number or a decimal in a date field, which stands for no day, is
compared as the day that its text is read as, instead of being noted. Amounts have no such
exception: the text of a value that is no amount is never read as one.
-/

namespace ReceiptRules

theorem Scale.ofContent_numbers (content : Content) :
    numbers.ofContent content = .ok content.value.amount? := by
  cases content <;> rfl

theorem Scale.ofContent_days (content : Content) :
    (days {}).ofContent content = Settings.dateOf? {} content.value := by
  cases content <;> rfl

variable {receipt : Receipt} {f : Field} {content : Content} {x y : ℚ}

namespace Condition

variable {ruleId : Option String} {c : Condition}

/-! ## Comparing measures -/

theorem compareSides_of_measures (hkind : c.field.kind ≠ .text)
    (hx : content.value.measure? c.field.kind = some x)
    (hy : (Value.text c.value).measure? c.field.kind = some y) :
    compareSides {} c content = .ok (.ok (compare x y)) := by
  unfold compareSides
  cases hf : c.field.kind with
  | text => exact absurd hf hkind
  | number =>
    rw [hf] at hx hy
    obtain ⟨a, ha, rfl⟩ := Value.measure?_number_eq_some_iff.mp hx
    obtain ⟨b, hb, rfl⟩ := Value.measure?_number_eq_some_iff.mp hy
    rw [← Decimal.compareValue_eq]
    exact compareOn_of_read (by rw [Scale.ofContent_numbers, ha]) (congrArg Except.ok hb)
  | date =>
    rw [hf] at hx hy
    obtain ⟨a, ha, rfl⟩ := Value.measure?_date_eq_some_iff.mp hx
    obtain ⟨b, hb, rfl⟩ := Value.measure?_date_eq_some_iff.mp hy
    have horder : compare (a.ordinal : ℚ) b.ordinal = Date.compareDays a b := by
      rw [Date.compareDays_eq, ← cmp_eq_compare, ← cmp_eq_compare]
      exact Nat.strictMono_cast.cmp_map_eq a.ordinal b.ordinal
    rw [horder]
    exact compareOn_of_read (by rw [Scale.ofContent_days, ha]) hb

theorem measure?_ne_none_of_reads {kind : FieldKind} {s : String} (hkind : kind ≠ .text)
    (h : kind.Reads {} s) : (Value.text s).measure? kind ≠ none := by
  cases kind with
  | text => exact absurd rfl hkind
  | number =>
    obtain ⟨d, hd⟩ := h
    have hmeasure : (Value.text s).measure? .number = some d.value :=
      Value.measure?_number_eq_some_iff.mpr ⟨d, hd, rfl⟩
    simp [hmeasure]
  | date =>
    obtain ⟨d, hd⟩ := h
    have hmeasure : (Value.text s).measure? .date = some (d.ordinal : ℚ) :=
      Value.measure?_date_eq_some_iff.mpr ⟨d, hd, rfl⟩
    simp [hmeasure]

theorem measure?_ne_none_of_standsFor {kind : FieldKind} (hkind : kind ≠ .text)
    (h : content.StandsFor kind) : content.value.measure? kind ≠ none := by
  cases content with
  | text s => exact measure?_ne_none_of_reads hkind h
  | number d =>
    obtain rfl : FieldKind.number = kind := h
    exact Option.some_ne_none _
  | date d =>
    obtain rfl : FieldKind.date = kind := h
    exact Option.some_ne_none _

theorem exists_message_of_compareSides (hkind : c.field.kind ≠ .text)
    (h : content.value.measure? c.field.kind = none ∨
      (Value.text c.value).measure? c.field.kind = none) :
    ∃ message, compareSides {} c content = .ok (.error message) := by
  have hcompared : c.comparedKind = c.field.kind := by
    unfold comparedKind
    cases hf : c.field.kind with
    | text => exact absurd hf hkind
    | number | date => rfl
  rcases compareSides_cases c content with ⟨⟨hstands, hreads⟩, -⟩ | ⟨-, hmessage⟩
  · rw [hcompared] at hstands hreads
    rcases h with h | h
    · exact absurd h (measure?_ne_none_of_standsFor hkind hstands)
    · exact absurd h (measure?_ne_none_of_reads hkind hreads)
  · exact hmessage

end Condition

/-! ## Operators -/

namespace Operator

/-- The operators that put two sides in order. -/
def comparisons : List Operator :=
  [lessThan, equals, greaterThan, notEquals, lessEqual, greaterEqual]

/-- What an operator asks of the order of its sides. -/
def test : Operator → Ordering → Bool
  | equals => fun order ↦ (order == .eq) == true
  | notEquals => fun order ↦ (order == .eq) == false
  | greaterThan => (· == .gt)
  | lessThan => (· == .lt)
  | greaterEqual => (· != .lt)
  | lessEqual => (· != .gt)
  | _ => fun _ ↦ false

/-- The outcomes of the comparisons of two numbers: one of the first three operators holds, and the
others are made up of these. -/
structure Ordered (x y : ℚ) (holds : Operator → Bool) : Prop where
  lessThan : holds lessThan = true ↔ x < y
  equals : holds equals = true ↔ x = y
  greaterThan : holds greaterThan = true ↔ y < x
  exactlyOne : ∃! op, op ∈ [Operator.lessThan, Operator.equals, Operator.greaterThan] ∧
    holds op = true
  notEquals : holds notEquals = !holds Operator.equals
  lessEqual : holds lessEqual = (holds Operator.lessThan || holds Operator.equals)
  greaterEqual : holds greaterEqual = (holds Operator.greaterThan || holds Operator.equals)

theorem exactlyOne_test (order : Ordering) :
    ∃ op ∈ [lessThan, equals, greaterThan], op.test order = true ∧
      ∀ other ∈ [lessThan, equals, greaterThan], other.test order = true → other = op := by
  cases order <;> decide

theorem ordered_test (x y : ℚ) : Ordered x y fun op ↦ op.test (compare x y) where
  lessThan := by rw [test, beq_iff_eq, compare_lt_iff_lt]
  equals := by simp only [test, beq_true, beq_iff_eq, compare_eq_iff_eq]
  greaterThan := by rw [test, beq_iff_eq, compare_gt_iff_gt]
  exactlyOne := by
    obtain ⟨op, hop, htest, hunique⟩ := exactlyOne_test (compare x y)
    exact ⟨op, ⟨hop, htest⟩, fun other hother ↦ hunique other hother.1 hother.2⟩
  notEquals := by cases compare x y <;> rfl
  lessEqual := by cases compare x y <;> rfl
  greaterEqual := by cases compare x y <;> rfl

end Operator

namespace Condition

variable {ruleId : Option String} {text : String} {joiner : Joiner} {op : Operator}

theorem verdictOn_comparison (hkind : f.kind ≠ .text) (hop : op ∈ Operator.comparisons) :
    verdictOn {} ruleId ⟨f, op, text, joiner⟩ content =
      orderVerdict {} ruleId ⟨f, op, text, joiner⟩ content op.test := by
  have hequality (wanted : Bool) (op : Operator) :
      equalityVerdict {} ruleId ⟨f, op, text, joiner⟩ content wanted =
        orderVerdict {} ruleId ⟨f, op, text, joiner⟩ content
          fun order ↦ (order == .eq) == wanted := by
    unfold equalityVerdict
    split
    · next htext => exact absurd htext hkind
    · rfl
  simp only [Operator.comparisons, List.mem_cons, List.not_mem_nil, or_false] at hop
  rcases hop with rfl | rfl | rfl | rfl | rfl | rfl
  · rfl
  · exact hequality true .equals
  · rfl
  · exact hequality false .notEquals
  · rfl
  · rfl

/-- The comparisons of a field with a text come out as they should, if the left side is the given
number or, for want of one, cannot be read. -/
structure Coherent (ruleId : Option String) (receipt : Receipt) (f : Field) (text : String)
    (joiner : Joiner) (left : Option ℚ) : Prop where
  missing : receipt.get f = .null → ∀ op ∈ Operator.comparisons,
    evaluate {} ruleId receipt ⟨f, op, text, joiner⟩ = .ok ⟨false, []⟩
  compared : receipt.get f ≠ .null → ∀ x y, left = some x →
    (Value.text text).measure? f.kind = some y → ∃ holds, Operator.Ordered x y holds ∧
      ∀ op ∈ Operator.comparisons,
        evaluate {} ruleId receipt ⟨f, op, text, joiner⟩ = .ok ⟨holds op, []⟩
  unread : receipt.get f ≠ .null → left = none ∨ (Value.text text).measure? f.kind = none →
    ∀ op ∈ Operator.comparisons, ∃ message,
      evaluate {} ruleId receipt ⟨f, op, text, joiner⟩ =
        .ok ⟨false, [predicateNote ruleId message]⟩

theorem evaluate_of_contentIn {c : Condition} {content : Content}
    (h : c.field.contentIn {} receipt = .ok (some content)) :
    evaluate {} ruleId receipt c = verdictOn {} ruleId c content := by
  rw [evaluate, h]
  rfl

theorem coherent_of_contentIn (hkind : f.kind ≠ .text) {found : Option Content}
    (h : f.contentIn {} receipt = .ok found) :
    Coherent ruleId receipt f text joiner ((receipt.get f).measureAgain? f.kind) where
  missing hnull op _ := by
    rw [evaluate, Field.contentIn_of_null hnull]
    rfl
  compared hpresent x y hx hy := by
    cases found with
    | none => exact absurd (Field.contentIn_eq_none_iff.mp h) hpresent
    | some content =>
      rw [← Field.measure?_of_contentIn hkind h] at hx
      refine ⟨_, Operator.ordered_test x y, fun op hop ↦ ?_⟩
      have hsides : compareSides {} ⟨f, op, text, joiner⟩ content = .ok (.ok (compare x y)) :=
        compareSides_of_measures hkind hx hy
      rw [evaluate_of_contentIn h, verdictOn_comparison hkind hop, orderVerdict, hsides]
      rfl
  unread hpresent hnone op hop := by
    cases found with
    | none => exact absurd (Field.contentIn_eq_none_iff.mp h) hpresent
    | some content =>
      rw [← Field.measure?_of_contentIn hkind h] at hnone
      obtain ⟨message, hsides⟩ : ∃ message, compareSides {} ⟨f, op, text, joiner⟩ content =
          .ok (.error message) := exists_message_of_compareSides hkind hnone
      refine ⟨message, ?_⟩
      rw [evaluate_of_contentIn h, verdictOn_comparison hkind hop, orderVerdict, hsides]
      rfl

/-- What the left side stands for makes no difference where the right side stands for nothing. -/
theorem Coherent.congr {left left' : Option ℚ} (h : Coherent ruleId receipt f text joiner left)
    (hleft : (Value.text text).measure? f.kind ≠ none → left = left') :
    Coherent ruleId receipt f text joiner left' where
  missing := h.missing
  compared hpresent x y hx hy := by
    rw [← hleft (by simp [hy])] at hx
    exact h.compared hpresent x y hx hy
  unread hpresent hnone := by
    refine h.unread hpresent (or_iff_not_imp_right.mpr fun hright ↦ ?_)
    rw [hleft hright]
    exact hnone.resolve_right hright

/-! ## Coherence -/

theorem not_coherent_of_unwritten (h : receipt.Unwritten f) :
    ¬ Coherent ruleId receipt f text joiner none := by
  intro hcoherent
  have hpresent : receipt.get f ≠ .null := by
    intro hnull
    have hwritable := h.2
    rw [hnull] at hwritable
    cases hwritable
  obtain ⟨message, hverdict⟩ := hcoherent.unread hpresent (.inl rfl) .equals (by decide)
  have hcontent := Field.contentIn_eq_error_iff_unwritten.mpr ⟨h, rfl⟩
  rw [evaluate, hcontent] at hverdict
  cases hverdict

theorem coherent_measureAgain?_iff (hkind : f.kind ≠ .text) :
    Coherent ruleId receipt f text joiner ((receipt.get f).measureAgain? f.kind) ↔
      ¬ receipt.Unwritten f := by
  constructor
  · intro hcoherent h
    have hleft : (receipt.get f).measureAgain? f.kind = none := by
      rw [Value.measureAgain?, (Value.measure?_eq_none_iff hkind).mpr h.1, h.2]
      rfl
    rw [hleft] at hcoherent
    exact not_coherent_of_unwritten h hcoherent
  · intro h
    cases hcontent : f.contentIn {} receipt with
    | ok found => exact coherent_of_contentIn hkind hcontent
    | error e => exact absurd (Field.contentIn_eq_error_iff_unwritten.mp hcontent).1 h

end Condition

/-- A number in a date field, whose text is read as a day, is compared with a day. -/
structure Receipt.ReadAgain (receipt : Receipt) (f : Field) (text : String) : Prop where
  kind : f.kind = .date
  isNumber : (receipt.get f).IsNumber
  left : (Value.text (receipt.get f).asText).measure? .date ≠ none
  right : (Value.text text).measure? .date ≠ none

namespace Condition

variable {ruleId : Option String} {text : String} {joiner : Joiner}

theorem not_coherent_of_readAgain (hkind : f.kind ≠ .text) (h : receipt.ReadAgain f text) :
    ¬ Coherent ruleId receipt f text joiner none := by
  intro hcoherent
  by_cases hunwritten : receipt.Unwritten f
  · exact not_coherent_of_unwritten hunwritten hcoherent
  · have hmeasure : (receipt.get f).measure? f.kind = none := by
      rw [h.kind]
      exact Value.measure?_date_of_isNumber h.isNumber
    have hwritable : (receipt.get f).isWritable = true := by
      rw [← Bool.not_eq_false]
      exact fun hno ↦ hunwritten ⟨(Value.measure?_eq_none_iff hkind).mp hmeasure, hno⟩
    have hpresent : receipt.get f ≠ .null := by
      intro hnull
      have hnumber := h.isNumber
      rw [hnull] at hnumber
      simp [Value.IsNumber] at hnumber
    obtain ⟨x, hx⟩ := Option.ne_none_iff_exists'.mp h.left
    obtain ⟨y, hy⟩ := Option.ne_none_iff_exists'.mp h.right
    have hleft : (receipt.get f).measureAgain? f.kind = some x := by
      rw [Value.measureAgain?, hmeasure, hwritable, h.kind]
      exact hx
    -- The evaluation compares two days, and so there is no note.
    have hagain : Coherent ruleId receipt f text joiner ((receipt.get f).measureAgain? f.kind) :=
      (coherent_measureAgain?_iff hkind).mpr hunwritten
    obtain ⟨holds, -, hverdict⟩ := hagain.compared hpresent x y hleft (by rw [h.kind, hy])
    obtain ⟨message, hnote⟩ := hcoherent.unread hpresent (.inl rfl) .equals (by decide)
    have hboth := (hverdict .equals (by decide)).symm.trans hnote
    cases congrArg Verdict.notes (Except.ok.inj hboth)

theorem measureAgain?_eq_of_not_readAgain (hkind : f.kind ≠ .text)
    (h : ¬ receipt.ReadAgain f text) (hright : (Value.text text).measure? f.kind ≠ none) :
    (receipt.get f).measureAgain? f.kind = (receipt.get f).measure? f.kind := by
  by_cases hnumber : f.kind = .date ∧ (receipt.get f).IsNumber
  · obtain ⟨hdate, hnumber⟩ := hnumber
    rw [hdate] at hright ⊢
    have hleft : (Value.text (receipt.get f).asText).measure? .date = none := by
      by_contra hleft
      exact h ⟨hdate, hnumber, hleft, hright⟩
    rw [Value.measureAgain?, hleft, Value.measure?_date_of_isNumber hnumber, Option.none_or,
      ite_self]
  · exact Value.measureAgain?_eq hkind fun hdate hisNumber ↦ hnumber ⟨hdate, hisNumber⟩

/-- Comparisons of a number field or a date field are coherent, unless the field holds a number that
is too long to be written, or a number whose text is read as a day although it stands for none.
Where that text counts as well, only the numbers that are too long are left. -/
theorem coherent_iff (hkind : f.kind ≠ .text) :
    (Coherent ruleId receipt f text joiner ((receipt.get f).measure? f.kind) ↔
      ¬ receipt.Unwritten f ∧ ¬ receipt.ReadAgain f text) ∧
    (Coherent ruleId receipt f text joiner ((receipt.get f).measureAgain? f.kind) ↔
      ¬ receipt.Unwritten f) := by
  refine ⟨⟨fun hcoherent ↦ ⟨fun h ↦ ?_, fun h ↦ ?_⟩, fun ⟨hwritten, hagain⟩ ↦ ?_⟩,
    coherent_measureAgain?_iff hkind⟩
  · rw [(Value.measure?_eq_none_iff hkind).mpr h.1] at hcoherent
    exact not_coherent_of_unwritten h hcoherent
  · rw [h.kind, Value.measure?_date_of_isNumber h.isNumber] at hcoherent
    exact not_coherent_of_readAgain hkind h hcoherent
  · exact ((coherent_measureAgain?_iff hkind).mpr hwritten).congr
      (measureAgain?_eq_of_not_readAgain hkind hagain)

/-- An amount with a mark, compared with another spelling of it. -/
theorem coherent_markedAmount :
    let receipt : Receipt := ⟨none, [("AMOUNT", .text " € 1,000.50")]⟩
    Field.amount.kind ≠ .text ∧
      Coherent none receipt .amount "1000.5" .and ((receipt.get .amount).measure? .number) := by
  intro receipt
  have hkind : Field.amount.kind ≠ .text := by decide
  have hwritten : ¬ receipt.Unwritten .amount := fun h ↦ Bool.noConfusion h.2
  have hagain : ¬ receipt.ReadAgain .amount "1000.5" := fun h ↦ FieldKind.noConfusion h.kind
  exact ⟨hkind, (coherent_iff hkind).1.mpr ⟨hwritten, hagain⟩⟩

/-- A whole number in the date field stands for no day, and yet it is equal to one. -/
theorem wholeNumber_incoherent :
    let receipt : Receipt := ⟨none, [("DATE", .int 20240305)]⟩
    (receipt.get .date).measure? .date = none ∧
      evaluate {} none receipt ⟨.date, .equals, "2024-03-05", .and⟩ = .ok ⟨true, []⟩ ∧
      ¬ Coherent none receipt .date "2024-03-05" .and ((receipt.get .date).measure? .date) := by
  intro receipt
  have hverdict : evaluate {} none receipt ⟨.date, .equals, "2024-03-05", .and⟩ =
      .ok ⟨true, []⟩ := by decide +kernel
  have hvalue : receipt.get .date = .int 20240305 := rfl
  have hpresent : receipt.get .date ≠ .null := fun hnull ↦ by cases hvalue.symm.trans hnull
  refine ⟨rfl, hverdict, fun hcoherent ↦ ?_⟩
  obtain ⟨message, hnote⟩ := hcoherent.unread hpresent (.inl rfl) .equals (by decide)
  cases hverdict.symm.trans hnote

end Condition

end ReceiptRules
