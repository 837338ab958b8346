import ReceiptRules.Proofs.Condition.Failures
import ReceiptRules.Proofs.Condition.Rejected

/-!
# Lists as alternatives of equalities

A list condition holds of a receipt exactly if the equality with one of its trimmed items does. Both
read the content of the field in one way. Where that content cannot be read on the scale of the
field, neither holds; an item that cannot be read is passed over by the list, and the equality with
it does not hold. The separator is any text but the empty one, and dates are written as by default.
-/

namespace ReceiptRules

open Text

/-- The scale of days depends on the date formats alone. -/
theorem Scale.days_of_dateFormats {settings : Settings}
    (h : settings.dateFormats = Date.defaultFormats) : days settings = days {} := by
  have hread : settings.dateOfText? = Settings.dateOfText? {} := by
    funext s
    rw [Settings.dateOfText?, Settings.dateOfText?, h]
  rw [days, days, hread]

namespace Condition

open Verdict

variable {settings : Settings} {ruleId : Option String} {receipt : Receipt} {c : Condition}
  {content : Content} {f : Field} {joiner : Joiner} {items : List String}

/-! ## Equality -/

theorem compareOn_eq_ok_iff {α : Type} {scale : Scale α} {order : Ordering} :
    compareOn scale c content = .ok (.ok order) ↔
      ∃ left right, scale.ofContent content = .ok (some left) ∧
        scale.ofText c.value = .ok (some right) ∧ scale.order left right = order := by
  constructor
  · intro h
    obtain ⟨left, hleft, h⟩ := Except.bind_eq_ok_iff.mp h
    cases left with
    | none => cases h
    | some left =>
      obtain ⟨right, hright, h⟩ := Except.bind_eq_ok_iff.mp h
      cases right with
      | none => cases h
      | some right =>
        cases h
        exact ⟨left, right, hleft, hright, rfl⟩
  · rintro ⟨left, right, hleft, hright, rfl⟩
    exact compareOn_of_read hleft hright

theorem positive_orderVerdict_iff {test : Ordering → Bool} :
    Positive (orderVerdict settings ruleId c content test) ↔
      ∃ order, compareSides settings c content = .ok (.ok order) ∧ test order = true := by
  constructor
  · rintro ⟨v, hv, hholds⟩
    obtain ⟨sides, hsides, rfl⟩ := Except.map_eq_ok_iff.mp hv
    cases sides with
    | ok order => exact ⟨order, hsides, hholds⟩
    | error message => cases hholds
  · rintro ⟨order, hsides, htest⟩
    exact ⟨⟨test order, []⟩, by rw [orderVerdict, hsides]; rfl, htest⟩

/-- Numbers and days are equal if their order on the scale says so. -/
theorem positive_equalityVerdict_iff (htext : c.field.kind ≠ .text) :
    Positive (equalityVerdict settings ruleId c content true) ↔
      compareSides settings c content = .ok (.ok .eq) := by
  unfold equalityVerdict
  split
  · next hkind => exact absurd hkind htext
  · simp [positive_orderVerdict_iff]

/-! ## Membership -/

/-- If it can be told of every text whether it is a value, the verdict on a list says whether one of
its items is an equal value. -/
theorem exists_memberOn_holds_iff {α : Type} {scale : Scale α} (left : α)
    (hreads : ∀ s, ∃ parsed, scale.ofText s = .ok parsed) (items : List String) :
    ∃ v, memberOn scale ruleId c left items = .ok v ∧
      (v.holds = true ↔ ∃ item ∈ items, ∃ right, scale.ofText item = .ok (some right) ∧
        scale.order left right = .eq) := by
  induction items with
  | nil => exact ⟨_, rfl, by simp⟩
  | cons item rest ih =>
    obtain ⟨parsed, hparsed⟩ := hreads item
    obtain ⟨others, hothers, hholds⟩ := ih
    simp only [memberOn, hparsed, hothers, bind, Except.bind, List.exists_mem_cons_iff, ← hholds]
    cases parsed with
    | none => exact ⟨_, rfl, by simp⟩
    | some right => exact ⟨_, rfl, by simp⟩

/-- On a scale, a content is among the items of a list exactly if it compares equal with one. -/
theorem positive_listOn_iff {α : Type} {scale : Scale α} {kind : FieldKind}
    (hfits : scale.Fits kind) :
    Positive (listOn scale ruleId c content items) ↔
      ∃ item ∈ items, compareOn scale { c with operator := .equals, value := item } content =
        .ok (.ok .eq) := by
  have hreads (s : String) : ∃ parsed, scale.ofText s = .ok parsed := by
    rcases hfits.ofText s with ⟨-, right, hright⟩ | ⟨-, hright⟩
    · exact ⟨_, hright⟩
    · exact ⟨_, hright⟩
  simp only [compareOn_eq_ok_iff]
  rcases hfits.ofContent content with ⟨-, left, hleft⟩ | ⟨-, hleft⟩
  · obtain ⟨v, hv, hholds⟩ := @exists_memberOn_holds_iff ruleId c α scale left hreads items
    have hlist : listOn scale ruleId c content items = .ok v := by
      simp only [listOn, hleft, bind, Except.bind, hv]
    simp [Positive, hlist, hholds, hleft]
  · simp [Positive, listOn, hleft, bind, Except.bind, pure, Except.pure]

/-- A content is among the items of a list exactly if it is equal to one of them. -/
theorem positive_listVerdict_iff (hformats : settings.dateFormats = Date.defaultFormats)
    (hitems : c.listItems settings = .ok items) :
    Positive (listVerdict settings ruleId c content) ↔
      ∃ item ∈ items, Positive (equalityVerdict settings ruleId
        { c with operator := .equals, value := item } content true) := by
  have hequal (htext : c.field.kind ≠ .text) (item : String) :
      Positive (equalityVerdict settings ruleId
          { c with operator := .equals, value := item } content true) ↔
        compareSides settings { c with operator := .equals, value := item } content =
          .ok (.ok .eq) := positive_equalityVerdict_iff htext
  simp only [listVerdict, hitems, bind, Except.bind]
  cases hkind : c.field.kind with
  | text => simp [equalityVerdict, hkind, Positive, pure, Except.pure]
  | number =>
    simp only [hequal (by simp [hkind]), compareSides, hkind]
    exact positive_listOn_iff Scale.fits_numbers
  | date =>
    simp only [hequal (by simp [hkind]), compareSides, hkind, Scale.days_of_dateFormats hformats]
    exact positive_listOn_iff Scale.fits_days

/-- A list condition holds of a receipt exactly if an equality with one of the trimmed pieces of its
comparison text does. -/
theorem positive_inList_iff (hseparator : settings.listSeparator ≠ "")
    (hformats : settings.dateFormats = Date.defaultFormats) (ruleId : Option String)
    (receipt : Receipt) (f : Field) (text : String) (joiner : Joiner) :
    Positive (evaluate settings ruleId receipt ⟨f, .inList, text, joiner⟩) ↔
      ∃ item ∈ (Search.split settings.listSeparator text).map Blank.trim,
        Positive (evaluate settings ruleId receipt ⟨f, .equals, item, joiner⟩) := by
  have hitems : listItems settings ⟨f, .inList, text, joiner⟩ =
      .ok ((Search.split settings.listSeparator text).map Blank.trim) := by
    rw [listItems, if_neg]
    rwa [String.isEmpty_iff]
  simp only [positive_evaluate_iff, verdictOn]
  constructor
  · rintro ⟨content, hcontent, hpositive⟩
    obtain ⟨item, hitem, hequal⟩ := (positive_listVerdict_iff hformats hitems).mp hpositive
    exact ⟨item, hitem, content, hcontent, hequal⟩
  · rintro ⟨item, hitem, content, hcontent, hequal⟩
    exact ⟨content, hcontent, (positive_listVerdict_iff hformats hitems).mpr ⟨item, hitem, hequal⟩⟩

/-- A separator of two characters between a word, a day and nothing, on a receipt of that day. -/
theorem positive_inList_sixthOfMarch :
    let settings : Settings := { listSeparator := ";;" }
    let receipt : Receipt := ⟨none, [("DATE", .text "2024年3月6日")]⟩
    settings.listSeparator ≠ "" ∧ settings.dateFormats = Date.defaultFormats ∧
      Positive (evaluate settings none receipt ⟨.date, .inList, "soon;; 2024/03/06 ;;", .and⟩) ∧
      evaluate settings none receipt ⟨.date, .equals, "2024/03/06", .and⟩ = .ok ⟨true, []⟩ := by
  intro settings receipt
  have hseparator : settings.listSeparator ≠ "" := by decide
  have hequal : evaluate settings none receipt ⟨.date, .equals, "2024/03/06", .and⟩ =
      .ok ⟨true, []⟩ := by decide +kernel
  refine ⟨hseparator, rfl, (positive_inList_iff hseparator rfl none receipt .date _ .and).mpr ?_,
    hequal⟩
  exact ⟨"2024/03/06", by decide +kernel, _, hequal, rfl⟩

end Condition

end ReceiptRules
