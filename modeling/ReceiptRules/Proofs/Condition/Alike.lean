import ReceiptRules.Condition.Combine
import ReceiptRules.Proofs.Decimal.Value
import ReceiptRules.Proofs.Field.Content

/-!
# Conditions see contents, and numbers only by their value

A condition looks at its receipt through the content of one field. Numbers of one value are alike to
every operator that number fields support: these compare numbers and write none of them out. So a
rule that is not malformed comes to the same verdict, with the same notes, on two receipts whose
fields read alike.
-/

namespace ReceiptRules

variable {settings : Settings} {ruleId : Option String} {a b : Receipt} {c : Condition} {f : Field}

theorem Decimal.compareValue_congr {x y : Decimal} (h : x.value = y.value) :
    x.compareValue = y.compareValue := by
  funext d
  rw [compareValue_eq, compareValue_eq, h]

/-- Equal texts, equal dates, or numbers of one value. -/
inductive Content.Alike : Content → Content → Prop
  | text (s : String) : Alike (.text s) (.text s)
  | date (d : Date) : Alike (.date d) (.date d)
  | number (x y : Decimal) (h : x.value = y.value) : Alike (.number x) (.number y)

@[refl] theorem Content.Alike.refl (x : Content) : x.Alike x := by
  cases x with
  | text s => exact .text s
  | number d => exact .number d d rfl
  | date d => exact .date d

/-- A field reads alike on two receipts: nothing on both, alike contents, or the same failure. -/
inductive Field.ReadsAlike (settings : Settings) (f : Field) (a b : Receipt) : Prop
  | missing (ha : f.contentIn settings a = .ok none) (hb : f.contentIn settings b = .ok none)
  | present (x y : Content) (ha : f.contentIn settings a = .ok (some x))
    (hb : f.contentIn settings b = .ok (some y)) (h : x.Alike y)
  | failed (e : Failure) (ha : f.contentIn settings a = .error e)
    (hb : f.contentIn settings b = .error e)

/-- A field has one value on two receipts, or one amount or day that may be spelled in two ways. -/
inductive Field.Respelled (settings : Settings) (f : Field) (a b : Receipt) : Prop
  | same (h : a.get f = b.get f)
  | amount (x y : Decimal) (hkind : f.kind = .number) (ha : (a.get f).amount? = some x)
    (hb : (b.get f).amount? = some y) (h : x.value = y.value)
  | day (d : Date) (hkind : f.kind = .date) (ha : settings.dateOf? (a.get f) = .ok (some d))
    (hb : settings.dateOf? (b.get f) = .ok (some d))

namespace Field

theorem contentIn_of_amount? {d : Decimal} (hkind : f.kind = .number)
    (h : (a.get f).amount? = some d) : f.contentIn settings a = .ok (some (.number d)) := by
  apply contentIn_of_contentOf?
  rw [hkind, Settings.contentOf?, h]
  rfl

theorem contentIn_of_dateOf? {d : Date} (hkind : f.kind = .date)
    (h : settings.dateOf? (a.get f) = .ok (some d)) :
    f.contentIn settings a = .ok (some (.date d)) := by
  apply contentIn_of_contentOf?
  rw [hkind]
  exact contentOf?_date_eq_some_iff.mpr ⟨d, h, rfl⟩

/-- Numbers are read from number fields only. -/
theorem kind_of_contentIn_number {x : Decimal}
    (h : f.contentIn settings a = .ok (some (.number x))) : f.kind = .number := by
  obtain ⟨-, hfound | ⟨-, -, htext⟩⟩ := contentIn_eq_some_iff.mp h
  · cases hkind : f.kind with
    | number => rfl
    | text =>
      rw [hkind] at hfound
      cases hfound
    | date =>
      rw [hkind] at hfound
      obtain ⟨d, -, hdate⟩ := contentOf?_date_eq_some_iff.mp hfound
      cases hdate
  · cases htext

theorem readsAlike_of_contentIn_eq (h : f.contentIn settings a = f.contentIn settings b) :
    f.ReadsAlike settings a b := by
  cases hb : f.contentIn settings b with
  | error e => exact .failed e (h.trans hb) hb
  | ok content =>
    cases content with
    | none => exact .missing (h.trans hb) hb
    | some x => exact .present x x (h.trans hb) hb (.refl x)

theorem Respelled.readsAlike (h : f.Respelled settings a b) : f.ReadsAlike settings a b := by
  cases h with
  | same h =>
    apply readsAlike_of_contentIn_eq
    rw [contentIn, contentIn, h]
  | amount x y hkind ha hb h =>
    exact .present _ _ (contentIn_of_amount? hkind ha) (contentIn_of_amount? hkind hb)
      (.number x y h)
  | day d hkind ha hb =>
    exact .present _ _ (contentIn_of_dateOf? hkind ha) (contentIn_of_dateOf? hkind hb) (.date d)

/-- On a field that holds no numbers there is but one content that reads alike. -/
theorem ReadsAlike.contentIn_eq (h : f.ReadsAlike settings a b) (hkind : f.kind ≠ .number) :
    f.contentIn settings a = f.contentIn settings b := by
  cases h with
  | missing ha hb => rw [ha, hb]
  | failed e ha hb => rw [ha, hb]
  | present x y ha hb h =>
    cases h with
    | text s => rw [ha, hb]
    | date d => rw [ha, hb]
    | number x y h => exact absurd (kind_of_contentIn_number ha) hkind

end Field

namespace Condition

variable {x y : Decimal}

/-! ## One condition -/

/-- Only the order of the left side is used once that side is read. -/
theorem compareOn_congr {α : Type} {scale : Scale α} {left left' : α} {content content' : Content}
    (hleft : scale.ofContent content = .ok (some left))
    (hleft' : scale.ofContent content' = .ok (some left'))
    (h : scale.order left = scale.order left') :
    compareOn scale c content = compareOn scale c content' := by
  rw [compareOn, compareOn, hleft, hleft']
  change scale.ofText c.value >>= _ = scale.ofText c.value >>= _
  refine bind_congr fun right ↦ ?_
  cases right with
  | none => rfl
  | some right => rw [h]

theorem compareSides_congr (hkind : c.field.kind = .number) (h : x.value = y.value) :
    compareSides settings c (.number x) = compareSides settings c (.number y) := by
  have hcompare : compareOn .numbers c (.number x) = compareOn .numbers c (.number y) :=
    compareOn_congr rfl rfl (Decimal.compareValue_congr h)
  simp only [compareSides, hkind, hcompare]

theorem orderVerdict_congr (hkind : c.field.kind = .number) (h : x.value = y.value)
    (test : Ordering → Bool) :
    orderVerdict settings ruleId c (.number x) test =
      orderVerdict settings ruleId c (.number y) test := by
  rw [orderVerdict, orderVerdict, compareSides_congr hkind h]

theorem equalityVerdict_congr (hkind : c.field.kind = .number) (h : x.value = y.value)
    (wanted : Bool) :
    equalityVerdict settings ruleId c (.number x) wanted =
      equalityVerdict settings ruleId c (.number y) wanted := by
  simp only [equalityVerdict, hkind, orderVerdict_congr hkind h]

theorem memberOn_congr {α : Type} {scale : Scale α} {left left' : α}
    (h : scale.order left = scale.order left') (items : List String) :
    memberOn scale ruleId c left items = memberOn scale ruleId c left' items := by
  induction items with
  | nil => rfl
  | cons item rest ih => rw [memberOn, memberOn, ih, h]

theorem listVerdict_congr (hkind : c.field.kind = .number) (h : x.value = y.value) :
    listVerdict settings ruleId c (.number x) = listVerdict settings ruleId c (.number y) := by
  have hmember (items : List String) : memberOn .numbers ruleId c x items =
      memberOn .numbers ruleId c y items := memberOn_congr (Decimal.compareValue_congr h) items
  have hlist (items : List String) : listOn .numbers ruleId c (.number x) items =
      listOn .numbers ruleId c (.number y) items := hmember items
  simp only [listVerdict, hkind, hlist]

/-- The operators that number fields support see numbers by their value. -/
theorem verdictOn_congr (hkind : c.field.kind = .number)
    (hfits : c.operator.supportedOn c.field = true) (h : x.value = y.value) :
    verdictOn settings ruleId c (.number x) = verdictOn settings ruleId c (.number y) := by
  rw [Operator.supportedOn, hkind] at hfits
  cases hop : c.operator with
  | equals | notEquals => simp only [verdictOn, hop, equalityVerdict_congr hkind h]
  | greaterThan | lessThan | greaterEqual | lessEqual =>
    simp only [verdictOn, hop, orderVerdict_congr hkind h]
  | inList => simp only [verdictOn, hop, listVerdict_congr hkind h]
  | contains | notContains | startsWith | endsWith | regex =>
    rw [hop] at hfits
    cases hfits

theorem evaluate_congr (h : c.field.ReadsAlike settings a b)
    (hfits : c.operator.supportedOn c.field = true) :
    evaluate settings ruleId a c = evaluate settings ruleId b c := by
  by_cases hkind : c.field.kind = .number
  · cases h with
    | missing ha hb => rw [evaluate, evaluate, ha, hb]
    | failed e ha hb => rw [evaluate, evaluate, ha, hb]
    | present x y ha hb h =>
      rw [evaluate, evaluate, ha, hb]
      cases h with
      | text s => rfl
      | date d => rfl
      | number x y h => exact verdictOn_congr hkind hfits h
  · rw [evaluate, evaluate, h.contentIn_eq hkind]

/-! ## All conditions of a rule -/

variable {conditions : List Condition} {settings' : Settings}

theorem combineFrom_congr (h : ∀ c ∈ conditions,
      evaluate settings ruleId a c = evaluate settings' ruleId b c) (outcome : Bool)
    (joiner : Joiner) :
    combineFrom settings ruleId a outcome joiner conditions =
      combineFrom settings' ruleId b outcome joiner conditions := by
  induction conditions generalizing outcome joiner with
  | nil => rfl
  | cons c rest ih =>
    have hrest := ih fun x hx ↦ h x (List.mem_cons_of_mem c hx)
    simp only [combineFrom, h c List.mem_cons_self, hrest]

theorem combine_congr (h : ∀ c ∈ conditions,
      evaluate settings ruleId a c = evaluate settings' ruleId b c) :
    combine settings ruleId a conditions = combine settings' ruleId b conditions := by
  cases conditions with
  | nil => rfl
  | cons c rest =>
    have hrest := combineFrom_congr fun x hx ↦ h x (List.mem_cons_of_mem c hx)
    simp only [combine, h c List.mem_cons_self, hrest]

end Condition

end ReceiptRules
