import ReceiptRules.Proofs.Directive.Update
import ReceiptRules.Proofs.Lookup
import ReceiptRules.Proofs.Store.Validated

/-!
# What the counts of categories leave out

An action sets a category when its value, blanks around it apart, is the word of the category. The
counts of a store look for the bare word. So they count a rule for a category if it has an action that
is written so, and leave out the rules that set it with blanks around its word alone.
-/

namespace ReceiptRules

open Text

variable {settings : Settings} {ruleId : Option String} {receipt : Option Receipt}
  {occasion : Directive.Occasion} {a : Action} {c : Category}

/-! ## The category that an action sets -/

theorem Category.ofWord?_word (c : Category) : ofWord? c.word = some c := by
  cases c <;> rfl

theorem Category.word_injective : Function.Injective word := by
  intro c c' h
  have hread := ofWord?_word c
  rw [h, ofWord?_word] at hread
  exact (Option.some.inj hread).symm

theorem Category.ofWord?_eq_some_iff {s : String} : ofWord? s = some c ↔ s = c.word := by
  constructor
  · intro h
    have hword := List.find?_some h
    exact (eq_of_beq hword).symm
  · rintro rfl
    exact ofWord?_word c

theorem Directive.category_of_apply {actions : List Action} {d : Directive}
    (h : apply settings ruleId receipt none occasion actions = .ok d) :
    d.category = Action.last? .setCategory Category.ofWord? actions := by
  have hdraft : (draftOf ruleId none actions).directive.category =
      Action.last? .setCategory Category.ofWord? actions := by
    rw [draftOf_directive]
    exact Option.or_none
  by_cases hasks : ∃ a ∈ actions, a.AsksNumber
  · rw [apply_of_asksNumber hasks] at h
    obtain ⟨⟨day, notes⟩, -, rfl⟩ := Except.map_eq_ok_iff.mp h
    exact hdraft
  · rw [apply_of_not_asksNumber hasks] at h
    cases h
    exact hdraft

namespace Action

/-- Whether the action, applied alone, makes a directive of the category. -/
def sets (settings : Settings) (ruleId : Option String) (receipt : Option Receipt)
    (occasion : Directive.Occasion) (c : Category) (a : Action) : Bool :=
  match Directive.apply settings ruleId receipt none occasion [a] with
  | .ok d => d.category == some c
  | .error _ => false

/-- Blanks around the word make no difference, and neither does anything beside the action. -/
theorem sets_iff : a.sets settings ruleId receipt occasion c = true ↔
    a.kind = .setCategory ∧ Blank.trim a.value = c.word := by
  constructor
  · intro h
    rw [sets] at h
    split at h
    · next d happly =>
      have hcategory := Directive.category_of_apply happly
      rw [eq_of_beq h, last?_singleton] at hcategory
      split at hcategory
      · next hvalid => exact ⟨hvalid.1, Category.ofWord?_eq_some_iff.mp hcategory.symm⟩
      · cases hcategory
    · cases h
  · rintro ⟨hkind, hword⟩
    have hread : Category.ofWord? (Blank.trim a.value) = some c :=
      Category.ofWord?_eq_some_iff.mpr hword
    have hne : c.word ≠ "" := by cases c <;> decide
    have hvalid : a.problem? = none := by
      simp [problem?, hkind, hword, hne, Category.ofWord?_word]
    have hasks : ¬ ∃ x ∈ [a], x.AsksNumber := by
      rintro ⟨x, hx, hnumber, -⟩
      rw [List.mem_singleton.mp hx, hkind] at hnumber
      cases hnumber
    obtain ⟨d, happly⟩ : ∃ d, Directive.apply settings ruleId receipt none occasion [a] = .ok d :=
      ⟨_, Directive.apply_of_not_asksNumber hasks⟩
    have hcategory := Directive.category_of_apply happly
    rw [last?_singleton, if_pos ⟨hkind, hvalid⟩, hread] at hcategory
    rw [sets, happly]
    exact beq_iff_eq.mpr hcategory

end Action

/-- Whether one of the actions of the rule, applied alone, makes a directive of the category. -/
def Rule.sets (settings : Settings) (ruleId : Option String) (receipt : Option Receipt)
    (occasion : Directive.Occasion) (c : Category) (r : Rule) : Bool :=
  r.actions.any (Action.sets settings ruleId receipt occasion c)

theorem Category.trim_word (c : Category) : Blank.trim c.word = c.word := by
  cases c <;> rfl

theorem Rule.sets_iff {r : Rule} : r.sets settings ruleId receipt occasion c = true ↔
    ∃ a ∈ r.actions, a.kind = .setCategory ∧ Blank.trim a.value = c.word := by
  simp only [Rule.sets, List.any_eq_true, Action.sets_iff]

theorem Store.setsCategory_iff {r : Rule} : setsCategory c r = true ↔
    ∃ a ∈ r.actions, a.kind = .setCategory ∧ a.value = c.word := by
  simp only [setsCategory, List.any_eq_true, Bool.and_eq_true, beq_iff_eq]

/-- A rule that is counted for a category sets it. -/
theorem Rule.sets_of_setsCategory {r : Rule} (h : Store.setsCategory c r = true) :
    r.sets settings ruleId receipt occasion c = true := by
  obtain ⟨a, ha, hkind, hvalue⟩ := Store.setsCategory_iff.mp h
  exact sets_iff.mpr ⟨a, ha, hkind, by rw [hvalue, Category.trim_word]⟩

/-! ## What is listed under a category -/

/-- Items of the wider kind are of the narrower one or not. -/
theorem countP_add_of_imp {α : Type} {p q : α → Bool} {xs : List α}
    (h : ∀ x ∈ xs, p x = true → q x = true) :
    xs.countP p + xs.countP (fun x ↦ q x && !p x) = xs.countP q := by
  have hp : xs.countP p = xs.countP fun x ↦ q x && p x := by
    refine List.countP_congr fun x hx ↦ ?_
    rw [Bool.and_eq_true]
    exact ⟨fun hpx ↦ ⟨h x hx hpx, hpx⟩, And.right⟩
  rw [List.countP_eq_countP_filter_add xs q p, List.countP_filter, List.countP_filter, ← hp]

theorem Category.key_injective : Function.Injective fun c : Category ↦ s!"category:{c.word}" := by
  intro c c' h
  have hwords : toString c.word = toString c'.word := by simpa using h
  exact word_injective hwords

namespace Store

/-- What the store lists under a category is the number of rules that have its bare word. -/
theorem getD_lookup_counts (s : Store) (c : Category) :
    (s.counts.lookup s!"category:{c.word}").getD 0 = s.rules.countP (setsCategory c) := by
  have hapart : List.lookup s!"category:{c.word}"
      [("total", s.table.rules.length), ("enabled", s.table.rules.countP fun r ↦ r.enabled),
        ("disabled", s.table.rules.countP fun r ↦ !r.enabled),
        ("system", s.table.rules.countP fun r ↦ r.isSystemRule),
        ("custom", s.table.rules.countP fun r ↦ !r.isSystemRule)] = none := by
    cases c <;> rfl
  have hmem : c ∈ Category.all := by cases c <;> decide
  have hlisted := List.getD_lookup_filter (fun _ _ h ↦ Category.key_injective h)
    (fun c ↦ s.table.rules.countP (setsCategory c)) Category.all c
  rw [if_pos hmem] at hlisted
  rw [counts, List.lookup_append, hapart, Option.none_or, rules, Rule.Table.ordered,
    (Rule.ordered_perm s.table.rules).countP_eq]
  exact hlisted

/-- What is listed under a category falls short of the rules that set it by those that set it with
blanks around its word alone. It is their number if and only if each of them has the bare word. -/
theorem counts_category (s : Store) (c : Category) (settings : Settings) (ruleId : Option String)
    (receipt : Option Receipt) (occasion : Directive.Occasion) :
    let listed := (s.counts.lookup s!"category:{c.word}").getD 0
    let setting := s.rules.countP (Rule.sets settings ruleId receipt occasion c)
    listed + s.rules.countP (fun r ↦ r.sets settings ruleId receipt occasion c &&
        !setsCategory c r) = setting ∧
    (listed = setting ↔ ∀ r ∈ s.rules, r.sets settings ruleId receipt occasion c = true →
      ∃ a ∈ r.actions, a.kind = .setCategory ∧ a.value = c.word) := by
  intro listed setting
  have hlisted : listed = s.rules.countP (setsCategory c) := s.getD_lookup_counts c
  have hsum : listed + s.rules.countP (fun r ↦ r.sets settings ruleId receipt occasion c &&
      !setsCategory c r) = setting := by
    rw [hlisted]
    exact countP_add_of_imp fun r _ ↦ Rule.sets_of_setsCategory
  refine ⟨hsum, ?_⟩
  rw [← hsum, left_eq_add, List.countP_eq_zero]
  refine forall₂_congr fun r _ ↦ ?_
  rw [← setsCategory_iff]
  simp

/-- A taxi rule that sets its category with blanks around the word. -/
def paddedRule : Rule := { taxiRule with actions := [⟨.setCategory, " EXPENSE "⟩] }

/-- The store takes the rule, which sets its category, and lists nothing under it. -/
theorem paddedRule_uncounted :
    let s := ((Office.start {} none).after [(newYear, .add paddedRule)]).store
    s.rules.countP (Rule.sets {} none none ⟨none, newYear.date⟩ .expense) = 1 ∧
    s.counts.lookup "category:EXPENSE" = none := by
  decide +kernel

end Store

end ReceiptRules
