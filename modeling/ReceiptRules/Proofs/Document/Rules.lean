import ReceiptRules.Document.Rules
import ReceiptRules.Proofs.Timestamp.Reading

/-!
# Reading written rules

The document of a rule is read back as that rule, whatever its texts, numbers and moments are. It
states its moments, so the moment at which it is read does not matter.
-/

namespace ReceiptRules

open Reader

/-! ## Words -/

/-- Every member is found by its word. -/
def Vocabulary.IsFaithful (α : Type) [Vocabulary α] : Prop :=
  ∀ a : α, Vocabulary.read? (Vocabulary.word a) = some a

theorem Field.isFaithful : Vocabulary.IsFaithful Field := by
  intro f
  cases f <;> rfl

theorem Operator.isFaithful : Vocabulary.IsFaithful Operator := by
  intro op
  cases op <;> rfl

theorem Joiner.isFaithful : Vocabulary.IsFaithful Joiner := by
  intro joiner
  cases joiner <;> rfl

theorem ActionKind.isFaithful : Vocabulary.IsFaithful ActionKind := by
  intro kind
  cases kind <;> rfl

/-! ## Parts of documents -/

namespace Reader

theorem member_word {α : Type} [Vocabulary α] (h : Vocabulary.IsFaithful α) (a : α) :
    member (.text (Vocabulary.word a)) = .ok a := by
  rw [member, h a]

theorem itemsFrom_map {α : Type} {read : Reader α} {write : α → Value}
    (h : ∀ a, read (write a) = .ok a) (n : Nat) (xs : List α) :
    itemsFrom read n (xs.map write) = .ok xs := by
  induction xs generalizing n with
  | nil => rfl
  | cons x rest ih =>
    rw [List.map_cons, itemsFrom, h, ih]
    rfl

theorem list_map {α : Type} {read : Reader α} {write : α → Value}
    (h : ∀ a, read (write a) = .ok a) (xs : List α) :
    list read (.list (xs.map write)) = .ok xs :=
  itemsFrom_map h 0 xs

theorem optional_ofOption {α : Type} {read : Reader α} {write : α → Value}
    (h : ∀ a, read (write a) = .ok a) (hwrite : ∀ a, write a ≠ .null) (a : Option α) :
    optional read (Value.ofOption write a) = .ok a := by
  cases a with
  | none => rfl
  | some a =>
    have hread : (read (write a)).map some = .ok (some a) := by rw [h, Checked.map]
    rw [Value.ofOption]
    cases hv : write a with
    | null => exact absurd hv (hwrite a)
    | _ => rw [← hv, ← hread, optional.eq_2 _ _ (hwrite a)]

theorem timestamp_stored (t : Timestamp) :
    (timestamp (.text t.stored)).map some = .ok (some t) := by
  rw [timestamp, Timestamp.read?_stored]
  rfl

end Reader

/-! ## Conditions, actions and rules -/

theorem Condition.ofDocument_toDocument (c : Condition) : ofDocument c.toDocument = .ok c := by
  have hfield : member (.text c.field.word) = .ok c.field := member_word Field.isFaithful c.field
  have hoperator : member (.text c.operator.word) = .ok c.operator :=
    member_word Operator.isFaithful c.operator
  have hjoiner := member_word Joiner.isFaithful c.joiner
  have hvalue : text (.text c.value) = .ok c.value := rfl
  rw [toDocument, ofDocument, model]
  simp only [required, withDefault, List.lookup_cons, String.reduceBEq, hfield, hoperator, hvalue,
    hjoiner, Checked.within]
  rfl

theorem Action.ofDocument_toDocument (a : Action) : ofDocument a.toDocument = .ok a := by
  have hkind : member (.text a.kind.word) = .ok a.kind := member_word ActionKind.isFaithful a.kind
  have hvalue : text (.text a.value) = .ok a.value := rfl
  rw [toDocument, ofDocument, model]
  simp only [required, withDefault, List.lookup_cons, String.reduceBEq, hkind, hvalue, Checked.within]
  rfl

namespace Rule

/-- The draft that states everything about a rule. -/
def fullDraft (r : Rule) : RuleDraft := ⟨r.toRuleBody, some r.createdAt, some r.updatedAt⟩

theorem draft_ofDocument_toDocument (r : Rule) :
    RuleDraft.ofDocument r.toDocument = .ok r.fullDraft := by
  have htext : ∀ s, text (.text s) = .ok s := fun s ↦ rfl
  have hdescription := optional_ofOption htext (fun s ↦ nofun) r.description
  have henabled : Reader.bool (.bool r.enabled) = .ok r.enabled := rfl
  have hpriority : integer (.int r.priority) = .ok r.priority := rfl
  have hconditions := list_map Condition.ofDocument_toDocument r.conditions
  have hactions := list_map Action.ofDocument_toDocument r.actions
  have hsystem : Reader.bool (.bool r.isSystemRule) = .ok r.isSystemRule := rfl
  have hsequence : integer (.int r.sequence) = .ok r.sequence := rfl
  have hcreated := timestamp_stored r.createdAt
  have hupdated := timestamp_stored r.updatedAt
  rw [toDocument, RuleDraft.ofDocument, model]
  simp only [withDefault, required, List.lookup_cons, String.reduceBEq, htext, hdescription, henabled,
    hpriority, hconditions, hactions, hsystem, hsequence, hcreated, hupdated, Checked.within]
  rfl

/-- The document of a rule is read back as that rule at any moment. -/
theorem ofDocument_toDocument (r : Rule) (now : Timestamp) :
    ofDocument now r.toDocument = .ok r := by
  rw [ofDocument, draft_ofDocument_toDocument]
  rfl

end Rule

end ReceiptRules
