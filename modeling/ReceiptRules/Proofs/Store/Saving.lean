import ReceiptRules.Proofs.Document.Rules
import ReceiptRules.Proofs.Except
import ReceiptRules.Proofs.Json.RoundTrip
import ReceiptRules.Proofs.Rule.Sorting
import ReceiptRules.Proofs.Rule.Table
import ReceiptRules.Store.Document

/-!
# Saved stores

A store all of whose whole numbers can be written is saved, and the text is read back as a store
with the same rules, put in evaluation order. The next sequence number can grow thereby: it is at
least one and greater than every sequence that is read. A store with a longer number is not saved at
all.
-/

namespace ReceiptRules

open Text

/-! ## Documents can be written -/

theorem Condition.plain_toDocument (c : Condition) : Json.Plain c.toDocument := by
  refine .object _ (by simp) ?_
  simp only [List.forall_mem_cons]
  exact ⟨.text _, .text _, .text _, .text _, by simp⟩

theorem Action.plain_toDocument (a : Action) : Json.Plain a.toDocument := by
  refine .object _ (by simp) ?_
  simp only [List.forall_mem_cons]
  exact ⟨.text _, .text _, by simp⟩

theorem plain_ofOption_text (s : Option String) : Json.Plain (Value.ofOption .text s) := by
  cases s with
  | none => exact .null
  | some s => exact .text s

theorem Rule.plain_toDocument {r : Rule} (hpriority : WholeNumber.writable r.priority = true)
    (hsequence : WholeNumber.writable r.sequence = true) : Json.Plain r.toDocument := by
  have hconditions : Json.Plain (.list (r.conditions.map Condition.toDocument)) :=
    .list _ (List.forall_mem_map.mpr fun c _ ↦ c.plain_toDocument)
  have hactions : Json.Plain (.list (r.actions.map Action.toDocument)) :=
    .list _ (List.forall_mem_map.mpr fun a _ ↦ a.plain_toDocument)
  refine .object _ (by simp) ?_
  simp only [List.forall_mem_cons]
  exact ⟨.text _, .text _, plain_ofOption_text _, .bool _, .int _ hpriority, hconditions, hactions,
    .bool _, .int _ hsequence, .text _, .text _, by simp⟩

namespace Store

theorem isWritable_iff {s : Store} : s.isWritable = true ↔
    WholeNumber.writable s.nextSequence = true ∧ ∀ r ∈ s.table.rules,
      WholeNumber.writable r.priority = true ∧ WholeNumber.writable r.sequence = true := by
  simp [isWritable]

theorem plain_toDocument {s : Store} (h : s.isWritable = true) : Json.Plain s.toDocument := by
  obtain ⟨hnext, hnumbers⟩ := isWritable_iff.mp h
  have hversion : WholeNumber.writable formatVersion = true :=
    WholeNumber.writable_of_le (by decide)
  have hrules : Json.Plain (.list (s.rules.map Rule.toDocument)) := by
    refine .list _ (List.forall_mem_map.mpr fun r hr ↦ ?_)
    have hmem : r ∈ s.table.rules := Rule.mem_ordered.mp hr
    exact Rule.plain_toDocument (hnumbers r hmem).1 (hnumbers r hmem).2
  refine .object _ (by simp) ?_
  simp only [List.forall_mem_cons]
  exact ⟨.int _ hversion, .int _ hnext, hrules, by simp⟩

/-! ## Documents are read back -/

theorem nodup_ids_rules (s : Store) : (Rule.ids s.rules).Nodup :=
  ((Rule.ordered_perm s.table.rules).map _).nodup_iff.mpr s.table.distinct

/-- The store that is read back: its rules come in evaluation order. -/
def copy (s : Store) : Store :=
  ⟨s.settings, ⟨s.rules, s.nodup_ids_rules⟩, max s.nextSequence (highestSequence s.rules + 1)⟩

theorem readRules_map (now : Timestamp) (rules : List Rule) :
    readRules now (rules.map Rule.toDocument) = .ok rules := by
  induction rules with
  | nil => rfl
  | cons r rest ih =>
    rw [readRules] at ih ⊢
    rw [List.map_cons, List.mapM_cons, Rule.ofDocument_toDocument, ih]
    rfl

theorem ofDocument_of_parts {v n : Value} {rules : List Rule} {next : Int} (settings : Settings)
    (now : Timestamp)
    (hrules : v.entryOr "rules" (.list []) = .ok (.list (rules.map Rule.toDocument)))
    (hn : v.entryOr "next_sequence" (.int 1) = .ok n) (hnext : n.wholeNumber = .ok next) :
    ofDocument settings now v =
      .ok ⟨settings, .ofRules rules, max next (highestSequence rules + 1)⟩ := by
  have hitems : (Value.list (rules.map Rule.toDocument)).items =
      .ok (rules.map Rule.toDocument) := rfl
  have hread := readRules_map now rules
  unfold ofDocument
  simp only [hrules, hn, hitems, hread, hnext, bind, Except.bind]
  rfl

/-- What a document lists as its rules, one entry for each. -/
def listedEntries (v : Value) : Except Failure (List Value) := do
  (← v.entryOr "rules" (.list [])).items

theorem exists_of_ofDocument {v : Value} {settings : Settings} {now : Timestamp} {s : Store}
    (h : ofDocument settings now v = .ok s) :
    ∃ entries rules next, listedEntries v = .ok entries ∧ readRules now entries = .ok rules ∧
      s = ⟨settings, .ofRules rules, max next (highestSequence rules + 1)⟩ := by
  obtain ⟨listed, hlisted, h⟩ := Except.bind_eq_ok_iff.mp h
  obtain ⟨entries, hentries, h⟩ := Except.bind_eq_ok_iff.mp h
  obtain ⟨rules, hrules, h⟩ := Except.bind_eq_ok_iff.mp h
  obtain ⟨number, -, h⟩ := Except.bind_eq_ok_iff.mp h
  obtain ⟨next, -, h⟩ := Except.bind_eq_ok_iff.mp h
  cases h
  exact ⟨entries, rules, next, Except.bind_eq_ok_iff.mpr ⟨listed, hlisted, hentries⟩, hrules, rfl⟩

theorem ofDocument_toDocument (s : Store) (settings : Settings) (now : Timestamp) :
    ofDocument settings now s.toDocument = .ok { s.copy with settings } := by
  have hrules : s.toDocument.entryOr "rules" (.list []) =
      .ok (.list (s.rules.map Rule.toDocument)) := by
    simp [toDocument, Value.entryOr, List.lookup_cons]
  have hnext : s.toDocument.entryOr "next_sequence" (.int 1) = .ok (.int s.nextSequence) := by
    simp [toDocument, Value.entryOr, List.lookup_cons]
  have htable : Rule.Table.ofRules s.rules = ⟨s.rules, s.nodup_ids_rules⟩ :=
    Rule.Table.eq_of_rules (Rule.Table.rules_ofRules s.nodup_ids_rules)
  rw [ofDocument_of_parts settings now hrules hnext rfl, htable]
  rfl

theorem ofSaved_saved {s : Store} (h : s.isWritable = true) (settings : Settings)
    (now : Timestamp) : ofSaved settings now s.saved = .ok { s.copy with settings } := by
  rw [ofSaved, saved, Json.read_write .document (plain_toDocument h)]
  exact s.ofDocument_toDocument settings now

/-- Whether a store can be reloaded, and what comes of it, does not depend on the moment. -/
theorem reload_eq (s : Store) (now : Timestamp) : s.reload now =
    if s.isWritable then .ok (s.saved, s.copy) else .error .unwritableNumber := by
  rw [reload, save]
  split
  · next h =>
    have hread := ofSaved_saved h s.settings now
    simp only [bind, Except.bind, hread]
    rfl
  · rfl

theorem reload_eq_ok_iff {s s' : Store} {now : Timestamp} {text : String} :
    s.reload now = .ok (text, s') ↔ s.isWritable = true ∧ text = s.saved ∧ s' = s.copy := by
  rw [reload_eq]
  split
  · next h => simp [h, eq_comm]
  · next h => simp [h]

/-! ## The copy -/

theorem copy_nextSequence (s : Store) :
    s.copy.nextSequence = max s.nextSequence (highestSequence s.rules + 1) := rfl

theorem rules_copy (s : Store) : s.copy.rules = s.rules :=
  Rule.ordered_ordered s.table.rules

theorem table_copy_perm (s : Store) : s.copy.table.rules.Perm s.table.rules :=
  Rule.ordered_perm s.table.rules

theorem foldl_max_le_iff {rules : List Rule} {top bound : Int} :
    rules.foldl (fun top r ↦ max top r.sequence) top ≤ bound ↔
      top ≤ bound ∧ ∀ r ∈ rules, r.sequence ≤ bound := by
  induction rules generalizing top with
  | nil => simp
  | cons r rest ih =>
    rw [List.foldl_cons, ih, List.forall_mem_cons, Int.max_le, and_assoc]

theorem highestSequence_le_iff {rules : List Rule} {bound : Int} (h : rules ≠ []) :
    highestSequence rules ≤ bound ↔ ∀ r ∈ rules, r.sequence ≤ bound := by
  cases rules with
  | nil => exact absurd rfl h
  | cons r rest => rw [highestSequence, foldl_max_le_iff, List.forall_mem_cons]

theorem sequence_le_highestSequence {rules : List Rule} {r : Rule} (h : r ∈ rules) :
    r.sequence ≤ highestSequence rules :=
  (highestSequence_le_iff (List.ne_nil_of_mem h)).mp (Int.le_refl _) r h

end Store

end ReceiptRules
