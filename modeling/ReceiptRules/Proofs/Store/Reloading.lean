import ReceiptRules.Proofs.Store.Steps

/-!
# Stores survive reloading

In every store that an office comes to have, documents from outside included, the next sequence
number is ahead of all rules. So a store that can be saved is read back with the same rules in the
same order and with the same next sequence number, unless it has no rules and its next number is
below one.
-/

namespace ReceiptRules

open Text

namespace Store

variable {s s' : Store} {now : Timestamp}

/-- The next sequence number exceeds the sequence of every rule. -/
def IsAhead (s : Store) : Prop := ∀ r ∈ s.table.rules, r.sequence < s.nextSequence

theorem isAhead_empty (settings : Settings) : (Store.empty settings).IsAhead :=
  fun _ hr ↦ absurd hr List.not_mem_nil

/-- A new place in the order changes the priority and the moment of the last change, or nothing. -/
theorem placedIn_cases (now : Timestamp) (ids : List String) (r : Rule) :
    placedIn now ids r = r ∨
      ∃ priority, placedIn now ids r = { r with priority, updatedAt := now } := by
  rw [placedIn]
  split
  · exact .inl rfl
  · dsimp only
    split
    · exact .inl rfl
    · exact .inr ⟨_, rfl⟩

theorem exists_placedIn (now : Timestamp) (ids : List String) (r : Rule) :
    ∃ priority updatedAt, placedIn now ids r = { r with priority, updatedAt } := by
  rcases placedIn_cases now ids r with hplaced | ⟨priority, hplaced⟩
  · exact ⟨r.priority, r.updatedAt, hplaced⟩
  · exact ⟨priority, now, hplaced⟩

theorem mem_reordered {ids : List String} {x : Rule}
    (h : x ∈ (s.table.modify (placedIn now ids)).rules) :
    ∃ r ∈ s.table.rules, ∃ priority updatedAt, x = { r with priority, updatedAt } := by
  obtain ⟨r, hr, rfl⟩ := Rule.Table.mem_modify.mp h
  obtain ⟨priority, updatedAt, hplaced⟩ := exists_placedIn now ids r
  exact ⟨r, hr, priority, updatedAt, by rw [hplaced]⟩

/-- Numbers that are read are below the next one, however small that is in the document. -/
theorem sequence_lt_max {rules : List Rule} {r : Rule} (h : r ∈ rules) (next : Int) :
    r.sequence < max next (highestSequence rules + 1) := by
  have hle := sequence_le_highestSequence h
  omega

theorem IsAhead.step (h : s.IsAhead) (hstep : Step now s s') : s'.IsAhead := by
  cases hstep with
  | insert id r hcheck hnew =>
    intro x hx
    rcases Rule.Table.mem_put.mp hx with rfl | ⟨hx, -⟩
    · exact Int.lt_succ s.nextSequence
    · exact Int.lt_trans (h x hx) (Int.lt_succ s.nextSequence)
  | update current r hcurrent hid hcheck =>
    intro x hx
    rcases Rule.Table.mem_put.mp hx with rfl | ⟨hx, -⟩
    · exact h current hcurrent
    · exact h x hx
  | setEnabled r enabled hr =>
    intro x hx
    rcases Rule.Table.mem_put.mp hx with rfl | ⟨hx, -⟩
    · exact h r hr
    · exact h x hx
  | delete r hr hsystem => exact fun x hx ↦ h x (Rule.Table.mem_erase.mp hx).1
  | reorder ids hids =>
    intro x hx
    obtain ⟨r, hr, priority, updatedAt, rfl⟩ := mem_reordered hx
    exact h r hr
  | reload hwritable => exact fun x hx ↦ sequence_lt_max hx s.nextSequence
  | startOver => exact isAhead_empty s.settings

theorem isAhead_of_ofDocument {settings : Settings} {v : Value}
    (h : ofDocument settings now v = .ok s) : s.IsAhead := by
  obtain ⟨entries, rules, next, -, -, rfl⟩ := exists_of_ofDocument h
  exact fun x hx ↦ sequence_lt_max (Rule.Table.mem_of_mem_ofRules hx) next

theorem isAhead_after (settings : Settings) (counters : Option ArchiveNumber.Counters)
    (requests : List (Timestamp × Request)) :
    ((Office.start settings counters).after requests).store.IsAhead :=
  Office.store_after (fun _ _ _ h hstep ↦ h.step hstep)
    (fun _ _ _ _ _ _ hread ↦ isAhead_of_ofDocument hread) (isAhead_empty settings)

/-! ## What is read back -/

theorem nextSequence_copy (h : s.IsAhead) : s.copy.nextSequence =
    if s.rules = [] then max s.nextSequence 1 else s.nextSequence := by
  rw [copy_nextSequence]
  split
  · next hnone =>
    rw [hnone]
    rfl
  · next hsome =>
    have hhighest : highestSequence s.rules ≤ s.nextSequence - 1 := by
      rw [highestSequence_le_iff hsome]
      intro r hr
      have hlt := h r (Rule.mem_ordered.mp hr)
      omega
    omega

theorem toDocument_eq_of (hrules : s'.rules = s.rules) (hnext : s'.nextSequence = s.nextSequence) :
    s'.toDocument = s.toDocument := by
  rw [toDocument, toDocument, hrules, hnext]

theorem isWritable_eq_of (hrules : s'.rules = s.rules) (hnext : s'.nextSequence = s.nextSequence) :
    s'.isWritable = s.isWritable := by
  have hmem : ∀ r, r ∈ s'.table.rules ↔ r ∈ s.table.rules := fun r ↦
    calc r ∈ s'.table.rules ↔ r ∈ s'.rules := Rule.mem_ordered.symm
      _ ↔ r ∈ s.rules := by rw [hrules]
      _ ↔ r ∈ s.table.rules := Rule.mem_ordered
  rw [Bool.eq_iff_iff, isWritable_iff, isWritable_iff, hnext]
  simp only [hmem]

/-- What is saved depends on the rules in their order and the next sequence number alone. -/
theorem save_eq_of (hrules : s'.rules = s.rules) (hnext : s'.nextSequence = s.nextSequence) :
    s'.save = s.save := by
  rw [save, save, isWritable_eq_of hrules hnext, saved, saved, toDocument_eq_of hrules hnext]

/-- A store as it is read back from a text. The next sequence number of a store without rules is at
least one; where it is the same, so is the text of the store that is read. -/
structure Restores (s : Store) (text : String) (copy : Store) : Prop where
  rules : copy.rules = s.rules
  nextSequence : copy.nextSequence =
    if s.rules = [] then max s.nextSequence 1 else s.nextSequence
  savedAgain : copy.nextSequence = s.nextSequence → copy.save = .ok text

theorem restores_copy (h : s.IsAhead) (hwritable : s.isWritable = true) (settings : Settings) :
    s.Restores s.saved { s.copy with settings } := by
  have hsave : s.save = .ok s.saved := by rw [save, if_pos hwritable]
  have hagain {copy : Store} (hrules : copy.rules = s.rules)
      (hnext : copy.nextSequence = s.nextSequence) : copy.save = .ok s.saved :=
    (save_eq_of hrules hnext).trans hsave
  exact ⟨rules_copy s, nextSequence_copy h, hagain (rules_copy s)⟩

/-- Whatever has happened to a store, it is refused when a number is too long to be written, and
otherwise its text is read back, at any moment and with any settings, as a store with the same rules
in the same order. -/
theorem restored_after (settings : Settings) (counters : Option ArchiveNumber.Counters)
    (requests : List (Timestamp × Request)) :
    let s := ((Office.start settings counters).after requests).store
    if s.isWritable then
      ∃ text, s.save = .ok text ∧ ∀ settings' now, ∃ copy,
        ofSaved settings' now text = .ok copy ∧ copy.settings = settings' ∧ s.Restores text copy
    else s.save = .error .unwritableNumber := by
  intro s
  have hahead : s.IsAhead := isAhead_after settings counters requests
  clear_value s
  -- Taken by value: looking into the condition would write out the greatest number.
  cases hwritable : s.isWritable with
  | true =>
    rw [if_pos rfl]
    refine ⟨s.saved, by rw [save, if_pos hwritable], ?_⟩
    intro settings' now
    exact ⟨{ s.copy with settings := settings' }, ofSaved_saved hwritable settings' now, rfl,
      restores_copy hahead hwritable settings'⟩
  | false => rw [if_neg Bool.false_ne_true, save, hwritable, if_neg Bool.false_ne_true]

/-! ## Where the next number or the text is lost -/

def newYear : Timestamp := .midnight ⟨2024, 1, 1, .refl true⟩

/-- A rule from outside with a sequence below zero. -/
def earlyRule : Rule where
  id := "a"
  name := "x"
  sequence := -10
  createdAt := newYear
  updatedAt := newYear

/-- Reads one early rule and deletes it. -/
def emptying : List (Timestamp × Request) := [
  (newYear, .change (.load (.object [
    ("rules", .list [earlyRule.toDocument]), ("next_sequence", .int (-20))]))),
  (newYear, .change (.delete "a"))]

/-- Reads a next sequence number of one digit more than can be written. -/
def overflowing : List (Timestamp × Request) := [
  (newYear, .change (.load (.object [
    ("rules", .list []),
    ("next_sequence", .decimal (.finite ⟨false, 1, WholeNumber.digitLimit⟩))])))]

theorem store_after_emptying :
    ((Office.start {} none).after emptying).store = ⟨{}, .empty, -9⟩ := by
  have hload : ofDocument {} newYear (.object [
      ("rules", .list [earlyRule.toDocument]), ("next_sequence", .int (-20))]) =
        .ok ⟨{}, .ofRules [earlyRule], -9⟩ :=
    @ofDocument_of_parts _ (.int (-20)) [earlyRule] (-20) {} newYear rfl rfl rfl
  have hdelete : delete ⟨{}, .ofRules [earlyRule], -9⟩ "a" = .ok ⟨{}, .empty, -9⟩ := rfl
  simp only [emptying, Office.after, Office.perform, change, Office.start, Office.store, empty,
    hload, Except.map, Office.withStore, hdelete]

theorem store_after_overflowing : ((Office.start {} none).after overflowing).store =
    ⟨{}, .empty, max (Nat.pow 10 WholeNumber.digitLimit : Nat) 1⟩ := by
  rw [overflowing]
  generalize WholeNumber.digitLimit = limit
  have hwhole : (Value.decimal (.finite ⟨false, 1, limit⟩)).wholeNumber =
      .ok (Nat.pow 10 limit : Nat) := by
    simp [Value.wholeNumber, Value.truncated, Binary64.scaled]
  have hload : ofDocument {} newYear (.object [("rules", .list []),
      ("next_sequence", .decimal (.finite ⟨false, 1, limit⟩))]) =
        .ok ⟨{}, .empty, max (Nat.pow 10 limit : Nat) 1⟩ :=
    @ofDocument_of_parts _ _ [] _ {} newYear rfl rfl hwhole
  simp only [Office.after, Office.perform, change, Office.start, Office.store, empty,
    hload, Except.map, Office.withStore]

/-- The next sequence number of an emptied store is lost when it was below one, and a store with a
number of too many digits has no text. -/
theorem emptied_not_restored :
    (∃ text copy, ((Office.start {} none).after emptying).store.save = .ok text ∧
      ofSaved {} newYear text = .ok copy ∧ copy.nextSequence = 1 ∧
      ((Office.start {} none).after emptying).store.nextSequence = -9) ∧
    ((Office.start {} none).after overflowing).store.save = .error .unwritableNumber := by
  constructor
  · rw [store_after_emptying]
    generalize hs : (⟨{}, .empty, -9⟩ : Store) = s
    have hwritable : s.isWritable = true := by
      rw [← hs, isWritable_iff]
      exact ⟨WholeNumber.writable_of_le (by decide), fun r hr ↦ absurd hr List.not_mem_nil⟩
    have hread := ofSaved_saved hwritable {} newYear
    refine ⟨s.saved, _, by rw [save, if_pos hwritable], hread, ?_⟩
    rw [← hs]
    exact ⟨rfl, rfl⟩
  · rw [store_after_overflowing]
    have hlong :
        isWritable ⟨{}, .empty, max (Nat.pow 10 WholeNumber.digitLimit : Nat) 1⟩ = false := by
      rw [isWritable, WholeNumber.writable_of_ge (Int.le_max_left _ _), Bool.false_and]
    rw [save, hlong, if_neg Bool.false_ne_true]

end Store

end ReceiptRules
