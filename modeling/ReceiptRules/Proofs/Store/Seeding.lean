import ReceiptRules.Proofs.Store.Saving
import ReceiptRules.Store.SystemRules

/-!
# New stores

A store that is filled with system rules counts from one and takes over the priorities of the
templates, so all its whole numbers are short enough to be written and read back.
-/

namespace ReceiptRules

open Text

namespace Store

/-- The whole numbers of the store keep within a limit. -/
structure Within (limit : Nat) (s : Store) : Prop where
  nonneg : 0 ≤ s.nextSequence
  nextSequence : s.nextSequence ≤ limit
  priority : ∀ r ∈ s.table.rules, r.priority.natAbs ≤ limit
  sequence : ∀ r ∈ s.table.rules, r.sequence.natAbs ≤ limit

theorem Within.isWritable {s : Store} (h : s.Within 100) : s.isWritable = true := by
  have hnext : s.nextSequence.natAbs ≤ 100 := by
    have hnonneg := h.nonneg
    have hlimit := h.nextSequence
    omega
  refine isWritable_iff.mpr ⟨WholeNumber.writable_of_le hnext, ?_⟩
  intro r hr
  exact ⟨WholeNumber.writable_of_le (h.priority r hr), WholeNumber.writable_of_le (h.sequence r hr)⟩

/-! ## Filling a store -/

theorem within_empty (settings : Settings) (limit : Nat) (h : 1 ≤ limit) :
    (Store.empty settings).Within limit := by
  have hnone : ∀ r, r ∉ (Store.empty settings).table.rules := fun r ↦ List.not_mem_nil
  exact ⟨Int.one_nonneg, Int.ofNat_le.mpr h, fun r hr ↦ absurd hr (hnone r),
    fun r hr ↦ absurd hr (hnone r)⟩

theorem Within.insert {limit : Nat} {s s' : Store} {now : Timestamp} {id : String} {r stored : Rule}
    (h : s.Within limit) (hroom : s.nextSequence + 1 ≤ limit) (hr : r.priority.natAbs ≤ limit)
    (hinsert : s.insert now id r = .ok (stored, s')) :
    s'.Within limit ∧ s'.nextSequence = s.nextSequence + 1 := by
  have hnonneg := h.nonneg
  simp only [Store.insert] at hinsert
  split at hinsert
  · cases hinsert
  · cases hinsert
    refine ⟨⟨by simp only; omega, hroom, ?_, ?_⟩, rfl⟩
    · intro x hx
      rcases Rule.Table.mem_put.mp hx with rfl | hx
      · exact hr
      · exact h.priority x hx.1
    · intro x hx
      rcases Rule.Table.mem_put.mp hx with rfl | hx
      · simp only
        omega
      · exact h.sequence x hx.1

end Store

theorem Desk.store_add (desk : Desk) (now : Timestamp) (r : Rule) :
    (desk.add now r).2.store = desk.store ∨
      ∃ id stored, desk.store.insert now id r = .ok (stored, (desk.add now r).2.store) := by
  have hsame : (desk.identify r).2.store = desk.store := by
    unfold identify
    split <;> rfl
  unfold add
  cases r.check desk.store.settings with
  | error e => exact .inl rfl
  | ok checked =>
    generalize desk.identify r = step at *
    obtain ⟨id, identified⟩ := step
    simp only at hsame ⊢
    rw [hsame]
    cases hinsert : desk.store.insert now id r with
    | error e => exact .inl hsame
    | ok result => exact .inr ⟨id, result.1, hinsert⟩

theorem Registry.within_seedFrom {limit : Nat} {now : Timestamp} {templates : List Template}
    {desk : Desk} (h : desk.store.Within limit)
    (hroom : desk.store.nextSequence + templates.length ≤ limit)
    (hpriority : ∀ t ∈ templates, t.draft.priority.natAbs ≤ limit) :
    (seedFrom now templates desk).2.store.Within limit := by
  induction templates generalizing desk with
  | nil => exact h
  | cons t rest ih =>
    obtain ⟨ht, hrest⟩ := List.forall_mem_cons.mp hpriority
    rw [List.length_cons] at hroom
    rw [seedFrom]
    split
    · exact ih h (by omega) hrest
    · have hstep : (desk.add now (t.rule now)).2.store.Within limit ∧
          (desk.add now (t.rule now)).2.store.nextSequence ≤ desk.store.nextSequence + 1 := by
        rcases desk.store_add now (t.rule now) with hsame | ⟨id, stored, hinsert⟩
        · rw [hsame]
          exact ⟨h, by omega⟩
        · obtain ⟨hwithin, hnext⟩ := h.insert (by omega) ht hinsert
          exact ⟨hwithin, by omega⟩
      generalize desk.add now (t.rule now) = step at *
      obtain ⟨result, added⟩ := step
      cases result with
      | error e => exact hstep.1
      | ok stored =>
        have hnext : added.store.nextSequence ≤ desk.store.nextSequence + 1 := hstep.2
        exact ih hstep.1 (by omega) hrest

theorem Registry.within_seed {g : Registry} {limit : Nat} (settings : Settings) (now : Timestamp)
    (drawn : Nat) (hroom : g.templates.length < limit)
    (hpriority : ∀ t ∈ g.templates, t.draft.priority.natAbs ≤ limit) :
    (g.seed now ⟨.empty settings, drawn⟩).2.store.Within limit := by
  have hempty : (Store.empty settings).Within limit := Store.within_empty settings limit (by omega)
  have hnext : (Store.empty settings).nextSequence + g.templates.length ≤ limit := by
    simp only [Store.empty]
    omega
  exact within_seedFrom hempty hnext hpriority

/-- The document of a store that is filled with the system rules is read back as it is. -/
theorem SystemRules.plain_seed (settings : Settings) (now : Timestamp) (drawn : Nat) :
    Json.Plain (registry.seed now ⟨.empty settings, drawn⟩).2.store.toDocument := by
  have hroom : registry.templates.length < 100 := by decide
  have hpriority : ∀ t ∈ registry.templates, t.draft.priority.natAbs ≤ 100 := by decide
  exact Store.plain_toDocument (Registry.within_seed settings now drawn hroom hpriority).isWritable

end ReceiptRules
