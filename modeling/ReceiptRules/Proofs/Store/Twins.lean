import ReceiptRules.Proofs.Store.Reloading

/-!
# Stores that keep the same rules in another order

Reading a store back can put its rules in another order, which is how they are kept and not how they
are evaluated. As long as no two rules have the same sequence, no answer shows in which order they
are kept, and each change of two stores with the same rules leaves such stores behind. A document
from outside can break this; then it has put the same store in the place of both.
-/

namespace ReceiptRules

open ArchiveNumber

namespace Store

variable {s s' t : Store} {now : Timestamp}

/-! ## Numbered stores -/

/-- The rules have distinct sequences, and the next one is ahead of them and of zero. -/
structure IsNumbered (s : Store) : Prop where
  distinct : (s.table.rules.map fun r ↦ r.sequence).Nodup
  ahead : s.IsAhead
  positive : 1 ≤ s.nextSequence

theorem isNumbered_empty (settings : Settings) : (Store.empty settings).IsNumbered :=
  ⟨.nil, isAhead_empty settings, Int.le_refl 1⟩

/-- A rule in the place of another one takes over its sequence. -/
theorem IsNumbered.distinct_put (h : s.IsNumbered) {current r : Rule}
    (hcurrent : current ∈ s.table.rules) (hid : current.id = r.id)
    (hsequence : r.sequence = current.sequence) :
    ((s.table.put r).rules.map fun r ↦ r.sequence).Nodup := by
  have hsame : (s.table.put r).rules.map (fun r ↦ r.sequence) =
      s.table.rules.map fun r ↦ r.sequence :=
    Rule.map_replaceIn s.table.distinct hcurrent hid hsequence
  rw [hsame]
  exact h.distinct

theorem IsNumbered.step (h : s.IsNumbered) (hstep : Step now s s') : s'.IsNumbered := by
  have hahead := h.ahead.step hstep
  cases hstep with
  | insert id r hcheck hnew =>
    refine ⟨?_, hahead, Int.le_trans h.positive (Int.le_of_lt (Int.lt_succ _))⟩
    have hlater : ∀ x ∈ s.table.rules.map (fun r ↦ r.sequence), x ≠ s.nextSequence := by
      intro x hx
      obtain ⟨r, hr, rfl⟩ := List.mem_map.mp hx
      exact Int.ne_of_lt (h.ahead r hr)
    dsimp only
    rw [Rule.Table.rules_put_of_notMem (by exact hnew), List.map_append, List.map_singleton]
    exact List.nodup_append.mpr ⟨h.distinct, List.nodup_singleton _,
      fun x hx y hy ↦ List.mem_singleton.mp hy ▸ hlater x hx⟩
  | update current r hcurrent hid hcheck =>
    exact ⟨h.distinct_put hcurrent hid rfl, hahead, h.positive⟩
  | setEnabled r enabled hr => exact ⟨h.distinct_put hr rfl rfl, hahead, h.positive⟩
  | delete r hr hsystem =>
    exact ⟨h.distinct.sublist (List.filter_sublist.map _), hahead, h.positive⟩
  | reorder ids hids =>
    refine ⟨?_, hahead, h.positive⟩
    have hsame : (s.table.modify (placedIn now ids)).rules.map (fun r ↦ r.sequence) =
        s.table.rules.map fun r ↦ r.sequence := by
      rw [Rule.Table.modify, List.map_map]
      apply List.map_congr_left
      intro r hr
      obtain ⟨priority, updatedAt, hplaced⟩ := exists_placedIn now ids r
      simp only [Function.comp_apply, hplaced]
    rw [hsame]
    exact h.distinct
  | reload hwritable =>
    refine ⟨((table_copy_perm s).map _).nodup_iff.mpr h.distinct, hahead, ?_⟩
    exact Int.le_trans h.positive (Int.le_max_left _ _)
  | startOver => exact isNumbered_empty s.settings

theorem isNumbered_after {settings : Settings} {counters : Option Counters}
    {requests : List (Timestamp × Request)} (hown : ∀ entry ∈ requests, entry.2.IsOwn) :
    ((Office.start settings counters).after requests).store.IsNumbered :=
  Office.store_after_of_isOwn hown (fun _ _ _ h hstep ↦ h.step hstep) (isNumbered_empty settings)

/-! ## Twins -/

/-- Two numbered stores that hold the same rules, in whatever order they keep them. -/
structure Twin (s t : Store) : Prop where
  numbered : s.IsNumbered
  settings : s.settings = t.settings
  nextSequence : s.nextSequence = t.nextSequence
  table : s.table.rules.Perm t.table.rules

/-- Stores that are the same or twins. -/
def Alike (s t : Store) : Prop := s = t ∨ s.Twin t

theorem twin_copy (h : s.IsNumbered) : s.Twin s.copy := by
  refine ⟨h, rfl, ?_, (table_copy_perm s).symm⟩
  rw [nextSequence_copy h.ahead]
  split
  · exact (Int.max_eq_left h.positive).symm
  · rfl

theorem eq_of_parts (hsettings : s.settings = t.settings) (htable : s.table = t.table)
    (hnext : s.nextSequence = t.nextSequence) : s = t := by
  cases s
  cases t
  cases hsettings
  cases htable
  cases hnext
  rfl

namespace Twin

variable (h : s.Twin t)

include h

theorem rules : s.rules = t.rules := Rule.ordered_eq_of_perm h.table h.numbered.distinct

theorem enabledRules : s.enabledRules = t.enabledRules := by
  rw [Store.enabledRules, Store.enabledRules, h.rules]

theorem get (id : String) : s.get id = t.get id := by
  rw [Store.get, Store.get, Rule.Table.find?_of_perm h.table]

theorem contains (id : String) : s.contains id = t.contains id :=
  Rule.Table.contains_of_perm h.table id

theorem counts : s.counts = t.counts := by
  have hcount : ∀ p : Rule → Bool, s.table.rules.countP p = t.table.rules.countP p :=
    fun p ↦ h.table.countP_eq p
  simp only [Store.counts, categoryCounts, hcount, h.table.length_eq]

theorem copy : s.copy = t.copy := by
  have htable : s.copy.table = t.copy.table := Rule.Table.eq_of_rules h.rules
  have hnext : s.copy.nextSequence = t.copy.nextSequence := by
    rw [copy_nextSequence, copy_nextSequence, h.rules, h.nextSequence]
  exact eq_of_parts h.settings htable hnext

theorem ask (q : Query) : s.ask q = t.ask q := by
  cases q with
  | get id => rw [Store.ask, Store.ask, h.get]
  | rules => rw [Store.ask, Store.ask, h.rules]
  | enabledRules => rw [Store.ask, Store.ask, h.enabledRules]
  | search text => rw [Store.ask, Store.ask, search, search, h.rules]
  | counts => rw [Store.ask, Store.ask, h.counts]
  | size => rw [Store.ask, Store.ask, h.table.length_eq]
  | contains id => rw [Store.ask, Store.ask, h.contains]
  | document => rw [Store.ask, Store.ask, toDocument_eq_of h.rules h.nextSequence]

end Twin

/-! ## Changes of twins -/

/-- Two results of a change: the same failure, or the same reply and stores that are alike. -/
inductive Agree {α : Type} : Except Failure (α × Store) → Except Failure (α × Store) → Prop
  | error (e : Failure) : Agree (.error e) (.error e)
  | ok (a : α) {s t : Store} (h : s.Alike t) : Agree (.ok (a, s)) (.ok (a, t))

theorem Agree.refl {α : Type} (x : Except Failure (α × Store)) : Agree x x := by
  rcases x with e | ⟨a, s⟩
  · exact .error e
  · exact .ok a (.inl rfl)

theorem Agree.map {α β : Type} {x y : Except Failure (α × Store)} (h : Agree x y) (f : α → β) :
    Agree (x.map fun (a, s) ↦ (f a, s)) (y.map fun (a, s) ↦ (f a, s)) := by
  cases h with
  | error e => exact .error e
  | ok a h => exact .ok (f a) h

namespace Twin

variable (h : s.Twin t)

include h

/-- Putting a rule into both keeps twins alike, as long as the first store stays numbered. -/
theorem put {r : Rule} (hnumbered : IsNumbered { s with table := s.table.put r }) :
    Twin { s with table := s.table.put r } { t with table := t.table.put r } :=
  ⟨hnumbered, h.settings, h.nextSequence, Rule.Table.put_perm h.table r⟩

theorem insert {id : String} {r : Rule} (hcheck : r.problems s.settings = .ok []) :
    Agree (s.insert now id r) (t.insert now id r) := by
  rw [Store.insert, Store.insert, h.contains, ← h.nextSequence]
  split
  · exact .error _
  · next hnew =>
    rw [← h.contains] at hnew
    have hstep : Step now s _ := .insert id r hcheck fun hmem ↦
      hnew (Rule.Table.contains_iff.mpr hmem)
    refine .ok _ (.inr ⟨h.numbered.step hstep, h.settings, ?_, Rule.Table.put_perm h.table _⟩)
    rw [h.nextSequence]

theorem update (r : Rule) : Agree (s.update now r) (t.update now r) := by
  have hsettings : r.check t.settings = r.check s.settings := by rw [h.settings]
  rw [Store.update, Store.update, ← h.get, hsettings]
  cases hget : s.get r.id with
  | error e => exact .error e
  | ok current =>
    cases hcheck : r.check s.settings with
    | error e => exact .error e
    | ok _ =>
      obtain ⟨hcurrent, hid⟩ := get_eq_ok_iff.mp hget
      have hstep : Step now s _ := .update current r hcurrent hid (Rule.check_eq_ok_iff.mp hcheck)
      exact .ok _ (.inr (h.put (h.numbered.step hstep)))

theorem setEnabled (id : String) (enabled : Bool) :
    Agree (s.setEnabled now id enabled) (t.setEnabled now id enabled) := by
  rw [Store.setEnabled, Store.setEnabled, ← h.get]
  cases hget : s.get id with
  | error e => exact .error e
  | ok r =>
    have hstep : Step now s _ := .setEnabled r enabled (get_eq_ok_iff.mp hget).1
    exact .ok _ (.inr (h.put (h.numbered.step hstep)))

theorem toggle (id : String) : Agree (s.toggle now id) (t.toggle now id) := by
  rw [Store.toggle, Store.toggle, ← h.get]
  cases s.get id with
  | error e => exact .error e
  | ok r => exact h.setEnabled id !r.enabled

theorem delete (id : String) : Agree ((s.delete id).map fun s ↦ (Reply.done, s))
    ((t.delete id).map fun t ↦ (Reply.done, t)) := by
  rw [Store.delete, Store.delete, ← h.get]
  cases hget : s.get id with
  | error e => exact .error e
  | ok r =>
    obtain ⟨hr, rfl⟩ := get_eq_ok_iff.mp hget
    simp only [bind, Except.bind]
    split
    · exact .error _
    · next hsystem =>
      -- A deletion leaves no trace of its moment.
      have hstep : Step r.updatedAt s _ := .delete r hr (Bool.eq_false_iff.mpr hsystem)
      exact .ok _ (.inr ⟨h.numbered.step hstep, h.settings, h.nextSequence,
        Rule.Table.erase_perm h.table r.id⟩)

theorem reorder (ids : List String) : Agree ((s.reorder now ids).map inOrder)
    ((t.reorder now ids).map inOrder) := by
  have hids : ids.isPerm (Rule.ids s.table.rules) = ids.isPerm (Rule.ids t.table.rules) := by
    rw [Bool.eq_iff_iff, List.isPerm_iff, List.isPerm_iff]
    exact ⟨fun hperm ↦ hperm.trans (h.table.map _), fun hperm ↦ hperm.trans (h.table.map _).symm⟩
  rw [Store.reorder, Store.reorder, ← hids]
  split
  · next hperm =>
    have hstep : Step now s _ := .reorder ids (List.isPerm_iff.mp hperm)
    have htwin : Twin { s with table := s.table.modify (placedIn now ids) }
        { t with table := t.table.modify (placedIn now ids) } :=
      ⟨h.numbered.step hstep, h.settings, h.nextSequence, Rule.Table.modify_perm h.table _⟩
    rw [Except.map, Except.map, inOrder, inOrder, htwin.rules]
    exact .ok _ (.inr htwin)
  · exact .error _

theorem move (id : String) (place : Int) : Agree ((s.move now id place).map inOrder)
    ((t.move now id place).map inOrder) := by
  rw [Store.move, Store.move, ← h.get, ← h.rules]
  cases s.get id with
  | error e => exact .error e
  | ok r => exact h.reorder _

/-- Twins are read back as the same store. -/
theorem reload : s.reload now = t.reload now := by
  have hsaved : s.saved = t.saved := by
    rw [saved, saved, toDocument_eq_of h.rules h.nextSequence]
  rw [reload_eq, reload_eq, isWritable_eq_of h.rules h.nextSequence, hsaved, h.copy]

theorem change (c : Change) : Agree (s.change now c) (t.change now c) := by
  cases c with
  | update r => exact (h.update r).map _
  | delete id => exact h.delete id
  | setEnabled id enabled => exact (h.setEnabled id enabled).map _
  | toggle id => exact (h.toggle id).map _
  | reorder ids => exact h.reorder ids
  | move id place => exact h.move id place
  | reload =>
    rw [Store.change, Store.change, h.reload]
    exact .refl _
  | load payload =>
    rw [Store.change, Store.change, h.settings]
    exact .refl _

end Twin

namespace Alike

variable (h : s.Alike t)

include h

theorem settings : s.settings = t.settings := by
  rcases h with rfl | htwin
  · rfl
  · exact htwin.settings

theorem rules : s.rules = t.rules := by
  rcases h with rfl | htwin
  · rfl
  · exact htwin.rules

theorem enabledRules : s.enabledRules = t.enabledRules := by
  rw [Store.enabledRules, Store.enabledRules, h.rules]

theorem contains (id : String) : s.contains id = t.contains id := by
  rcases h with rfl | htwin
  · rfl
  · exact htwin.contains id

theorem ask (q : Query) : s.ask q = t.ask q := by
  rcases h with rfl | htwin
  · rfl
  · exact htwin.ask q

theorem change (now : Timestamp) (c : Change) : Agree (s.change now c) (t.change now c) := by
  rcases h with rfl | htwin
  · exact .refl _
  · exact htwin.change c

theorem insert {id : String} {r : Rule} (hcheck : r.problems s.settings = .ok []) :
    Agree (s.insert now id r) (t.insert now id r) := by
  rcases h with rfl | htwin
  · exact .refl _
  · exact htwin.insert hcheck

end Alike

end Store

end ReceiptRules
