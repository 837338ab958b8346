import Mathlib.Logic.Relation
import ReceiptRules.Proofs.Except
import ReceiptRules.Proofs.Store.Saving
import ReceiptRules.Store.Office

/-!
# What can happen to a store

Whatever an office is asked for, its store goes through a number of steps, and there are seven kinds
of them. Only a document from outside can put something else in its place. A property of stores that
no step breaks therefore holds as long as documents from outside do not break it either.
-/

namespace ReceiptRules

open Relation

theorem Rule.check_eq_ok_iff {settings : Settings} {r : Rule} :
    r.check settings = .ok () ↔ r.problems settings = .ok [] := by
  rw [Rule.check]
  cases r.problems settings with
  | error e => simp [bind, Except.bind]
  | ok found => cases found <;> simp [bind, Except.bind, pure, Except.pure]

namespace Store

variable {s s' : Store} {now : Timestamp} {r stored : Rule} {id : String}

/-- One step of a store: a rule is added, changed, switched, deleted; the rules get a new order; the
store is saved and read back, or emptied. -/
inductive Step (now : Timestamp) (s : Store) : Store → Prop
  | insert (id : String) (r : Rule) (hcheck : r.problems s.settings = .ok [])
      (hnew : id ∉ Rule.ids s.table.rules) :
      Step now s { s with
        table := s.table.put
          { r with id, sequence := s.nextSequence, createdAt := now, updatedAt := now }
        nextSequence := s.nextSequence + 1 }
  | update (current r : Rule) (hcurrent : current ∈ s.table.rules) (hid : current.id = r.id)
      (hcheck : r.problems s.settings = .ok []) :
      Step now s { s with
        table := s.table.put
          { r with
            sequence := current.sequence
            createdAt := current.createdAt
            isSystemRule := current.isSystemRule
            updatedAt := now } }
  | setEnabled (r : Rule) (enabled : Bool) (hr : r ∈ s.table.rules) :
      Step now s { s with table := s.table.put { r with enabled, updatedAt := now } }
  | delete (r : Rule) (hr : r ∈ s.table.rules) (hsystem : r.isSystemRule = false) :
      Step now s { s with table := s.table.erase r.id }
  | reorder (ids : List String) (hids : ids.Perm (Rule.ids s.table.rules)) :
      Step now s { s with table := s.table.modify (placedIn now ids) }
  | reload (hwritable : s.isWritable = true) : Step now s s.copy
  | startOver : Step now s (.empty s.settings)

/-! ## Single operations -/

theorem mem_rules : r ∈ s.rules ↔ r ∈ s.table.rules := Rule.mem_ordered

theorem get_eq_ok_iff : s.get id = .ok r ↔ r ∈ s.table.rules ∧ r.id = id := by
  rw [get, ← Rule.Table.find?_eq_some_iff]
  cases s.table.find? id <;> simp

/-- What a change does to a store when it succeeds. -/
inductive Changed (now : Timestamp) (s : Store) : Change → Store → Prop
  | update (current r : Rule) (hcurrent : current ∈ s.table.rules) (hid : current.id = r.id)
      (hcheck : r.problems s.settings = .ok []) :
      Changed now s (.update r) { s with
        table := s.table.put
          { r with
            sequence := current.sequence
            createdAt := current.createdAt
            isSystemRule := current.isSystemRule
            updatedAt := now } }
  | delete (r : Rule) (hr : r ∈ s.table.rules) (hsystem : r.isSystemRule = false) :
      Changed now s (.delete r.id) { s with table := s.table.erase r.id }
  | setEnabled (r : Rule) (enabled : Bool) (hr : r ∈ s.table.rules) :
      Changed now s (.setEnabled r.id enabled)
        { s with table := s.table.put { r with enabled, updatedAt := now } }
  | toggle (r : Rule) (hr : r ∈ s.table.rules) :
      Changed now s (.toggle r.id)
        { s with table := s.table.put { r with enabled := !r.enabled, updatedAt := now } }
  | reorder (ids : List String) (hids : ids.Perm (Rule.ids s.table.rules)) :
      Changed now s (.reorder ids) { s with table := s.table.modify (placedIn now ids) }
  | move (r : Rule) (place : Int) (ids : List String) (hr : r ∈ s.table.rules)
      (hplace : ids = moved r.id place (Rule.ids s.rules))
      (hids : ids.Perm (Rule.ids s.table.rules)) :
      Changed now s (.move r.id place) { s with table := s.table.modify (placedIn now ids) }
  | reload (hwritable : s.isWritable = true) : Changed now s .reload s.copy
  | load (payload : Value) (s' : Store) (hload : ofDocument s.settings now payload = .ok s') :
      Changed now s (.load payload) s'

theorem changed_of_update (h : s.update now r = .ok (stored, s')) :
    Changed now s (.update r) s' := by
  obtain ⟨current, hget, h⟩ := Except.bind_eq_ok_iff.mp h
  obtain ⟨_, hcheck, h⟩ := Except.bind_eq_ok_iff.mp h
  obtain ⟨hcurrent, hid⟩ := get_eq_ok_iff.mp hget
  cases h
  exact .update current r hcurrent hid (Rule.check_eq_ok_iff.mp hcheck)

theorem changed_of_delete (h : s.delete id = .ok s') : Changed now s (.delete id) s' := by
  obtain ⟨r, hget, h⟩ := Except.bind_eq_ok_iff.mp h
  obtain ⟨hr, rfl⟩ := get_eq_ok_iff.mp hget
  split at h
  · cases h
  · next hsystem =>
    cases h
    exact .delete r hr (Bool.eq_false_iff.mpr hsystem)

theorem changed_of_setEnabled {enabled : Bool}
    (h : s.setEnabled now id enabled = .ok (stored, s')) :
    Changed now s (.setEnabled id enabled) s' := by
  obtain ⟨r, hget, h⟩ := Except.bind_eq_ok_iff.mp h
  cases h
  obtain ⟨hr, rfl⟩ := get_eq_ok_iff.mp hget
  exact .setEnabled r enabled hr

theorem changed_of_toggle (h : s.toggle now id = .ok (stored, s')) :
    Changed now s (.toggle id) s' := by
  obtain ⟨r, hget, h⟩ := Except.bind_eq_ok_iff.mp h
  rw [setEnabled, hget] at h
  cases h
  obtain ⟨hr, rfl⟩ := get_eq_ok_iff.mp hget
  exact .toggle r hr

theorem perm_of_reorder {ids : List String} (h : s.reorder now ids = .ok s') :
    ids.Perm (Rule.ids s.table.rules) ∧
      s' = { s with table := s.table.modify (placedIn now ids) } := by
  rw [Store.reorder] at h
  split at h
  · next hids =>
    cases h
    exact ⟨List.isPerm_iff.mp hids, rfl⟩
  · cases h

theorem changed_of_move {place : Int} (h : s.move now id place = .ok s') :
    Changed now s (.move id place) s' := by
  obtain ⟨r, hget, h⟩ := Except.bind_eq_ok_iff.mp h
  obtain ⟨hr, rfl⟩ := get_eq_ok_iff.mp hget
  obtain ⟨hids, rfl⟩ := perm_of_reorder h
  exact .move r place _ hr rfl hids

theorem changed_of_reload {text : String} (h : s.reload now = .ok (text, s')) :
    Changed now s .reload s' := by
  obtain ⟨hwritable, -, rfl⟩ := reload_eq_ok_iff.mp h
  exact .reload hwritable

theorem changed_of_change {c : Change} {reply : Reply} (h : s.change now c = .ok (reply, s')) :
    Changed now s c s' := by
  cases c with
  | update r =>
    rw [change, Except.map_eq_ok_iff] at h
    obtain ⟨result, hupdate, h⟩ := h
    cases h
    exact changed_of_update hupdate
  | delete id =>
    rw [change, Except.map_eq_ok_iff] at h
    obtain ⟨result, hdelete, h⟩ := h
    cases h
    exact changed_of_delete hdelete
  | setEnabled id enabled =>
    rw [change, Except.map_eq_ok_iff] at h
    obtain ⟨result, hset, h⟩ := h
    cases h
    exact changed_of_setEnabled hset
  | toggle id =>
    rw [change, Except.map_eq_ok_iff] at h
    obtain ⟨result, htoggle, h⟩ := h
    cases h
    exact changed_of_toggle htoggle
  | reorder ids =>
    rw [change, Except.map_eq_ok_iff] at h
    obtain ⟨result, hreorder, h⟩ := h
    cases h
    obtain ⟨hids, rfl⟩ := perm_of_reorder hreorder
    exact .reorder ids hids
  | move id place =>
    rw [change, Except.map_eq_ok_iff] at h
    obtain ⟨result, hmove, h⟩ := h
    cases h
    exact changed_of_move hmove
  | reload =>
    rw [change, Except.map_eq_ok_iff] at h
    obtain ⟨result, hreload, h⟩ := h
    cases h
    exact changed_of_reload hreload
  | load payload =>
    rw [change, Except.map_eq_ok_iff] at h
    obtain ⟨loaded, hload, h⟩ := h
    cases h
    exact .load payload s' hload

/-- A change of the store is a step unless it reads a document from outside. -/
theorem step_of_change {c : Change} {reply : Reply} (h : s.change now c = .ok (reply, s')) :
    Step now s s' ∨ ∃ payload, c = .load payload ∧ ofDocument s.settings now payload = .ok s' := by
  cases changed_of_change h with
  | update current r hcurrent hid hcheck => exact .inl (.update current r hcurrent hid hcheck)
  | delete r hr hsystem => exact .inl (.delete r hr hsystem)
  | setEnabled r enabled hr => exact .inl (.setEnabled r enabled hr)
  | toggle r hr => exact .inl (.setEnabled r (!r.enabled) hr)
  | reorder ids hids => exact .inl (.reorder ids hids)
  | move r place ids hr hplace hids => exact .inl (.reorder ids hids)
  | reload hwritable => exact .inl (.reload hwritable)
  | load payload s' hload => exact .inr ⟨payload, rfl, hload⟩

end Store

/-! ## Operations that go on from step to step -/

/-- The second store is reached from the first one by steps at a moment. -/
def Store.Leads (now : Timestamp) : Store → Store → Prop := ReflTransGen (Store.Step now)

theorem Store.Leads.keeps {P : Store → Prop} {now : Timestamp} {s s' : Store} (h : s.Leads now s')
    (hstep : ∀ s s', P s → Store.Step now s s' → P s') (hs : P s) : P s' := by
  induction h with
  | refl => exact hs
  | tail _ hlast ih => exact hstep _ _ ih hlast

/-- What holds between the stores before and after adding a rule holds for all rules together. -/
theorem Registry.rel_seedFrom {R : Store → Store → Prop} {now : Timestamp} (hrefl : ∀ s, R s s)
    (htrans : ∀ {s₁ s₂ s₃}, R s₁ s₂ → R s₂ s₃ → R s₁ s₃)
    (hadd : ∀ (desk : Desk) (r : Rule), R desk.store (desk.add now r).2.store)
    (templates : List Template) (desk : Desk) :
    R desk.store (seedFrom now templates desk).2.store := by
  induction templates generalizing desk with
  | nil => exact hrefl desk.store
  | cons t rest ih =>
    rw [seedFrom]
    split
    · exact ih desk
    · have hfirst := hadd desk (t.rule now)
      generalize desk.add now (t.rule now) = added at hfirst ⊢
      obtain ⟨result, added⟩ := added
      cases result with
      | error e => exact hfirst
      | ok stored => exact htrans hfirst (ih added)

namespace Desk

variable (desk : Desk) (now : Timestamp)

@[simp] theorem store_identify (r : Rule) : (desk.identify r).2.store = desk.store := by
  rw [identify]
  split <;> rfl

section Adding

variable {desk now} {r : Rule}

theorem add_of_check_eq_error {e : Failure} (h : r.check desk.store.settings = .error e) :
    desk.add now r = (.error e, desk) := by
  rw [add, h]

theorem add_of_mem (hcheck : r.problems desk.store.settings = .ok [])
    (hmem : (desk.identify r).1 ∈ Rule.ids desk.store.table.rules) :
    desk.add now r = (.error (.duplicateRule (desk.identify r).1), (desk.identify r).2) := by
  have htaken : desk.store.contains (desk.identify r).1 = true := Rule.Table.contains_iff.mpr hmem
  rw [add, Rule.check_eq_ok_iff.mpr hcheck]
  dsimp only
  rw [store_identify, Store.insert, if_pos htaken]

/-- The rule as a desk stores it. -/
def storedAs (desk : Desk) (now : Timestamp) (r : Rule) : Rule :=
  { r with
    id := (desk.identify r).1
    sequence := desk.store.nextSequence
    createdAt := now
    updatedAt := now }

theorem add_of_notMem (hcheck : r.problems desk.store.settings = .ok [])
    (hnew : (desk.identify r).1 ∉ Rule.ids desk.store.table.rules) :
    desk.add now r = (.ok (desk.storedAs now r), { (desk.identify r).2 with
      store := { desk.store with
        table := desk.store.table.put (desk.storedAs now r)
        nextSequence := desk.store.nextSequence + 1 } }) := by
  have hfree : ¬ desk.store.contains (desk.identify r).1 = true := fun htaken ↦
    hnew (Rule.Table.contains_iff.mp htaken)
  rw [add, Rule.check_eq_ok_iff.mpr hcheck]
  dsimp only
  rw [store_identify, Store.insert, if_neg hfree]
  rfl

/-- A rule is stored, or it is refused and the store stays as it is. -/
theorem add_cases (desk : Desk) (now : Timestamp) (r : Rule) :
    (r.problems desk.store.settings = .ok [] ∧
      (desk.identify r).1 ∉ Rule.ids desk.store.table.rules ∧
      desk.add now r = (.ok (desk.storedAs now r), { (desk.identify r).2 with
        store := { desk.store with
          table := desk.store.table.put (desk.storedAs now r)
          nextSequence := desk.store.nextSequence + 1 } })) ∨
    ((r.problems desk.store.settings ≠ .ok [] ∨
      (desk.identify r).1 ∈ Rule.ids desk.store.table.rules) ∧
      ∃ e, (desk.add now r).1 = .error e ∧ (desk.add now r).2.store = desk.store) := by
  by_cases hcheck : r.problems desk.store.settings = .ok []
  · by_cases hmem : (desk.identify r).1 ∈ Rule.ids desk.store.table.rules
    · rw [add_of_mem hcheck hmem]
      exact .inr ⟨.inr hmem, _, rfl, desk.store_identify r⟩
    · exact .inl ⟨hcheck, hmem, add_of_notMem hcheck hmem⟩
  · cases h : r.check desk.store.settings with
    | error e =>
      rw [add_of_check_eq_error h]
      exact .inr ⟨.inl hcheck, e, rfl, rfl⟩
    | ok _ => exact absurd (Rule.check_eq_ok_iff.mp h) hcheck

end Adding

theorem leads_add (r : Rule) : desk.store.Leads now (desk.add now r).2.store := by
  rcases desk.add_cases now r with ⟨hcheck, hnew, hadd⟩ | ⟨-, e, -, hsame⟩
  · rw [hadd]
    exact .single (.insert _ r hcheck hnew)
  · rw [hsame]
    exact .refl

theorem leads_addAll (rules : List Rule) :
    desk.store.Leads now (desk.addAll now rules).2.store := by
  induction rules generalizing desk with
  | nil => exact .refl
  | cons r rest ih =>
    have hadd := desk.leads_add now r
    rw [addAll]
    generalize desk.add now r = added at hadd ⊢
    obtain ⟨result, added⟩ := added
    cases result with
    | error e => exact hadd
    | ok stored => exact hadd.trans (ih added)

theorem leads_startOver (rules : List Rule) :
    desk.store.Leads now (desk.startOver now rules).2.store := by
  have hempty : desk.store.Leads now (.empty desk.store.settings) := .single .startOver
  have hadd := leads_addAll { desk with store := .empty desk.store.settings } now rules
  rw [startOver]
  generalize ({ desk with store := .empty desk.store.settings } : Desk).addAll now rules = filled
    at hadd ⊢
  obtain ⟨result, filled⟩ := filled
  cases result with
  | error e => exact .refl
  | ok added => exact hempty.trans hadd

theorem leads_seedFrom (templates : List Template) :
    desk.store.Leads now (Registry.seedFrom now templates desk).2.store :=
  Registry.rel_seedFrom (fun _ ↦ .refl) .trans (fun desk r ↦ desk.leads_add now r) templates desk

end Desk

/-! ## Requests -/

/-- A request that brings in no document from outside. -/
def Request.IsOwn (q : Request) : Prop := ∀ payload, q ≠ .change (.load payload)

namespace Office

theorem store_runBatch (office : Office) (now : Timestamp) (rules : List Rule)
    (receipts : List Receipt) (occasion : Directive.Occasion) :
    (office.runBatch now rules receipts occasion).2.store = office.store := by
  rw [runBatch]
  dsimp only
  split <;> rfl

theorem leads_perform (office : Office) (now : Timestamp) (q : Request) :
    office.store.Leads now (office.perform now q).2.store ∨
      ∃ payload, q = .change (.load payload) ∧
        Store.ofDocument office.store.settings now payload =
          .ok (office.perform now q).2.store := by
  cases q with
  | ask q => exact .inl .refl
  | change c =>
    rw [perform]
    split
    · next reply store hchange =>
      rcases Store.step_of_change hchange with hstep | ⟨payload, rfl, hload⟩
      · exact .inl (.single hstep)
      · exact .inr ⟨payload, rfl, hload⟩
    · exact .inl .refl
  | add r => exact .inl (office.desk.leads_add now r)
  | startOver rules => exact .inl (office.desk.leads_startOver now rules)
  | seed g => exact .inl (office.desk.leads_seedFrom now g.templates)
  | classify receipt occasion => exact .inl .refl
  | keep => exact .inl .refl
  | run receipts occasion =>
    rw [perform]
    split
    · exact .inl .refl
    · rw [store_runBatch]
      exact .inl .refl

theorem store_perform_reload {office : Office} (now : Timestamp)
    (h : office.store.isWritable = true) :
    (office.perform now (.change .reload)).2.store = office.store.copy := by
  have hreload : office.store.reload now = .ok (office.store.saved, office.store.copy) :=
    Store.reload_eq_ok_iff.mpr ⟨h, rfl, rfl⟩
  rw [perform, Store.change, hreload]
  rfl

theorem after_append (office : Office) (requests requests' : List (Timestamp × Request)) :
    office.after (requests ++ requests') = (office.after requests).after requests' := by
  induction requests generalizing office with
  | nil => rfl
  | cons entry rest ih => exact ih _

/-- What no step and no document of the requests breaks holds after the requests. -/
theorem store_after {P : Store → Prop} {office : Office} {requests : List (Timestamp × Request)}
    (hstep : ∀ now s s', P s → Store.Step now s s' → P s')
    (hload : ∀ now payload s s', (now, Request.change (.load payload)) ∈ requests → P s →
      Store.ofDocument s.settings now payload = .ok s' → P s')
    (h : P office.store) : P (office.after requests).store := by
  induction requests generalizing office with
  | nil => exact h
  | cons entry rest ih =>
    obtain ⟨now, q⟩ := entry
    apply ih
    · exact fun now payload s s' hmem ↦ hload now payload s s' (List.mem_cons_of_mem _ hmem)
    · rcases office.leads_perform now q with hleads | ⟨payload, rfl, hread⟩
      · exact hleads.keeps (hstep now) h
      · exact hload now payload _ _ List.mem_cons_self h hread

theorem store_after_of_isOwn {P : Store → Prop} {office : Office}
    {requests : List (Timestamp × Request)} (hown : ∀ entry ∈ requests, entry.2.IsOwn)
    (hstep : ∀ now s s', P s → Store.Step now s s' → P s') (h : P office.store) :
    P (office.after requests).store :=
  store_after hstep (fun _ payload _ _ hmem ↦ absurd rfl (hown _ hmem payload)) h

end Office

end ReceiptRules
