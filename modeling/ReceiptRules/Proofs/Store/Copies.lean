import ReceiptRules.Proofs.Store.Twins

/-!
# A reloaded store behaves like the store that was saved

An office that goes on with the store that it has read back gives the same answers as one that goes
on with the store that it has saved, whatever is asked of the two, and lists the same rules in the
same order after each request. Their desks draw the same identifiers and their counters give the
same numbers, and that their stores may differ in the order in which rules are kept never shows.
-/

namespace ReceiptRules

open ArchiveNumber

/-! ## Desks -/

/-- Desks that have drawn equally many identifiers and hold stores that are alike. -/
structure Desk.Alike (d e : Desk) : Prop where
  drawn : d.drawn = e.drawn
  store : d.store.Alike e.store

namespace Desk.Alike

variable {d e : Desk}

theorem identify (h : d.Alike e) (r : Rule) :
    (d.identify r).1 = (e.identify r).1 ∧ (d.identify r).2.Alike (e.identify r).2 := by
  rw [Desk.identify, Desk.identify, h.drawn]
  split
  · exact ⟨rfl, rfl, h.store⟩
  · exact ⟨rfl, h⟩

theorem add (h : d.Alike e) (now : Timestamp) (r : Rule) :
    (d.add now r).1 = (e.add now r).1 ∧ (d.add now r).2.Alike (e.add now r).2 := by
  rw [Desk.add, Desk.add, ← h.store.settings]
  cases hcheck : r.check d.store.settings with
  | error f => exact ⟨rfl, h⟩
  | ok _ =>
    obtain ⟨hid, hnext⟩ := h.identify r
    have hsame : (d.identify r).2.store = d.store := d.store_identify r
    generalize d.identify r = x at hid hnext hsame ⊢
    generalize e.identify r = y at hid hnext ⊢
    obtain ⟨id, d'⟩ := x
    obtain ⟨id', e'⟩ := y
    cases hid
    rw [← hsame] at hcheck
    have hinsert : Store.Agree (d'.store.insert now id r) (e'.store.insert now id r) :=
      hnext.store.insert (Rule.check_eq_ok_iff.mp hcheck)
    dsimp only
    generalize d'.store.insert now id r = x at hinsert ⊢
    generalize e'.store.insert now id r = y at hinsert ⊢
    cases hinsert with
    | error f => exact ⟨rfl, hnext⟩
    | ok stored halike => exact ⟨rfl, hnext.drawn, halike⟩

theorem seedFrom (h : d.Alike e) (now : Timestamp) (templates : List Template) :
    (Registry.seedFrom now templates d).1 = (Registry.seedFrom now templates e).1 ∧
      (Registry.seedFrom now templates d).2.Alike (Registry.seedFrom now templates e).2 := by
  induction templates generalizing d e with
  | nil => exact ⟨rfl, h⟩
  | cons t rest ih =>
    rw [Registry.seedFrom, Registry.seedFrom, ← h.store.contains]
    split
    · exact ih h
    · obtain ⟨hreply, hnext⟩ := h.add now (t.rule now)
      generalize d.add now (t.rule now) = x at hreply hnext ⊢
      generalize e.add now (t.rule now) = y at hreply hnext ⊢
      obtain ⟨reply, d'⟩ := x
      obtain ⟨reply', e'⟩ := y
      cases hreply
      cases reply with
      | error f => exact ⟨rfl, hnext⟩
      | ok stored =>
        obtain ⟨hothers, hlast⟩ := ih hnext
        exact ⟨by dsimp only; rw [hothers], hlast⟩

theorem startOver (h : d.Alike e) (now : Timestamp) (rules : List Rule) :
    (d.startOver now rules).1 = (e.startOver now rules).1 ∧
      (d.startOver now rules).2.Alike (e.startOver now rules).2 := by
  have hempty : ({ d with store := .empty d.store.settings } : Desk) =
      { e with store := .empty e.store.settings } := by
    rw [h.drawn, h.store.settings]
  rw [Desk.startOver, Desk.startOver, hempty]
  generalize ({ e with store := .empty e.store.settings } : Desk).addAll now rules = filled
  obtain ⟨result, filled⟩ := filled
  cases result with
  | error f => exact ⟨rfl, rfl, h.store⟩
  | ok added => exact ⟨rfl, rfl, .inl rfl⟩

end Desk.Alike

/-! ## Offices -/

/-- Offices that differ in the stores at most, and these are alike. -/
structure Office.Alike (a b : Office) : Prop where
  desk : a.desk.Alike b.desk
  counters : a.counters = b.counters
  kept : a.kept = b.kept

namespace Office.Alike

variable {a b : Office}

theorem runBatch (h : a.Alike b) (now : Timestamp) (rules : List Rule) (receipts : List Receipt)
    (occasion : Directive.Occasion) :
    (a.runBatch now rules receipts occasion).1 = (b.runBatch now rules receipts occasion).1 ∧
      (a.runBatch now rules receipts occasion).2.Alike
        (b.runBatch now rules receipts occasion).2 := by
  have hsettings : a.store.settings = b.store.settings := h.desk.store.settings
  rw [Office.runBatch, Office.runBatch, hsettings, h.counters, h.desk.drawn]
  dsimp only
  split
  · exact ⟨rfl, ⟨rfl, h.desk.store⟩, rfl, h.kept⟩
  · exact ⟨rfl, h.desk, rfl, h.kept⟩

theorem perform (h : a.Alike b) (now : Timestamp) (q : Request) :
    (a.perform now q).1 = (b.perform now q).1 ∧
      (a.perform now q).2.Alike (b.perform now q).2 := by
  cases q with
  | ask q => exact ⟨h.desk.store.ask q, h⟩
  | change c =>
    have hchange := h.desk.store.change now c
    rw [Office.perform, Office.perform, Office.store, Office.store]
    generalize a.desk.store.change now c = x at hchange ⊢
    generalize b.desk.store.change now c = y at hchange ⊢
    cases hchange with
    | error f => exact ⟨rfl, h⟩
    | ok reply halike => exact ⟨rfl, ⟨h.desk.drawn, halike⟩, h.counters, h.kept⟩
  | add r =>
    obtain ⟨hreply, hdesk⟩ := h.desk.add now r
    exact ⟨congrArg (Except.map Reply.rule) hreply, hdesk, h.counters, h.kept⟩
  | startOver rules =>
    obtain ⟨hreply, hdesk⟩ := h.desk.startOver now rules
    exact ⟨congrArg (Except.map fun _ ↦ Reply.done) hreply, hdesk, h.counters, h.kept⟩
  | seed g =>
    obtain ⟨hreply, hdesk⟩ := h.desk.seedFrom now g.templates
    exact ⟨congrArg (Except.map Reply.rules) hreply, hdesk, h.counters, h.kept⟩
  | classify receipt occasion =>
    have hsettings : a.store.settings = b.store.settings := h.desk.store.settings
    have hrules : a.store.enabledRules = b.store.enabledRules := h.desk.store.enabledRules
    rw [Office.perform, Office.perform, hsettings, hrules, h.counters]
    exact ⟨rfl, h.desk, rfl, h.kept⟩
  | keep =>
    have hrules : a.store.enabledRules = b.store.enabledRules := h.desk.store.enabledRules
    rw [Office.perform, Office.perform, hrules]
    exact ⟨rfl, h.desk, h.counters, rfl⟩
  | run receipts occasion =>
    rw [Office.perform, Office.perform, h.kept]
    split
    · exact ⟨rfl, h⟩
    · exact h.runBatch now _ receipts occasion

/-- Offices that are alike answer alike for good. -/
theorem trace (h : a.Alike b) (requests : List (Timestamp × Request)) :
    a.trace requests = b.trace requests := by
  induction requests generalizing a b with
  | nil => rfl
  | cons entry rest ih =>
    obtain ⟨now, q⟩ := entry
    obtain ⟨hreply, hnext⟩ := h.perform now q
    have hrules : (a.perform now q).2.store.rules = (b.perform now q).2.store.rules :=
      hnext.desk.store.rules
    rw [Office.trace, Office.trace]
    dsimp only
    rw [hreply, hrules, ih hnext]

end Office.Alike

/-- Going on with the store that is read back cannot be told from going on with the one that was
saved: the office has one or the other after requests that bring in no document from outside, and
answers alike to all requests to come. It can be saved if and only if all its numbers can be
written. -/
theorem Office.trace_reload (settings : Settings) (counters : Option Counters)
    (requests : List (Timestamp × Request)) (hown : ∀ entry ∈ requests, entry.2.IsOwn)
    (now : Timestamp) :
    let office := (Office.start settings counters).after requests
    ((∃ text copy, office.store.reload now = .ok (text, copy)) ↔
      office.store.isWritable = true) ∧
    ∀ text copy, office.store.reload now = .ok (text, copy) →
      ∀ later, office.trace later = (office.withStore copy).trace later := by
  intro office
  have hnumbered : office.store.IsNumbered := Store.isNumbered_after hown
  clear_value office
  constructor
  · constructor
    · rintro ⟨text, copy, hreload⟩
      exact (Store.reload_eq_ok_iff.mp hreload).1
    · intro hwritable
      exact ⟨_, _, Store.reload_eq_ok_iff.mpr ⟨hwritable, rfl, rfl⟩⟩
  · intro text copy hreload later
    obtain ⟨-, -, rfl⟩ := Store.reload_eq_ok_iff.mp hreload
    have halike : office.Alike (office.withStore office.store.copy) :=
      ⟨⟨rfl, .inr (Store.twin_copy hnumbered)⟩, rfl, rfl⟩
    exact halike.trace later

/-- A rule on remarks that files rides. -/
def rideRule (id : String) (priority : Int) : Rule where
  id := id
  name := id
  priority := priority
  conditions := [⟨.remarks, .contains, "ride", .and⟩]
  actions := [⟨.setProject, "rides"⟩]
  createdAt := Store.newYear
  updatedAt := Store.newYear

/-- The rule that is tried first is added last. -/
def addingRides : List (Timestamp × Request) :=
  [(Store.newYear, .add (rideRule "LOW" 0)), (Store.newYear, .add (rideRule "HIGH" 1))]

theorem Office.trace_reload_rides :
    let office := (Office.start {} none).after addingRides
    Rule.ids office.store.table.rules = ["LOW", "HIGH"] ∧
      ∃ text copy, office.store.reload Store.newYear = .ok (text, copy) ∧
        Rule.ids copy.table.rules = ["HIGH", "LOW"] ∧
        ∀ later, office.trace later = (office.withStore copy).trace later := by
  have hown : ∀ entry ∈ addingRides, entry.2.IsOwn := by
    intro entry hentry payload
    simp only [addingRides, List.mem_cons, List.not_mem_nil, or_false] at hentry
    rcases hentry with rfl | rfl
    · exact nofun
    · exact nofun
  obtain ⟨hsaves, hsame⟩ := Office.trace_reload {} none addingRides hown Store.newYear
  have hrules : ((Office.start {} none).after addingRides).store.table.rules =
      [{ rideRule "LOW" 0 with sequence := 1 }, { rideRule "HIGH" 1 with sequence := 2 }] := rfl
  have hnext : ((Office.start {} none).after addingRides).store.nextSequence = 3 := rfl
  generalize (Office.start {} none).after addingRides = office at *
  have hwritable : office.store.isWritable = true := by
    have hsmall : ∀ n : Int, n.natAbs ≤ 100 → Text.WholeNumber.writable n = true := fun n hn ↦
      Text.WholeNumber.writable_of_le hn
    rw [Store.isWritable_iff, hrules, hnext, List.forall_mem_cons, List.forall_mem_singleton]
    exact ⟨hsmall _ (by decide), ⟨hsmall _ (by decide), hsmall _ (by decide)⟩,
      hsmall _ (by decide), hsmall _ (by decide)⟩
  obtain ⟨text, copy, hreload⟩ := hsaves.mpr hwritable
  obtain ⟨-, -, hcopy⟩ := Store.reload_eq_ok_iff.mp hreload
  refine ⟨by rw [hrules]; rfl, text, copy, hreload, ?_, hsame text copy hreload⟩
  calc Rule.ids copy.table.rules = Rule.ids (Rule.ordered office.store.table.rules) := by
        rw [hcopy]
        rfl
    _ = ["HIGH", "LOW"] := by
        rw [hrules]
        rfl

end ReceiptRules
