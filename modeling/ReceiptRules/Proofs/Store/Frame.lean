import ReceiptRules.Proofs.Store.Validated

/-!
# What a change of one rule leaves alone

A rule that is added takes its place in the evaluation order behind all rules of its priority, since
its sequence is ahead of theirs, and no other rule moves. A change that is about one rule leaves all
others as they are and in the order in which they were. A new order of all rules is not among these
changes, and neither is a document that takes the place of the store.
-/

namespace ReceiptRules

/-- The rule comes in behind the rules of at least its priority and in front of all others. -/
def Rule.TakesPlace (r : Rule) (before after : List Rule) : Prop :=
  ∃ upper lower, before = upper ++ lower ∧ after = upper ++ r :: lower ∧
    (∀ x ∈ upper, r.priority ≤ x.priority) ∧ ∀ x ∈ lower, x.priority < r.priority

/-- The rule that a change is about, where it is about a single one. -/
def Change.subject? : Change → Option String
  | .update r => some r.id
  | .delete id | .setEnabled id _ | .toggle id => some id
  | .reorder _ | .move _ _ | .reload | .load _ => none

namespace Store

variable {s s' : Store} {now : Timestamp} {id : String} {r : Rule}

/-! ## All rules but one -/

/-- All rules but one, in evaluation order. -/
def others (s : Store) (id : String) : List Rule := s.rules.filter fun r ↦ r.id != id

theorem others_eq_ordered (s : Store) (id : String) :
    s.others id = Rule.ordered (s.table.rules.filter fun r ↦ r.id != id) :=
  Rule.filter_ordered _ s.table.rules

theorem others_of_put (h : s'.table = s.table.put r) (hid : r.id = id) :
    s'.others id = s.others id := by
  subst hid
  have hsame : (s.table.put r).rules.filter (fun x ↦ x.id != r.id) =
      s.table.rules.filter fun x ↦ x.id != r.id := Rule.filter_replaceIn r s.table.rules
  rw [others_eq_ordered, others_eq_ordered, h, hsame]

theorem others_of_erase (h : s'.table = s.table.erase id) : s'.others id = s.others id := by
  rw [others_eq_ordered, others_eq_ordered, h, Rule.Table.erase]
  simp only [List.filter_filter, Bool.and_self]

theorem others_of_notMem (h : id ∉ Rule.ids s.table.rules) : s.others id = s.rules := by
  rw [others_eq_ordered, Rule.filter_of_notMem h]
  rfl

/-- A rule in its place, with all others around it. -/
theorem exists_others_eq_append (h : r ∈ s.rules) :
    ∃ upper lower, s.rules = upper ++ r :: lower ∧ s.others r.id = upper ++ lower := by
  obtain ⟨upper, lower, hrules⟩ := List.append_of_mem h
  have hdistinct : (Rule.ids upper ++ r.id :: Rule.ids lower).Nodup := by
    have hnodup := s.nodup_ids_rules
    rw [hrules] at hnodup
    simpa [Rule.ids] using hnodup
  obtain ⟨-, hlower, hapart⟩ := List.nodup_append.mp hdistinct
  have hupper : r.id ∉ Rule.ids upper := fun hmem ↦ hapart _ hmem _ List.mem_cons_self rfl
  refine ⟨upper, lower, hrules, ?_⟩
  rw [others, hrules, List.filter_append, List.filter_cons_of_neg (by simp),
    Rule.filter_of_notMem hupper, Rule.filter_of_notMem (List.nodup_cons.mp hlower).1]

/-! ## Adding a rule -/

/-- A rule whose sequence is ahead of all others comes behind the rules of its priority. -/
theorem takesPlace_of_put (hahead : s.IsAhead) (hnew : r.id ∉ Rule.ids s.table.rules)
    (hsequence : r.sequence = s.nextSequence) (htable : s'.table = s.table.put r) :
    r.TakesPlace s.rules s'.rules := by
  have hmem : r ∈ s'.rules := by
    rw [mem_rules, htable]
    exact Rule.Table.mem_put.mpr (.inl rfl)
  obtain ⟨upper, lower, hrules, hothers⟩ := exists_others_eq_append hmem
  rw [others_of_put htable rfl, others_of_notMem hnew] at hothers
  have hsorted : Rule.Sorted (upper ++ r :: lower) := hrules ▸ Rule.sorted_ordered s'.table.rules
  obtain ⟨-, hbehind, hfront⟩ := List.pairwise_append.mp hsorted
  refine ⟨upper, lower, hothers, hrules, ?_, ?_⟩
  · intro x hx
    rcases Rule.mayPrecede_iff.mp (hfront x hx r List.mem_cons_self) with hlt | ⟨heq, -⟩
    · exact Int.le_of_lt hlt
    · exact Int.le_of_eq heq.symm
  · intro x hx
    have hold : x ∈ s.table.rules := by
      rw [← mem_rules, hothers]
      exact List.mem_append_right upper hx
    rcases Rule.mayPrecede_iff.mp (List.rel_of_pairwise_cons hbehind hx) with hlt | ⟨-, hle⟩
    · exact hlt
    · -- No rule of the same priority is behind, its sequence would have to be as high.
      exact absurd (hahead x hold) (Int.not_lt.mpr (hsequence ▸ hle))

theorem takesPlace_of_add {desk desk' : Desk} {stored : Rule} (hahead : desk.store.IsAhead)
    (h : desk.add now r = (.ok stored, desk')) :
    stored = desk.storedAs now r ∧ stored.TakesPlace desk.store.rules desk'.store.rules := by
  rcases desk.add_cases now r with ⟨-, hnew, hadd⟩ | ⟨-, e, herror, -⟩
  · rw [hadd] at h
    cases h
    exact ⟨rfl, takesPlace_of_put hahead hnew rfl rfl⟩
  · rw [h] at herror
    cases herror

/-! ## Changing a rule -/

theorem others_of_change {c : Change} {reply : Reply} (hsubject : c.subject? = some id)
    (h : s.change now c = .ok (reply, s')) : s'.others id = s.others id := by
  cases changed_of_change h with
  | update current r hcurrent hid hcheck =>
    cases hsubject
    exact others_of_put rfl rfl
  | delete r hr hsystem =>
    cases hsubject
    exact others_of_erase rfl
  | setEnabled r enabled hr =>
    cases hsubject
    exact others_of_put rfl rfl
  | toggle r hr =>
    cases hsubject
    exact others_of_put rfl rfl
  | reorder ids hids => cases hsubject
  | move r place ids hr hplace hids => cases hsubject
  | reload hwritable => cases hsubject
  | load payload s' hload => cases hsubject

/-- Whatever has happened to a store, documents from outside included, rules are found under their
own identifiers and the next sequence number is ahead of all of them. So a rule that is added comes
in behind all rules of at least its priority and in front of the others, none of which changes or
moves, and a change of one rule neither changes nor moves any other. -/
theorem local_after (settings : Settings) (counters : Option ArchiveNumber.Counters)
    (requests : List (Timestamp × Request)) :
    let desk := ((Office.start settings counters).after requests).desk
    (∀ id r, desk.store.get id = .ok r ↔ r ∈ desk.store.rules ∧ r.id = id) ∧
    desk.store.IsAhead ∧
    (∀ now r stored desk', desk.add now r = (.ok stored, desk') →
      stored = desk.storedAs now r ∧ stored.TakesPlace desk.store.rules desk'.store.rules) ∧
    ∀ now c id reply s', c.subject? = some id → desk.store.change now c = .ok (reply, s') →
      s'.others id = desk.store.others id := by
  intro desk
  have hahead : desk.store.IsAhead := isAhead_after settings counters requests
  clear_value desk
  refine ⟨fun id r ↦ ?_, hahead, ?_, ?_⟩
  · rw [get_eq_ok_iff, mem_rules]
  · exact fun now r stored desk' h ↦ takesPlace_of_add hahead h
  · exact fun now c id reply s' hsubject h ↦ others_of_change hsubject h

/-- Rules from outside: the first two tie, and the last one has a lower priority. -/
def rankedRules : List Rule := [
  { earlyRule with id := "LOW", priority := -1, sequence := 1 },
  { earlyRule with id := "FIRST", sequence := 5 }, { earlyRule with id := "SECOND", sequence := 5 }]

/-- Reads these rules with a next sequence number that is behind theirs. -/
def loadingRanked : List (Timestamp × Request) := [
  (newYear, .change (.load (.object [
    ("rules", .list (rankedRules.map Rule.toDocument)), ("next_sequence", .int 2)])))]

theorem desk_after_loadingRanked :
    ((Office.start {} none).after loadingRanked).desk = ⟨⟨{}, .ofRules rankedRules, 6⟩, 0⟩ := by
  have hload : ofDocument {} newYear (.object [
      ("rules", .list (rankedRules.map Rule.toDocument)), ("next_sequence", .int 2)]) =
        .ok ⟨{}, .ofRules rankedRules, 6⟩ :=
    @ofDocument_of_parts _ (.int 2) rankedRules 2 {} newYear rfl rfl rfl
  simp only [loadingRanked, Office.after, Office.perform, change, Office.start, Office.store, empty,
    hload, Except.map, Office.withStore]

theorem local_after_loadingRanked :
    let desk := ((Office.start {} none).after loadingRanked).desk
    let added := { taxiRule with sequence := 6 }
    (∃ desk', desk.add newYear taxiRule = (.ok added, desk') ∧
      Rule.ids desk.store.rules = ["FIRST", "SECOND", "LOW"] ∧
      Rule.ids desk'.store.rules = ["FIRST", "SECOND", "TAXI", "LOW"] ∧
      added.TakesPlace desk.store.rules desk'.store.rules) ∧
    ∃ reply s', desk.store.change newYear (.delete "FIRST") = .ok (reply, s') ∧
      Rule.ids s'.rules = ["SECOND", "LOW"] ∧ s'.others "FIRST" = desk.store.others "FIRST" := by
  have h := local_after {} none loadingRanked
  rw [desk_after_loadingRanked] at h ⊢
  obtain ⟨-, -, hadd, hchange⟩ := h
  have hadded : Desk.add ⟨⟨{}, .ofRules rankedRules, 6⟩, 0⟩ newYear taxiRule =
      (.ok { taxiRule with sequence := 6 },
        ⟨⟨{}, .ofRules (rankedRules ++ [{ taxiRule with sequence := 6 }]), 7⟩, 0⟩) := rfl
  have hdeleted : change ⟨{}, .ofRules rankedRules, 6⟩ newYear (.delete "FIRST") =
      .ok (.done, ⟨{}, (Rule.Table.ofRules rankedRules).erase "FIRST", 6⟩) := rfl
  exact ⟨⟨_, hadded, rfl, rfl, (hadd _ _ _ _ hadded).2⟩,
    _, _, hdeleted, rfl, hchange _ _ _ _ _ rfl hdeleted⟩

end Store

end ReceiptRules
