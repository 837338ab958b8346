import ReceiptRules.Proofs.Store.Frame

/-!
# Lists of rules that classify alike

Of a list of rules a classification takes the enabled ones, in evaluation order, and nothing else. So
it makes no difference whether it is given all rules or the enabled ones, as they come or in order,
or the snapshot of a batch, and a rule that is switched off counts as little as one that is not
there. Rules that tie are tried as they stand in the list, so the order of a list can be changed at
will only where no two enabled rules tie.
-/

namespace ReceiptRules

open ArchiveNumber

namespace Engine

variable {rules rules' rules'' : List Rule}

/-- Whatever is classified, both lists give the same result and leave the same counters. -/
def Interchangeable (rules rules' : List Rule) : Prop :=
  ∀ (settings : Settings) (occasion : Directive.Occasion) (receipt : Receipt)
    (counters : Option Counters),
    classify settings occasion rules receipt counters =
      classify settings occasion rules' receipt counters

theorem Interchangeable.symm (h : Interchangeable rules rules') : Interchangeable rules' rules :=
  fun settings occasion receipt counters ↦ (h settings occasion receipt counters).symm

theorem Interchangeable.trans (h : Interchangeable rules rules')
    (h' : Interchangeable rules' rules'') : Interchangeable rules rules'' :=
  fun settings occasion receipt counters ↦
    (h settings occasion receipt counters).trans (h' settings occasion receipt counters)

/-- The rules that a classification by a list tries, in the order of their turns. -/
def turns (rules : List Rule) : List Rule := Rule.ordered (rules.filter fun r ↦ r.enabled)

theorem interchangeable_of_turns (h : turns rules = turns rules') :
    Interchangeable rules rules' := by
  intro settings occasion receipt counters
  have hresolve : Rule.resolve settings receipt rules = Rule.resolve settings receipt rules' :=
    congrArg (Rule.firstMatch settings receipt) h
  rw [classify, classify, hresolve]

theorem turns_ordered (rules : List Rule) : turns (Rule.ordered rules) = turns rules := by
  rw [turns, Rule.filter_ordered, Rule.ordered_ordered, turns]

theorem turns_filter (rules : List Rule) :
    turns (rules.filter fun r ↦ r.enabled) = turns rules := by
  rw [turns, List.filter_filter]
  simp only [Bool.and_self, turns]

theorem turns_of_perm (hperm : rules.Perm rules')
    (huntied : (rules.filter fun r ↦ r.enabled).Pairwise fun a b ↦ ¬ a.TiesWith b) :
    turns rules = turns rules' :=
  Rule.ordered_eq_of_perm_of_untied (hperm.filter _) huntied

theorem turns_switchedOff (front back : List Rule) {r : Rule} (h : r.enabled = false) :
    turns (front ++ r :: back) = turns (front ++ back) := by
  simp only [turns, List.filter_append, List.filter_cons, h, Bool.false_eq_true, if_false]

/-- The lists that classify like a given one. -/
structure Agreement (rules : List Rule) : Prop where
  inOrder : Interchangeable rules (Rule.ordered rules)
  enabled : Interchangeable rules (rules.filter fun r ↦ r.enabled)
  snapshot : Interchangeable rules (Batch.snapshot rules)
  permuted : ∀ rules', rules.Perm rules' →
    ((rules.filter fun r ↦ r.enabled).Pairwise fun a b ↦ ¬ a.TiesWith b) →
    Interchangeable rules rules'
  switchedOff : ∀ front r back, rules = front ++ r :: back →
    Interchangeable (front ++ { r with enabled := false } :: back) (front ++ back)

theorem agreement (rules : List Rule) : Agreement rules where
  inOrder := interchangeable_of_turns (turns_ordered rules).symm
  enabled := interchangeable_of_turns (turns_filter rules).symm
  snapshot := interchangeable_of_turns (turns_filter rules).symm
  permuted _ hperm huntied := interchangeable_of_turns (turns_of_perm hperm huntied)
  switchedOff front _ back _ := interchangeable_of_turns (turns_switchedOff front back rfl)

end Engine

/-! ## Stores -/

namespace Store

open Engine

variable {s s' : Store} {now : Timestamp} {id : String}

/-- Where no enabled rule has the identifier, the other rules of the store classify alike. -/
theorem interchangeable_others (h : ∀ r ∈ s.rules, r.id = id → r.enabled = false) :
    Interchangeable s.rules (s.others id) := by
  apply interchangeable_of_turns
  rw [turns, turns, others, List.filter_filter]
  congr 1
  apply List.filter_congr
  intro r hr
  by_cases hid : r.id = id
  · rw [h r hr hid, Bool.false_and]
  · simp [hid]

theorem exists_setEnabled (now : Timestamp) (enabled : Bool) (h : id ∈ Rule.ids s.rules) :
    ∃ r s', s.setEnabled now id enabled = .ok (r, s') := by
  obtain ⟨r, hr, rfl⟩ := List.mem_map.mp h
  have hget : s.get r.id = .ok r := get_eq_ok_iff.mpr ⟨mem_rules.mp hr, rfl⟩
  rw [setEnabled, hget]
  exact ⟨_, _, rfl⟩

/-- A rule that has been switched off leaves the classification to the others. -/
theorem interchangeable_of_setEnabled {r : Rule} (h : s.setEnabled now id false = .ok (r, s')) :
    Interchangeable s'.rules (s.others id) := by
  have hchange : s.change now (.setEnabled id false) = .ok (.rule r, s') := by
    rw [change, h]
    rfl
  rw [← others_of_change rfl hchange]
  apply interchangeable_others
  intro x hx hid
  cases changed_of_setEnabled h with
  | setEnabled current enabled hcurrent =>
    rcases Rule.Table.mem_put.mp (mem_rules.mp hx) with rfl | ⟨-, hne⟩
    · rfl
    · exact absurd hid hne

/-- A rule that has been removed leaves the classification to the others. -/
theorem interchangeable_of_delete (now : Timestamp) (h : s.delete id = .ok s') :
    Interchangeable s'.rules (s.others id) := by
  have hchange : s.change now (.delete id) = .ok (.done, s') := by
    rw [change, h]
    rfl
  rw [← others_of_change rfl hchange]
  apply interchangeable_others
  intro x hx hid
  have hchanged : Changed now s (.delete id) s' := changed_of_delete h
  cases hchanged with
  | delete r hr hsystem => exact absurd hid (Rule.Table.mem_erase.mp (mem_rules.mp hx)).2

/-- The lists that classify like the rules of a store, and what switching a rule off comes to. -/
structure Agreement (s : Store) : Prop where
  enabledRules : Interchangeable s.rules s.enabledRules
  snapshot : Interchangeable s.rules (Batch.snapshot s.rules)
  snapshotOfEnabled : Interchangeable s.rules (Batch.snapshot s.enabledRules)
  switchedOff : ∀ now id, id ∈ Rule.ids s.rules → ∃ r s', s.setEnabled now id false = .ok (r, s') ∧
    Interchangeable s'.rules (s.others id) ∧
    ∀ s'', s.delete id = .ok s'' → Interchangeable s'.rules s''.rules

theorem agreement (s : Store) : s.Agreement where
  enabledRules := (Engine.agreement s.rules).enabled
  snapshot := (Engine.agreement s.rules).snapshot
  snapshotOfEnabled :=
    (Engine.agreement s.rules).enabled.trans (Engine.agreement s.enabledRules).snapshot
  switchedOff now id hid := by
    obtain ⟨r, s', hset⟩ := exists_setEnabled now false hid
    have hoff := interchangeable_of_setEnabled hset
    refine ⟨r, s', hset, hoff, fun s'' hdelete ↦ ?_⟩
    exact hoff.trans (interchangeable_of_delete now hdelete).symm

end Store

namespace Engine

/-- A receipt is classified alike by all rules, by the enabled ones, by either of them in evaluation
order or as a batch keeps them, and in any order of the list as long as no two enabled rules tie.
Switching a rule off comes to the same as removing it. In particular it makes no difference how a
classification is given the rules of a store, whatever has happened to the store. -/
theorem entryPoints_agree :
    (∀ rules, Agreement rules) ∧
      ∀ (settings : Settings) (counters : Option Counters) (requests : List (Timestamp × Request)),
        ((Office.start settings counters).after requests).store.Agreement :=
  ⟨agreement, fun settings counters requests ↦
    ((Office.start settings counters).after requests).store.agreement⟩

/-- Four rules on rides, the second of which is off and ties with the last. -/
def rankedRides : List Rule := [
  Rule.remarksRule "LATE" true 1 2 ["taxi"], Rule.remarksRule "OFF" false 3 0 ["taxi"],
  Rule.remarksRule "FIRST" true 1 1 ["taxi"], Rule.remarksRule "BUS" true 3 0 ["bus"]]

/-- In the opposite order the rules give the same outcome, and a store whose only rule is switched off
classifies as if it had none. -/
theorem entryPoints_agree_rides :
    (rankedRides.Perm rankedRides.reverse ∧
      ((rankedRides.filter fun r ↦ r.enabled).Pairwise fun a b ↦ ¬ a.TiesWith b) ∧
      Interchangeable rankedRides rankedRides.reverse ∧
      ∃ o, (classify {} ⟨none, Store.newYear.date⟩ rankedRides.reverse Store.rideReceipt none).1 =
          .ok o ∧
        o.ruleId = some "FIRST") ∧
    let s := ((Office.start {} none).after Store.storingTaxi).store
    "TAXI" ∈ Rule.ids s.rules ∧ ∃ r s' s'', s.setEnabled Store.newYear "TAXI" false = .ok (r, s') ∧
      s.delete "TAXI" = .ok s'' ∧ s''.rules = [] ∧ Interchangeable s'.rules s''.rules := by
  have huntied : (rankedRides.filter fun r ↦ r.enabled).Pairwise fun a b ↦ ¬ a.TiesWith b := by
    decide
  have hperm : rankedRides.Perm rankedRides.reverse := (List.reverse_perm _).symm
  have hreversed := (entryPoints_agree.1 rankedRides).permuted _ hperm huntied
  have hstore := entryPoints_agree.2 {} none Store.storingTaxi
  rw [Store.store_after_storingTaxi] at hstore ⊢
  have htaxi : "TAXI" ∈ Rule.ids Store.taxiStore.copy.rules := List.mem_singleton.mpr rfl
  have hdelete : Store.taxiStore.copy.delete "TAXI" =
      .ok { Store.taxiStore.copy with table := Store.taxiStore.copy.table.erase "TAXI" } := rfl
  obtain ⟨r, s', hset, -, hremoved⟩ := hstore.switchedOff Store.newYear "TAXI" htaxi
  refine ⟨⟨hperm, huntied, hreversed, ?_⟩, htaxi, r, s', _, hset, hdelete, rfl, hremoved _ hdelete⟩
  rw [← hreversed]
  exact ⟨_, rfl, rfl⟩

end Engine

end ReceiptRules
