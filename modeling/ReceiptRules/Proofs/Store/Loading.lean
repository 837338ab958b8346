import ReceiptRules.Proofs.Store.Reloading

/-!
# Which rules of a document a store holds

A document lists rules one after the other, and nothing says that their identifiers differ; an
identifier that is left out is the empty text. The store that is read has one rule for each
identifier, the last one that is listed with it. So no rule is lost if and only if the identifiers
differ.
-/

namespace ReceiptRules.Store

variable {settings : Settings} {now : Timestamp} {payload : Value} {s : Store}

/-- The rules are those that the entries of a document are read as, in the same order. -/
def Lists (now : Timestamp) (v : Value) (entries : List Value) (rules : List Rule) : Prop :=
  listedEntries v = .ok entries ∧
    List.Forall₂ (fun entry r ↦ Rule.ofDocument now entry = .ok r) entries rules

theorem length_rules (s : Store) : s.rules.length = (Rule.ids s.table.rules).length := by
  rw [Rule.ids, List.length_map]
  exact (Rule.ordered_perm s.table.rules).length_eq

/-- A list is as long as it is without repetitions only if it has none. -/
theorem length_dedup_eq_iff {ids : List String} : ids.dedup.length = ids.length ↔ ids.Nodup := by
  rw [← List.dedup_eq_self]
  exact ⟨(List.dedup_sublist ids).eq_of_length, congrArg List.length⟩

/-- The store that is read from a document holds the last rule of each identifier and no other one.
It has as many rules as the document has entries, and each of them, if and only if no two entries
have the same identifier. -/
theorem loses_none_iff (h : ofDocument settings now payload = .ok s) :
    ∃ entries rules, Lists now payload entries rules ∧
      (∀ r, r ∈ s.rules ↔ Rule.IsLatest rules r) ∧
      s.rules.length = (Rule.ids rules).dedup.length ∧
      (s.rules.length = entries.length ∧ (∀ r ∈ rules, r ∈ s.rules) ↔ (Rule.ids rules).Nodup) := by
  obtain ⟨entries, rules, next, hlisted, hrules, hs⟩ := exists_of_ofDocument h
  have hlists : Lists now payload entries rules := ⟨hlisted, Except.mapM_eq_ok_iff.mp hrules⟩
  have htable : s.table = .ofRules rules := congrArg Store.table hs
  have hmem : ∀ r, r ∈ s.rules ↔ Rule.IsLatest rules r := by
    intro r
    rw [mem_rules, htable, Rule.Table.mem_ofRules]
  have hlength : s.rules.length = (Rule.ids rules).dedup.length := by
    rw [length_rules, htable]
    exact (Rule.Table.ids_ofRules_perm rules).length_eq
  have hentries : entries.length = (Rule.ids rules).length := by
    rw [hlists.2.length_eq, Rule.ids, List.length_map]
  refine ⟨entries, rules, hlists, hmem, hlength, ?_⟩
  rw [hlength, hentries, length_dedup_eq_iff]
  refine and_iff_left_of_imp fun hdistinct r hr ↦ ?_
  -- Rules with distinct identifiers are the rules of their table.
  rw [mem_rules, htable, Rule.Table.rules_ofRules hdistinct]
  exact hr

/-! ## Rules that are lost -/

/-- A document of rules that state their identifier, if any, their name and their sequence. -/
def namedRules (rules : List (Option String × String × Int)) : Value := .object [
  ("rules", .list (rules.map fun (id, name, sequence) ↦ .object
    ((id.map fun id ↦ ("id", .text id)).toList ++
      [("name", .text name), ("sequence", .int sequence)])))]

/-- The rule that such an entry is read as. -/
def namedRule (id name : String) (sequence : Int) : Rule where
  id := id
  name := name
  sequence := sequence
  createdAt := newYear
  updatedAt := newYear

/-- The second rule comes again under its identifier, with another name. -/
def repeated : Value := namedRules [(some "a", "x", 1), (some "b", "y", 2), (some "b", "z", 3)]

theorem loses_none_iff_repeated : ∃ s, ofDocument {} newYear repeated = .ok s ∧
    s.rules = [namedRule "a" "x" 1, namedRule "b" "z" 3] ∧
    ∃ entries rules, Lists newYear repeated entries rules ∧
      (∀ r, r ∈ s.rules ↔ Rule.IsLatest rules r) ∧
      s.rules.length = (Rule.ids rules).dedup.length ∧
      (s.rules.length = entries.length ∧ (∀ r ∈ rules, r ∈ s.rules) ↔
        (Rule.ids rules).Nodup) := by
  have hread : ofDocument {} newYear repeated = .ok ⟨{}, .ofRules [namedRule "a" "x" 1,
      namedRule "b" "y" 2, namedRule "b" "z" 3], 4⟩ := rfl
  exact ⟨_, hread, rfl, loses_none_iff hread⟩

/-- Of two rules without an identifier only the second one is in the store. -/
theorem nameless_lost : ∃ s entries rules,
    ofDocument {} newYear (namedRules [(none, "x", 1), (none, "y", 2)]) = .ok s ∧
    Lists newYear (namedRules [(none, "x", 1), (none, "y", 2)]) entries rules ∧
    rules = [namedRule "" "x" 1, namedRule "" "y" 2] ∧ s.rules = [namedRule "" "y" 2] ∧
    s.rules.length ≠ entries.length ∧ namedRule "" "x" 1 ∉ s.rules := by
  refine ⟨⟨{}, .ofRules [namedRule "" "x" 1, namedRule "" "y" 2], 3⟩, _, _, rfl,
    ⟨rfl, Except.mapM_eq_ok_iff.mp rfl⟩, rfl, rfl, by decide, by decide⟩

end ReceiptRules.Store
