import Mathlib.Data.List.Forall2
import ReceiptRules.Proofs.Condition.Notes
import ReceiptRules.Proofs.Rule.EvaluationOrder
import ReceiptRules.Rule.Resolve

/-!
# Which rule applies, and what is noted on the way

Resolving finds the first enabled, well-formed rule in evaluation order whose conditions combine to
true, and none only if there is no such rule. The notes are those of the rules up to the winner, one
after the other: a single one for a malformed rule, and what its conditions note for any other.
-/

namespace ReceiptRules.Rule

variable {settings : Settings} {receipt : Receipt} {rules : List Rule} {r : Rule}

/-! ## Malformed rules -/

/-- The rule has conditions, and all their operators fit their fields. -/
def WellFormed (r : Rule) : Prop :=
  r.conditions ≠ [] ∧ ∀ c ∈ r.conditions, c.operator.supportedOn c.field = true

theorem unsupportedFrom?_eq_none_iff {n : Nat} {conditions : List Condition} :
    unsupportedFrom? n conditions = none ↔
      ∀ c ∈ conditions, c.operator.supportedOn c.field = true := by
  induction conditions generalizing n with
  | nil => simp [unsupportedFrom?]
  | cons c rest ih =>
    unfold unsupportedFrom?
    split
    · next h => simp [ih, h]
    · next h => simp [h]

theorem malformedReason?_eq_none_iff : r.malformedReason? = none ↔ r.WellFormed := by
  unfold malformedReason? WellFormed
  split
  · next h => simp_all
  · next h =>
    rw [unsupportedFrom?_eq_none_iff]
    simp_all

theorem not_wellFormed_of_malformedReason? {reason : String}
    (h : r.malformedReason? = some reason) : ¬ r.WellFormed := by
  rw [← malformedReason?_eq_none_iff, h]
  simp

/-! ## What becomes of a rule -/

/-- The conditions of the rule combine to the given outcome. -/
def Combines (settings : Settings) (receipt : Receipt) (r : Rule) (outcome : Bool) : Prop :=
  ∃ v, Condition.combine settings (some r.id) receipt r.conditions = .ok v ∧ v.holds = outcome

def Applies (settings : Settings) (receipt : Receipt) (r : Rule) : Prop :=
  r.WellFormed ∧ r.Combines settings receipt true

def PassedOver (settings : Settings) (receipt : Receipt) (r : Rule) : Prop :=
  ¬ r.WellFormed ∨ r.Combines settings receipt false

theorem PassedOver.not_applies (h : r.PassedOver settings receipt) :
    ¬ r.Applies settings receipt := by
  rintro ⟨hwf, v, hv, hholds⟩
  rcases h with h | ⟨w, hw, hfails⟩
  · exact h hwf
  · rw [hv] at hw
    cases hw
    rw [hholds] at hfails
    cases hfails

/-- The notes that a rule contributes when it is tried. -/
inductive Notes (settings : Settings) (receipt : Receipt) (r : Rule) : List Diagnostic → Prop
  | malformed (reason : String) (hwf : ¬ r.WellFormed) (h : r.malformedReason? = some reason) :
    Notes settings receipt r [⟨some r.id, .malformedRule, s!"skipped '{r.name}': {reason}"⟩]
  | combined (v : Verdict) (hwf : r.WellFormed)
    (h : Condition.combine settings (some r.id) receipt r.conditions = .ok v) :
    Notes settings receipt r v.notes

theorem Notes.ruleId {notes : List Diagnostic} (h : r.Notes settings receipt notes) :
    ∀ n ∈ notes, n.ruleId = some r.id := by
  cases h with
  | malformed reason hwf h => simp
  | combined v hwf h => exact fun n hn ↦ (Condition.combine_notesOf h n hn).1

/-! ## The first match of a list -/

/-- A list of rules was tried up to its first match: all rules before the match are passed over, and
the notes are those of the rules that were tried. -/
inductive Tried (settings : Settings) (receipt : Receipt) :
    List Rule → Option Rule → List (List Diagnostic) → Prop
  | nil : Tried settings receipt [] none []
  | found {r : Rule} {rest : List Rule} {notes : List Diagnostic}
    (happlies : r.Applies settings receipt) (hnotes : r.Notes settings receipt notes) :
    Tried settings receipt (r :: rest) (some r) [notes]
  | next {r : Rule} {rest : List Rule} {winner : Option Rule} {notes : List Diagnostic}
    {others : List (List Diagnostic)} (hover : r.PassedOver settings receipt)
    (hnotes : r.Notes settings receipt notes) (hrest : Tried settings receipt rest winner others) :
    Tried settings receipt (r :: rest) winner (notes :: others)

theorem firstMatch_tried {found : Resolution} (h : firstMatch settings receipt rules = .ok found) :
    ∃ logs, Tried settings receipt rules found.winner logs ∧ found.notes = logs.flatten := by
  induction rules generalizing found with
  | nil =>
    cases h
    exact ⟨[], .nil, rfl⟩
  | cons r rest ih =>
    unfold firstMatch at h
    split at h
    · next reason hreason =>
      obtain ⟨later, hlater, rfl⟩ := Except.map_eq_ok_iff.mp h
      obtain ⟨logs, htried, hnotes⟩ := ih hlater
      have hwf := not_wellFormed_of_malformedReason? hreason
      refine ⟨[skipNote r reason] :: logs, .next (.inl hwf) (.malformed reason hwf hreason) htried, ?_⟩
      simp [hnotes]
    · next hreason =>
      have hwf := malformedReason?_eq_none_iff.mp hreason
      obtain ⟨v, hv, h⟩ := Except.bind_eq_ok_iff.mp h
      have hv' : r.Notes settings receipt v.notes := .combined v hwf hv
      split at h
      · next hholds =>
        cases h
        exact ⟨[v.notes], .found ⟨hwf, v, hv, hholds⟩ hv', by simp⟩
      · next hholds =>
        obtain ⟨later, hlater, h⟩ := Except.bind_eq_ok_iff.mp h
        cases h
        obtain ⟨logs, htried, hnotes⟩ := ih hlater
        have hfails : v.holds = false := by simpa using hholds
        refine ⟨v.notes :: logs, .next (.inr ⟨v, hv, hfails⟩) hv' htried, ?_⟩
        simp [hnotes]

theorem firstMatch_eq_ok
    (h : ∀ r ∈ rules, ∀ c ∈ r.conditions, ∃ v,
      Condition.evaluate settings (some r.id) receipt c = .ok v) :
    ∃ found, firstMatch settings receipt rules = .ok found := by
  induction rules with
  | nil => exact ⟨⟨none, []⟩, rfl⟩
  | cons r rest ih =>
    obtain ⟨later, hlater⟩ := ih fun x hx ↦ h x (List.mem_cons_of_mem r hx)
    unfold firstMatch
    split
    · next reason hreason =>
      exact ⟨⟨later.winner, skipNote r reason :: later.notes⟩,
        Except.map_eq_ok_iff.mpr ⟨later, hlater, rfl⟩⟩
    · next hreason =>
      obtain ⟨v, hv⟩ := Condition.combine_eq_ok (h r List.mem_cons_self)
      by_cases hholds : v.holds = true
      · refine ⟨⟨some r, v.notes⟩, Except.bind_eq_ok_iff.mpr ⟨v, hv, ?_⟩⟩
        rw [if_pos hholds]
        rfl
      · refine ⟨⟨later.winner, v.notes ++ later.notes⟩, Except.bind_eq_ok_iff.mpr ⟨v, hv, ?_⟩⟩
        rw [if_neg hholds]
        exact Except.bind_eq_ok_iff.mpr ⟨later, hlater, rfl⟩

namespace Tried

variable {winner : Option Rule} {logs : List (List Diagnostic)}

theorem split_of_some (h : Tried settings receipt rules (some r) logs) :
    ∃ front rest, rules = front ++ r :: rest ∧ r.Applies settings receipt ∧
      (∀ x ∈ front, x.PassedOver settings receipt) ∧
      List.Forall₂ (Notes settings receipt) (front ++ [r]) logs := by
  generalize hw : some r = winner at h
  induction h with
  | nil => cases hw
  | @found x rest notes happlies hnotes =>
    cases hw
    exact ⟨[], rest, rfl, happlies, by simp, .cons hnotes .nil⟩
  | @next x rest winner notes others hover hnotes hrest ih =>
    obtain ⟨front, after, hsplit, happlies, hfront, hlogs⟩ := ih hw
    refine ⟨x :: front, after, by simp [hsplit], happlies, ?_, .cons hnotes hlogs⟩
    intro y hy
    rcases List.mem_cons.mp hy with rfl | hy
    · exact hover
    · exact hfront y hy

theorem all_of_none (h : Tried settings receipt rules none logs) :
    (∀ x ∈ rules, x.PassedOver settings receipt) ∧
      List.Forall₂ (Notes settings receipt) rules logs := by
  generalize hw : none = winner at h
  induction h with
  | nil => exact ⟨by simp, .nil⟩
  | found happlies hnotes => cases hw
  | @next x rest winner notes others hover hnotes hrest ih =>
    obtain ⟨hall, hlogs⟩ := ih hw
    refine ⟨?_, .cons hnotes hlogs⟩
    intro y hy
    rcases List.mem_cons.mp hy with rfl | hy
    · exact hover
    · exact hall y hy

end Tried

/-! ## The rule that applies to a receipt -/

/-- The entries that were tried are all of them, or those up to the winner. -/
def TriedUpTo (settings : Settings) (receipt : Receipt) (tried untried : List (Rule × Nat)) :
    Option Rule → Prop
  | none => untried = [] ∧ ∀ e ∈ tried, e.1.PassedOver settings receipt
  | some r => ∃ front i, tried = front ++ [(r, i)] ∧ r.Applies settings receipt ∧
      ∀ e ∈ front, e.1.PassedOver settings receipt

/-- What resolving a list of rules has to find and to note. -/
structure Resolves (settings : Settings) (receipt : Receipt) (rules : List Rule)
    (found : Resolution) : Prop where
  winner_eq_some_iff : ∀ r, found.winner = some r ↔ ∃ i, (r, i) ∈ enabledEntries rules ∧
    r.Applies settings receipt ∧
    ∀ e ∈ enabledEntries rules, Before e (r, i) → e.1.PassedOver settings receipt
  winner_eq_none_iff : found.winner = none ↔
    ∀ r ∈ rules, r.enabled = true → ¬ r.Applies settings receipt
  notes : ∃ tried untried logs, InOrder rules (tried ++ untried) ∧
    TriedUpTo settings receipt tried untried found.winner ∧ found.notes = logs.flatten ∧
    List.Forall₂ (fun e log ↦ e.1.Notes settings receipt log ∧ ∀ n ∈ log, n.ruleId = some e.1.id)
      tried logs

theorem forall₂_notes {entries : List (Rule × Nat)} {logs : List (List Diagnostic)}
    (h : List.Forall₂ (Notes settings receipt) (entries.map Prod.fst) logs) :
    List.Forall₂ (fun e log ↦ e.1.Notes settings receipt log ∧ ∀ n ∈ log, n.ruleId = some e.1.id)
      entries logs := by
  rw [List.forall₂_map_left_iff] at h
  exact h.imp fun e log hlog ↦ ⟨hlog, hlog.ruleId⟩

/-- The entry that stands behind entries that are passed over is the first one that applies. -/
theorem winner_iff_of_front {front untried : List (Rule × Nat)} {w : Rule} {j : Nat}
    (horder : InOrder rules (front ++ (w, j) :: untried)) (hw : w.Applies settings receipt)
    (hfront : ∀ e ∈ front, e.1.PassedOver settings receipt) :
    some w = some r ↔ ∃ i, (r, i) ∈ enabledEntries rules ∧ r.Applies settings receipt ∧
      ∀ e ∈ enabledEntries rules, Before e (r, i) → e.1.PassedOver settings receipt := by
  have hj : (w, j) ∈ enabledEntries rules := horder.mem_iff.mp (by simp)
  constructor
  · intro h
    cases h
    refine ⟨j, hj, hw, ?_⟩
    intro e he hbefore
    exact hfront e (horder.mem_front_iff.mpr ⟨he, hbefore⟩)
  · rintro ⟨i, hi, hr, hearlier⟩
    rcases List.mem_append.mp (horder.mem_iff.mpr hi) with hmem | hmem
    · exact absurd hr (hfront _ hmem).not_applies
    · rcases List.mem_cons.mp hmem with heq | hmem
      · cases heq
        rfl
      · have hsorted := (List.pairwise_append.mp horder.sorted).2.1
        have hbefore := (List.pairwise_cons.mp hsorted).1 _ hmem
        exact absurd hw (hearlier _ hj hbefore).not_applies

/-- No enabled rule applies where all entries are passed over. -/
theorem not_applies_of_forall_passedOver {tried : List (Rule × Nat)} (horder : InOrder rules tried)
    (hover : ∀ e ∈ tried, e.1.PassedOver settings receipt) :
    ∀ r ∈ rules, r.enabled = true → ¬ r.Applies settings receipt := by
  intro r hr henabled
  obtain ⟨i, hi⟩ := exists_mem_enabledEntries hr henabled
  exact (hover (r, i) (horder.mem_iff.mpr hi)).not_applies

/-- Entries in evaluation order that were tried up to the winner decide who wins. -/
theorem resolves_of_triedUpTo {tried untried : List (Rule × Nat)} {found : Resolution}
    {logs : List (List Diagnostic)} (horder : InOrder rules (tried ++ untried))
    (htried : TriedUpTo settings receipt tried untried found.winner)
    (hnotes : found.notes = logs.flatten)
    (hlogs : List.Forall₂ (Notes settings receipt) (tried.map Prod.fst) logs) :
    Resolves settings receipt rules found := by
  refine ⟨?_, ?_, tried, untried, logs, horder, htried, hnotes, forall₂_notes hlogs⟩
  · intro r
    cases hwinner : found.winner with
    | none =>
      rw [hwinner] at htried
      obtain ⟨rfl, hover⟩ := htried
      rw [List.append_nil] at horder
      refine ⟨fun h ↦ (nomatch h), ?_⟩
      rintro ⟨i, hi, hr, -⟩
      obtain ⟨hget, henabled⟩ := mem_enabledEntries.mp hi
      have hmem : r ∈ rules := List.mem_of_getElem? hget
      exact absurd hr (not_applies_of_forall_passedOver horder hover r hmem henabled)
    | some w =>
      rw [hwinner] at htried
      obtain ⟨front, j, rfl, hw, hfront⟩ := htried
      rw [List.append_assoc, List.singleton_append] at horder
      exact winner_iff_of_front horder hw hfront
  · cases hwinner : found.winner with
    | none =>
      rw [hwinner] at htried
      obtain ⟨rfl, hover⟩ := htried
      rw [List.append_nil] at horder
      exact ⟨fun _ ↦ not_applies_of_forall_passedOver horder hover, fun _ ↦ rfl⟩
    | some w =>
      rw [hwinner] at htried
      obtain ⟨front, j, rfl, hw, -⟩ := htried
      refine ⟨fun h ↦ (nomatch h), fun hnone ↦ ?_⟩
      have hj : (w, j) ∈ enabledEntries rules := horder.mem_iff.mp (by simp)
      obtain ⟨hget, henabled⟩ := mem_enabledEntries.mp hj
      exact absurd hw (hnone w (List.mem_of_getElem? hget) henabled)

theorem triedUpTo_of_tried {entries : List (Rule × Nat)} {winner : Option Rule}
    {logs : List (List Diagnostic)}
    (h : Tried settings receipt (entries.map Prod.fst) winner logs) :
    ∃ tried untried, entries = tried ++ untried ∧
      TriedUpTo settings receipt tried untried winner ∧
      List.Forall₂ (Notes settings receipt) (tried.map Prod.fst) logs := by
  cases winner with
  | none =>
    obtain ⟨hover, hlogs⟩ := h.all_of_none
    refine ⟨entries, [], by simp, ⟨rfl, ?_⟩, hlogs⟩
    intro e he
    exact hover e.1 (List.mem_map_of_mem he)
  | some w =>
    obtain ⟨front, rest, hsplit, hw, hover, hlogs⟩ := h.split_of_some
    obtain ⟨frontEntries, others, rfl, rfl, hothers⟩ := List.map_eq_append_iff.mp hsplit
    obtain ⟨⟨_, i⟩, restEntries, rfl, rfl, -⟩ := List.map_eq_cons_iff.mp hothers
    refine ⟨frontEntries ++ [(_, i)], restEntries, by simp, ⟨frontEntries, i, rfl, hw, ?_⟩, ?_⟩
    · intro e he
      exact hover e.1 (List.mem_map_of_mem he)
    · simpa using hlogs

/-- Where no condition of an enabled rule fails, resolving finds the first rule that applies, or
none if no rule does; and wherever it comes to an end, this is what it has found. -/
theorem resolve_resolves (settings : Settings) (receipt : Receipt) (rules : List Rule) :
    ((∀ r ∈ rules, r.enabled = true → ∀ c ∈ r.conditions, ∃ v,
        Condition.evaluate settings (some r.id) receipt c = .ok v) →
      ∃ found, resolve settings receipt rules = .ok found) ∧
    ∀ found, resolve settings receipt rules = .ok found →
      Resolves settings receipt rules found := by
  constructor
  · intro h
    apply firstMatch_eq_ok
    intro r hr
    rw [mem_ordered, List.mem_filter] at hr
    exact h r hr.1 hr.2
  · intro found hfound
    obtain ⟨entries, horder, hentries⟩ := exists_inOrder rules
    obtain ⟨logs, htried, hnotes⟩ := firstMatch_tried hfound
    rw [← hentries] at htried
    obtain ⟨tried, untried, rfl, hupto, hlogs⟩ := triedUpTo_of_tried htried
    exact resolves_of_triedUpTo horder hupto hnotes hlogs

/-- A rule on remarks, made at a fixed moment. -/
def remarksRule (id : String) (enabled : Bool) (priority sequence : Int) (texts : List String) :
    Rule where
  id := id
  name := id
  enabled := enabled
  priority := priority
  conditions := texts.map fun text ↦ ⟨.remarks, .contains, text, .and⟩
  sequence := sequence
  createdAt := .midnight ⟨2024, 1, 1, by decide⟩
  updatedAt := .midnight ⟨2024, 1, 1, by decide⟩

/-- A switched-off rule, a malformed one, and three that apply, two of them on one rank. -/
def tiedRules : List Rule := [
  remarksRule "LATE" true 1 2 ["taxi"], remarksRule "OFF" false 9 0 ["taxi"],
  remarksRule "FIRST" true 1 1 ["taxi"], remarksRule "EMPTY" true 5 7 [],
  remarksRule "TWIN" true 1 1 ["taxi"], remarksRule "BUS" true 3 0 ["bus"]]

theorem resolve_resolves_tiedRules :
    (∃ found, resolve {} ⟨none, [("REMARKS", .text "by taxi")]⟩ tiedRules = .ok found) ∧
      ∃ found, found.winner = some (remarksRule "FIRST" true 1 1 ["taxi"]) ∧
        found.notes.map Diagnostic.ruleId = [some "EMPTY"] ∧
        Resolves {} ⟨none, [("REMARKS", .text "by taxi")]⟩ tiedRules found := by
  constructor
  · apply (resolve_resolves {} ⟨none, [("REMARKS", .text "by taxi")]⟩ tiedRules).1
    intro r hr _ c hc
    simp only [tiedRules, List.mem_cons, List.not_mem_nil, or_false] at hr
    rcases hr with rfl | rfl | rfl | rfl | rfl | rfl <;>
      simp only [remarksRule, List.map_cons, List.map_nil, List.mem_cons, List.not_mem_nil,
        or_false] at hc <;> subst hc <;> exact ⟨_, rfl⟩
  · exact ⟨_, rfl, rfl, (resolve_resolves {} _ tiedRules).2 _ rfl⟩

end ReceiptRules.Rule
