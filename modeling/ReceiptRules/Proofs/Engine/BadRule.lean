import ReceiptRules.Engine
import ReceiptRules.Proofs.Rule.Insertion

/-!
# One bad rule does not block the others

A classification depends on the rules by the winner, and by the notes of the rules that were tried,
which it hands on. So a malformed rule that is put into a list, wherever and of whatever rank, leaves
the directive, the number and the counters as they are. Where a classification fails, it fails in the
same way with the rule.
-/

namespace ReceiptRules

open ArchiveNumber

variable {settings : Settings} {occasion : Directive.Occasion} {front back : List Rule}
  {receipt : Receipt} {counters : Option Counters} {r : Rule}

/-- An outcome with other notes in front of its own. -/
def Outcome.behind (notes : List Diagnostic) (o : Outcome) : Outcome :=
  { o with notes := notes ++ o.notes }

namespace Engine

theorem finish_behind {build build' : Directive → Outcome} {notes : List Diagnostic}
    (h : ∀ d, build' d = (build d).behind notes) (counters : Option Counters) (d : Directive) :
    finish counters build' d =
      ((finish counters build d).1.map (Outcome.behind notes), (finish counters build d).2) := by
  simp only [finish]
  cases (numbered d counters).1 with
  | error e => rfl
  | ok d => simp only [Except.map, h]

theorem matchedOutcome_eq_behind (receipt : Receipt) (r : Rule) (notes : List Diagnostic)
    (d : Directive) :
    matchedOutcome receipt r notes d = (matchedOutcome receipt r [] d).behind notes :=
  rfl

theorem unmatchedOutcome_eq_behind (receipt : Receipt) (notes : List Diagnostic)
    (d : Option Directive) :
    unmatchedOutcome receipt notes d = (unmatchedOutcome receipt [] d).behind notes := by
  simp [unmatchedOutcome, Outcome.behind]

/-- The winner settles everything but the notes that stand in front. -/
theorem exists_classify_of_winner (settings : Settings) (occasion : Directive.Occasion)
    (receipt : Receipt) (counters : Option Counters) (winner : Option Rule) :
    ∃ (result : Except Failure Outcome) (moved : Option Counters), ∀ rules notes,
      Rule.resolve settings receipt rules = .ok ⟨winner, notes⟩ →
      classify settings occasion rules receipt counters =
        (result.map (Outcome.behind notes), moved) := by
  cases winner with
  | some w =>
    cases happly : Directive.apply settings (some w.id) (some receipt) none occasion w.actions with
    | error e =>
      refine ⟨.error e, counters, fun rules notes h ↦ ?_⟩
      simp only [classify, h, happly]
      rfl
    | ok d =>
      refine ⟨(finish counters (matchedOutcome receipt w []) d).1,
        (finish counters (matchedOutcome receipt w []) d).2, fun rules notes h ↦ ?_⟩
      simp only [classify, h, happly]
      exact finish_behind (matchedOutcome_eq_behind receipt w notes) counters d
  | none =>
    cases hactions : defaultActions settings with
    | nil =>
      refine ⟨.ok (unmatchedOutcome receipt [] none), counters, fun rules notes h ↦ ?_⟩
      simp only [classify, h, hactions]
      rw [unmatchedOutcome_eq_behind]
      rfl
    | cons a rest =>
      cases happly : Directive.apply settings none (some receipt) none occasion (a :: rest) with
      | error e =>
        refine ⟨.error e, counters, fun rules notes h ↦ ?_⟩
        simp only [classify, h, hactions, happly]
        rfl
      | ok d =>
        have hbuild (notes : List Diagnostic) (d : Directive) :=
          unmatchedOutcome_eq_behind receipt notes (some d)
        refine ⟨(finish counters (fun d ↦ unmatchedOutcome receipt [] (some d)) d).1,
          (finish counters (fun d ↦ unmatchedOutcome receipt [] (some d)) d).2,
          fun rules notes h ↦ ?_⟩
        simp only [classify, h, hactions, happly]
        exact finish_behind (hbuild notes) counters d

/-! ## Classifying with a malformed rule -/

/-- What putting a rule into a list does to resolving and to classifying a receipt: the winner and all
that follows from it are the same, and the notes of either grow by that on the rule or not at all. -/
structure BlocksNothing (settings : Settings) (receipt : Receipt) (front : List Rule) (r : Rule)
    (back : List Rule) : Prop where
  resolved : ∀ found, Rule.resolve settings receipt (front ++ back) = .ok found →
    ∃ notes, Rule.resolve settings receipt (front ++ r :: back) = .ok { found with notes } ∧
      Rule.NotesInsert settings receipt front r back found.notes notes
  classified : ∀ occasion counters o moved,
    classify settings occasion (front ++ back) receipt counters = (.ok o, moved) →
      ∃ notes, classify settings occasion (front ++ r :: back) receipt counters =
          (.ok { o with notes }, moved) ∧
        Rule.NotesInsert settings receipt front r back o.notes notes
  failed : ∀ occasion counters e moved,
    classify settings occasion (front ++ back) receipt counters = (.error e, moved) →
      classify settings occasion (front ++ r :: back) receipt counters = (.error e, moved)

theorem blocksNothing_of_not_wellFormed (settings : Settings) (receipt : Receipt)
    (front back : List Rule) (henabled : r.enabled = true) (hbad : ¬ r.WellFormed) :
    BlocksNothing settings receipt front r back := by
  obtain ⟨herror, hok⟩ := Rule.resolve_insert settings receipt front back henabled hbad
  refine ⟨hok, ?_, ?_⟩
  · intro occasion counters o moved hclassify
    cases hresolve : Rule.resolve settings receipt (front ++ back) with
    | error e =>
      simp only [classify, hresolve] at hclassify
      cases hclassify
    | ok found =>
      obtain ⟨notes, hinsert, hgrow⟩ := hok found hresolve
      obtain ⟨result, moved', hresult⟩ :=
        exists_classify_of_winner settings occasion receipt counters found.winner
      rw [hresult _ _ hresolve] at hclassify
      obtain ⟨hbehind, rfl⟩ := Prod.mk.inj hclassify
      obtain ⟨plain, rfl, rfl⟩ := Except.map_eq_ok_iff.mp hbehind
      exact ⟨notes ++ plain.notes, hresult _ _ hinsert, hgrow.append plain.notes⟩
  · intro occasion counters e moved hclassify
    cases hresolve : Rule.resolve settings receipt (front ++ back) with
    | error e' => simpa only [classify, hresolve, herror e' hresolve] using hclassify
    | ok found =>
      obtain ⟨notes, hinsert, -⟩ := hok found hresolve
      obtain ⟨result, moved', hresult⟩ :=
        exists_classify_of_winner settings occasion receipt counters found.winner
      rw [hresult _ _ hresolve] at hclassify
      obtain ⟨hbehind, rfl⟩ := Prod.mk.inj hclassify
      rw [hresult _ _ hinsert, Except.map_eq_error_iff.mp hbehind]
      rfl

/-- A malformed rule that is put into a list, wherever and of whatever rank, blocks nothing. Where no
condition of the others fails, resolving comes to an end, with the rule as without it. -/
theorem malformed_blocksNothing (settings : Settings) (receipt : Receipt) (front back : List Rule)
    (henabled : r.enabled = true) (hbad : ¬ r.WellFormed) :
    ((∀ x ∈ front ++ back, x.enabled = true → ∀ c ∈ x.conditions, ∃ v,
        Condition.evaluate settings (some x.id) receipt c = .ok v) →
      ∃ found, Rule.resolve settings receipt (front ++ back) = .ok found) ∧
    BlocksNothing settings receipt front r back := by
  refine ⟨fun h ↦ ?_, blocksNothing_of_not_wellFormed settings receipt front back henabled hbad⟩
  apply Rule.firstMatch_eq_ok
  intro x hx
  rw [Rule.mem_ordered, List.mem_filter] at hx
  exact h x hx.1 hx.2

/-- Two rules on taxi rides, and one without conditions that comes before both. -/
def lateRide : Rule := Rule.remarksRule "LATE" true 1 2 ["taxi"]

def firstRide : Rule := Rule.remarksRule "FIRST" true 1 1 ["taxi"]

def emptyRule : Rule := Rule.remarksRule "EMPTY" true 5 7 []

def taxiRide : Receipt := ⟨none, [("REMARKS", .text "by taxi")]⟩

def midsummer : Directive.Occasion := ⟨none, ⟨2024, 7, 15, .refl true⟩⟩

/-- Between the two rides, the rule without conditions leaves a note and no other trace. -/
theorem malformed_blocksNothing_emptyRule :
    (¬ emptyRule.WellFormed ∧
      (∃ found, Rule.resolve {} taxiRide ([lateRide] ++ [firstRide]) = .ok found) ∧
      BlocksNothing {} taxiRide [lateRide] emptyRule [firstRide]) ∧
    ∃ o, classify {} midsummer ([lateRide] ++ [firstRide]) taxiRide none = (.ok o, none) ∧
      o.ruleId = some "FIRST" ∧ o.notes = [] ∧
      classify {} midsummer ([lateRide] ++ emptyRule :: [firstRide]) taxiRide none =
        (.ok { o with notes :=
          [Rule.skipNote emptyRule "rule has no conditions and can never match"] }, none) := by
  have hbad : ¬ emptyRule.WellFormed := fun hwf ↦ hwf.1 rfl
  obtain ⟨hfound, hblocks⟩ :=
    malformed_blocksNothing {} taxiRide [lateRide] [firstRide] rfl hbad
  refine ⟨⟨hbad, hfound ?_, hblocks⟩, _, rfl, rfl, rfl, rfl⟩
  intro x hx _ c hc
  simp only [List.singleton_append, List.mem_cons, List.not_mem_nil, or_false] at hx
  rcases hx with rfl | rfl <;> cases List.mem_singleton.mp hc <;> exact ⟨_, rfl⟩

end Engine

end ReceiptRules
