import ReceiptRules.Condition.Combine
import ReceiptRules.Proofs.Except

/-!
# The turn of a condition

Conditions are joined from left to right, and the turn of one comes when those before it leave the
outcome open. Joining fails exactly when a condition fails whose turn comes; and when it does not,
the notes of each condition whose turn comes are among those of all.
-/

namespace ReceiptRules

namespace Verdict

/-- A result with other notes in front of its own. -/
def behind (notes : List Diagnostic) (result : Except Failure Verdict) : Except Failure Verdict :=
  result.map fun v ↦ ⟨v.holds, notes ++ v.notes⟩

theorem behind_nil (result : Except Failure Verdict) : behind [] result = result := by
  cases result <;> rfl

theorem behind_behind (notes more : List Diagnostic) (result : Except Failure Verdict) :
    behind notes (behind more result) = behind (notes ++ more) result := by
  cases result with
  | error e => rfl
  | ok v => simp [behind, Except.map]

end Verdict

namespace Condition

open Verdict

variable {settings : Settings} {ruleId : Option String} {receipt : Receipt} {outcome : Bool}
  {joiner : Joiner} {conditions before after : List Condition} {c : Condition}

/-- The joiner behind some conditions, or the given one if there are none. -/
def joinerBehind (joiner : Joiner) (conditions : List Condition) : Joiner :=
  conditions.foldl (fun _ c ↦ c.joiner) joiner

/-- The conditions have an outcome, and the step behind them is open. In front of the first
condition everything is open, as it is behind a condition that holds and goes on with `and`. -/
def LeavesOpen (settings : Settings) (ruleId : Option String) (receipt : Receipt)
    (before : List Condition) : Prop :=
  ∃ v, combineFrom settings ruleId receipt true .and before = .ok v ∧
    (joinerBehind .and before).decides v.holds = false

theorem combine_of_ne_nil (h : conditions ≠ []) :
    combine settings ruleId receipt conditions =
      combineFrom settings ruleId receipt true .and conditions := by
  cases conditions with
  | nil => exact absurd rfl h
  | cons c rest => rfl

theorem combineFrom_of_decides (h : joiner.decides outcome = true) (c : Condition)
    (rest : List Condition) : combineFrom settings ruleId receipt outcome joiner (c :: rest) =
      combineFrom settings ruleId receipt outcome c.joiner rest := by
  rw [combineFrom, if_pos h]

theorem combineFrom_of_open (h : joiner.decides outcome = false) (c : Condition)
    (rest : List Condition) : combineFrom settings ruleId receipt outcome joiner (c :: rest) =
      evaluate settings ruleId receipt c >>= fun first ↦
        behind first.notes (combineFrom settings ruleId receipt first.holds c.joiner rest) := by
  rw [combineFrom, if_neg (by rw [h]; decide)]
  rfl

/-- Conditions are joined by joining the first ones and going on from their outcome. -/
theorem combineFrom_append {v : Verdict}
    (h : combineFrom settings ruleId receipt outcome joiner before = .ok v)
    (after : List Condition) :
    combineFrom settings ruleId receipt outcome joiner (before ++ after) = behind v.notes
      (combineFrom settings ruleId receipt v.holds (joinerBehind joiner before) after) := by
  induction before generalizing outcome joiner v with
  | nil =>
    cases h
    exact (behind_nil _).symm
  | cons c rest ih =>
    rw [List.cons_append]
    cases hdecides : joiner.decides outcome with
    | true =>
      rw [combineFrom_of_decides hdecides] at h ⊢
      exact ih h
    | false =>
      rw [combineFrom_of_open hdecides] at h ⊢
      obtain ⟨first, hfirst, h⟩ := Except.bind_eq_ok_iff.mp h
      obtain ⟨others, hothers, rfl⟩ := Except.map_eq_ok_iff.mp h
      rw [hfirst]
      change behind first.notes (combineFrom settings ruleId receipt _ _ (rest ++ after)) = _
      rw [ih hothers, behind_behind]
      rfl

/-- A condition whose turn comes is evaluated, and the others go on from it. -/
theorem combine_of_leavesOpen (h : LeavesOpen settings ruleId receipt before) (c : Condition)
    (after : List Condition) : ∃ notes, combine settings ruleId receipt (before ++ c :: after) =
      behind notes (evaluate settings ruleId receipt c >>= fun first ↦
        behind first.notes (combineFrom settings ruleId receipt first.holds c.joiner after)) := by
  obtain ⟨v, hv, hopen⟩ := h
  have hne : before ++ c :: after ≠ [] :=
    List.append_ne_nil_of_right_ne_nil before (List.cons_ne_nil c after)
  refine ⟨v.notes, ?_⟩
  rw [combine_of_ne_nil hne, combineFrom_append hv, combineFrom_of_open hopen]

theorem exists_of_combineFrom_eq_error {e : Failure}
    (h : combineFrom settings ruleId receipt outcome joiner conditions = .error e) :
    ∃ before c after v, conditions = before ++ c :: after ∧
      combineFrom settings ruleId receipt outcome joiner before = .ok v ∧
      (joinerBehind joiner before).decides v.holds = false ∧
      evaluate settings ruleId receipt c = .error e := by
  induction conditions generalizing outcome joiner with
  | nil => cases h
  | cons d rest ih =>
    cases hdecides : joiner.decides outcome with
    | true =>
      rw [combineFrom_of_decides hdecides] at h
      obtain ⟨before, c, after, v, rfl, hv, hopen, he⟩ := ih h
      refine ⟨d :: before, c, after, v, rfl, ?_, hopen, he⟩
      rw [combineFrom_of_decides hdecides, hv]
    | false =>
      rw [combineFrom_of_open hdecides, Except.bind_eq_error_iff] at h
      rcases h with hd | ⟨first, hfirst, h⟩
      · exact ⟨[], d, rest, ⟨outcome, []⟩, rfl, rfl, hdecides, hd⟩
      · obtain ⟨before, c, after, v, rfl, hv, hopen, he⟩ := ih (Except.map_eq_error_iff.mp h)
        refine ⟨d :: before, c, after, ⟨v.holds, first.notes ++ v.notes⟩, rfl, ?_, hopen, he⟩
        rw [combineFrom_of_open hdecides, hfirst]
        exact Except.map_eq_ok_iff.mpr ⟨v, hv, rfl⟩

/-- Joining fails exactly by a condition whose turn comes. -/
theorem combine_eq_error_iff {e : Failure} : combine settings ruleId receipt conditions = .error e ↔
    ∃ before c after, conditions = before ++ c :: after ∧
      LeavesOpen settings ruleId receipt before ∧
      evaluate settings ruleId receipt c = .error e := by
  constructor
  · intro h
    have hne : conditions ≠ [] := by
      rintro rfl
      cases h
    rw [combine_of_ne_nil hne] at h
    obtain ⟨before, c, after, v, hsplit, hv, hopen, he⟩ := exists_of_combineFrom_eq_error h
    exact ⟨before, c, after, hsplit, ⟨v, hv, hopen⟩, he⟩
  · rintro ⟨before, c, after, rfl, hopen, he⟩
    obtain ⟨notes, hcombine⟩ := combine_of_leavesOpen hopen c after
    rw [hcombine, he]
    rfl

/-- What a condition notes whose turn comes is among the notes of all. -/
theorem notes_of_leavesOpen {v first : Verdict} (hopen : LeavesOpen settings ruleId receipt before)
    (hv : combine settings ruleId receipt (before ++ c :: after) = .ok v)
    (hfirst : evaluate settings ruleId receipt c = .ok first) : ∀ n ∈ first.notes, n ∈ v.notes := by
  obtain ⟨notes, hcombine⟩ := combine_of_leavesOpen hopen c after
  rw [hcombine, hfirst] at hv
  obtain ⟨w, hw, rfl⟩ := Except.map_eq_ok_iff.mp hv
  obtain ⟨others, -, rfl⟩ := Except.map_eq_ok_iff.mp hw
  intro n hn
  exact List.mem_append_right notes (List.mem_append_left others.notes hn)

end Condition

end ReceiptRules
