import ReceiptRules.Proofs.Condition.Turns
import ReceiptRules.Proofs.Rule.Resolution

/-!
# The turn of a rule

Rules are tried in evaluation order, and the turn of one comes when all enabled rules before it are
passed over. Resolving fails exactly when the conditions of a well-formed rule fail whose turn
comes, and finds a rule exactly when its turn comes and it applies. Where it does not fail, it notes
whatever the rules note whose turn comes.
-/

namespace ReceiptRules.Rule

variable {settings : Settings} {receipt : Receipt} {rules front rest : List Rule} {r : Rule}
  {i : Nat}

/-- The turn of an entry comes: it is enabled, and all enabled entries before it are passed over. -/
def IsTried (settings : Settings) (receipt : Receipt) (rules : List Rule) (r : Rule) (i : Nat) :
    Prop :=
  (r, i) ∈ enabledEntries rules ∧
    ∀ e ∈ enabledEntries rules, Before e (r, i) → e.1.PassedOver settings receipt

/-- The condition is one of the rule, and its turn comes when those of the rule are joined. -/
def Reaches (settings : Settings) (receipt : Receipt) (r : Rule) (c : Condition) : Prop :=
  ∃ before after, r.conditions = before ++ c :: after ∧
    Condition.LeavesOpen settings (some r.id) receipt before

/-! ## Positions in evaluation order -/

theorem exists_split_of_isTried (h : IsTried settings receipt rules r i) :
    ∃ front rest, ordered (rules.filter fun x ↦ x.enabled) = front ++ r :: rest ∧
      ∀ x ∈ front, x.PassedOver settings receipt := by
  obtain ⟨entries, horder, hentries⟩ := exists_inOrder rules
  obtain ⟨front, rest, rfl⟩ := List.append_of_mem (horder.mem_iff.mpr h.1)
  refine ⟨front.map Prod.fst, rest.map Prod.fst, ?_, ?_⟩
  · rw [← hentries, List.map_append, List.map_cons]
  · intro x hx
    obtain ⟨e, he, rfl⟩ := List.mem_map.mp hx
    obtain ⟨henabled, hbefore⟩ := horder.mem_front_iff.mp he
    exact h.2 e henabled hbefore

theorem exists_isTried_of_split
    (hsplit : ordered (rules.filter fun x ↦ x.enabled) = front ++ r :: rest)
    (hover : ∀ x ∈ front, x.PassedOver settings receipt) :
    ∃ i, IsTried settings receipt rules r i := by
  obtain ⟨entries, horder, hentries⟩ := exists_inOrder rules
  rw [hsplit] at hentries
  obtain ⟨frontEntries, others, rfl, rfl, hothers⟩ := List.map_eq_append_iff.mp hentries
  obtain ⟨⟨_, i⟩, restEntries, rfl, rfl, -⟩ := List.map_eq_cons_iff.mp hothers
  refine ⟨i, horder.mem_iff.mp (by simp), fun e he hbefore ↦ ?_⟩
  exact hover e.1 (List.mem_map_of_mem (horder.mem_front_iff.mpr ⟨he, hbefore⟩))

/-! ## The first match behind rules that are passed over -/

/-- A resolution with other notes in front of its own. -/
def Resolution.behind (notes : List Diagnostic) (found : Resolution) : Resolution :=
  ⟨found.winner, notes ++ found.notes⟩

theorem exists_firstMatch_cons_of_passedOver (h : r.PassedOver settings receipt) :
    ∃ notes, ∀ rest, firstMatch settings receipt (r :: rest) =
      (firstMatch settings receipt rest).map (Resolution.behind notes) := by
  cases hreason : r.malformedReason? with
  | some reason =>
    refine ⟨[skipNote r reason], fun rest ↦ ?_⟩
    rw [firstMatch, hreason]
    rfl
  | none =>
    have hwf := malformedReason?_eq_none_iff.mp hreason
    obtain ⟨v, hv, hfails⟩ := h.resolve_left (not_not.mpr hwf)
    refine ⟨v.notes, fun rest ↦ ?_⟩
    rw [firstMatch, hreason, hv]
    change (if v.holds = true then _ else _) = _
    rw [hfails]
    rfl

/-- Rules that are passed over change nothing but the notes. -/
theorem exists_firstMatch_append (hover : ∀ x ∈ front, x.PassedOver settings receipt) :
    ∃ notes, ∀ rest, firstMatch settings receipt (front ++ rest) =
      (firstMatch settings receipt rest).map (Resolution.behind notes) := by
  induction front with
  | nil =>
    refine ⟨[], fun rest ↦ ?_⟩
    rw [List.nil_append]
    cases firstMatch settings receipt rest <;> rfl
  | cons x front ih =>
    obtain ⟨first, hfirst⟩ := exists_firstMatch_cons_of_passedOver (hover x List.mem_cons_self)
    obtain ⟨notes, hnotes⟩ := ih fun y hy ↦ hover y (List.mem_cons_of_mem x hy)
    refine ⟨first ++ notes, fun rest ↦ ?_⟩
    rw [List.cons_append, hfirst, hnotes]
    cases firstMatch settings receipt rest with
    | error e => rfl
    | ok found => simp [Except.map, Resolution.behind]

theorem exists_resolve_of_isTried (h : IsTried settings receipt rules r i) :
    ∃ notes rest, resolve settings receipt rules =
      (firstMatch settings receipt (r :: rest)).map (Resolution.behind notes) := by
  obtain ⟨front, rest, hsplit, hover⟩ := exists_split_of_isTried h
  obtain ⟨notes, hnotes⟩ := exists_firstMatch_append hover
  exact ⟨notes, rest, by rw [resolve, hsplit, hnotes]⟩

/-! ## How resolving ends -/

theorem exists_of_firstMatch_eq_error {e : Failure}
    (h : firstMatch settings receipt rules = .error e) :
    ∃ front r rest, rules = front ++ r :: rest ∧ (∀ x ∈ front, x.PassedOver settings receipt) ∧
      r.WellFormed ∧ Condition.combine settings (some r.id) receipt r.conditions = .error e := by
  induction rules with
  | nil => cases h
  | cons r rest ih =>
    have later (hover : r.PassedOver settings receipt)
        (hrest : firstMatch settings receipt rest = .error e) :
        ∃ front x others, r :: rest = front ++ x :: others ∧
          (∀ y ∈ front, y.PassedOver settings receipt) ∧ x.WellFormed ∧
          Condition.combine settings (some x.id) receipt x.conditions = .error e := by
      obtain ⟨front, x, others, rfl, hfront, hx⟩ := ih hrest
      exact ⟨r :: front, x, others, rfl, List.forall_mem_cons.mpr ⟨hover, hfront⟩, hx⟩
    unfold firstMatch at h
    split at h
    · next reason hreason =>
      exact later (.inl (not_wellFormed_of_malformedReason? hreason)) (Except.map_eq_error_iff.mp h)
    · next hreason =>
      have hwf := malformedReason?_eq_none_iff.mp hreason
      rcases Except.bind_eq_error_iff.mp h with hr | ⟨v, hv, h⟩
      · exact ⟨[], r, rest, rfl, fun x hx ↦ absurd hx List.not_mem_nil, hwf, hr⟩
      · split at h
        · cases h
        · next hholds =>
          rcases Except.bind_eq_error_iff.mp h with hrest | ⟨found, -, h⟩
          · exact later (.inr ⟨v, hv, by simpa using hholds⟩) hrest
          · cases h

/-- Resolving fails exactly by a condition of a well-formed rule, when the turns of both come. -/
theorem resolve_eq_error_iff {e : Failure} : resolve settings receipt rules = .error e ↔
    ∃ r i c, IsTried settings receipt rules r i ∧ r.WellFormed ∧ r.Reaches settings receipt c ∧
      Condition.evaluate settings (some r.id) receipt c = .error e := by
  constructor
  · intro h
    obtain ⟨front, r, rest, hsplit, hover, hwf, hr⟩ := exists_of_firstMatch_eq_error h
    obtain ⟨i, htried⟩ := exists_isTried_of_split hsplit hover
    obtain ⟨before, c, after, hc, hopen, he⟩ := Condition.combine_eq_error_iff.mp hr
    exact ⟨r, i, c, htried, hwf, ⟨before, after, hc, hopen⟩, he⟩
  · rintro ⟨r, i, c, htried, hwf, ⟨before, after, hc, hopen⟩, he⟩
    obtain ⟨notes, rest, hresolve⟩ := exists_resolve_of_isTried htried
    have hr : Condition.combine settings (some r.id) receipt r.conditions = .error e :=
      Condition.combine_eq_error_iff.mpr ⟨before, c, after, hc, hopen, he⟩
    rw [hresolve, firstMatch, malformedReason?_eq_none_iff.mpr hwf]
    change ((Condition.combine settings (some r.id) receipt r.conditions >>= _).map _) = _
    rw [hr]
    rfl

/-- Resolving finds a rule exactly if its turn comes and it applies. -/
theorem exists_resolve_eq_some_iff :
    (∃ notes, resolve settings receipt rules = .ok ⟨some r, notes⟩) ↔
      (∃ i, IsTried settings receipt rules r i) ∧ r.Applies settings receipt := by
  constructor
  · rintro ⟨notes, h⟩
    have hresolves := (resolve_resolves settings receipt rules).2 _ h
    obtain ⟨i, hi, happlies, hover⟩ := (hresolves.winner_eq_some_iff r).mp rfl
    exact ⟨⟨i, hi, hover⟩, happlies⟩
  · rintro ⟨⟨i, htried⟩, hwf, v, hv, hholds⟩
    obtain ⟨notes, rest, hresolve⟩ := exists_resolve_of_isTried htried
    refine ⟨notes ++ v.notes, ?_⟩
    rw [hresolve, firstMatch, malformedReason?_eq_none_iff.mpr hwf, hv]
    change ((if v.holds = true then _ else _ : Except Failure Resolution).map _) = _
    rw [if_pos hholds]
    rfl

/-- What a rule notes whose turn comes is among the notes of resolving. -/
theorem notes_of_isTried {found : Resolution} (hfound : resolve settings receipt rules = .ok found)
    (h : IsTried settings receipt rules r i) :
    ∃ log, r.Notes settings receipt log ∧ ∀ n ∈ log, n ∈ found.notes := by
  obtain ⟨notes, rest, hresolve⟩ := exists_resolve_of_isTried h
  rw [hresolve] at hfound
  obtain ⟨later, hlater, rfl⟩ := Except.map_eq_ok_iff.mp hfound
  obtain ⟨logs, htried, hlogs⟩ := firstMatch_tried hlater
  have hmem {log : List Diagnostic} (hlog : log ∈ logs) :
      ∀ n ∈ log, n ∈ (later.behind notes).notes := by
    intro n hn
    refine List.mem_append_right notes ?_
    rw [hlogs]
    exact List.mem_flatten_of_mem hlog hn
  generalize later.winner = winner at htried
  cases htried with
  | found happlies hnotes => exact ⟨_, hnotes, hmem List.mem_cons_self⟩
  | next hover hnotes hrest => exact ⟨_, hnotes, hmem List.mem_cons_self⟩

/-- A condition is evaluated when the turns of it and of its rule come, and its notes are among
those of resolving. -/
theorem notes_of_reaches {found : Resolution} {c : Condition} {first : Verdict}
    (hfound : resolve settings receipt rules = .ok found) (h : IsTried settings receipt rules r i)
    (hwf : r.WellFormed) (hreaches : r.Reaches settings receipt c)
    (hfirst : Condition.evaluate settings (some r.id) receipt c = .ok first) :
    ∀ n ∈ first.notes, n ∈ found.notes := by
  obtain ⟨log, hlog, hmem⟩ := notes_of_isTried hfound h
  obtain ⟨before, after, hc, hopen⟩ := hreaches
  cases hlog with
  | malformed reason hnot hreason => exact absurd hwf hnot
  | combined v _ hv =>
    rw [hc] at hv
    intro n hn
    exact hmem n (Condition.notes_of_leavesOpen hopen hv hfirst n hn)

end ReceiptRules.Rule
