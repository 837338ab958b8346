import ReceiptRules.Proofs.Condition.Turns

/-!
# Joining conditions and folding them

Joining leaves out the conditions that cannot change the outcome any more. Where every condition can
be evaluated, this shows in the notes alone: the outcome is that of evaluating them all and folding
from left to right, and the notes are those of the conditions that are not left out. The outcome can
be told from one position: a condition that holds and does not depend on what comes before it, with
nothing behind it that fails and is joined by `and`.
-/

namespace ReceiptRules

theorem Joiner.join_of_open {outcome : Bool} {joiner : Joiner} (next : Bool)
    (h : joiner.decides outcome = false) : joiner.join outcome next = next := by
  cases joiner <;> cases outcome <;> simp_all [decides, join]

namespace Condition

open Verdict

variable {settings : Settings} {ruleId : Option String} {receipt : Receipt}
  {holds : Condition → Bool} {outcome : Bool} {joiner : Joiner} {start : Option Joiner}
  {conditions before rest : List Condition} {c : Condition} {i : Nat}

/-! ## The fold of all conditions -/

/-- Goes on from an outcome by joining every condition to it. The joiner is that of the condition
before them. -/
def foldFrom (holds : Condition → Bool) (outcome : Bool) (joiner : Joiner) :
    List Condition → Bool
  | [] => outcome
  | c :: rest => foldFrom holds (joiner.join outcome (holds c)) c.joiner rest

/-- The outcome of evaluating every condition and joining each to the outcome of those before it, by
the joiner of the last of these. -/
def fold (holds : Condition → Bool) : List Condition → Bool
  | [] => false
  | c :: rest => foldFrom holds (holds c) c.joiner rest

/-- A condition behind the given ones is left out: they do not hold and go on with `and`, or they hold
and go on with `or`. -/
def Skips (holds : Condition → Bool) (before : List Condition) : Prop :=
  ∃ previous ∈ before.getLast?,
    fold holds before = false ∧ previous.joiner = .and ∨
      fold holds before = true ∧ previous.joiner = .or

instance (holds : Condition → Bool) (before : List Condition) : Decidable (Skips holds before) :=
  inferInstanceAs (Decidable (∃ previous ∈ before.getLast?, _))

theorem foldFrom_concat (holds : Condition → Bool) (outcome : Bool) (joiner : Joiner)
    (before : List Condition) (c : Condition) :
    foldFrom holds outcome joiner (before ++ [c]) =
      (joinerBehind joiner before).join (foldFrom holds outcome joiner before) (holds c) := by
  induction before generalizing outcome joiner with
  | nil => rfl
  | cons b rest ih => exact ih _ _

theorem fold_of_ne_nil (h : conditions ≠ []) :
    fold holds conditions = foldFrom holds true .and conditions := by
  cases conditions with
  | nil => exact absurd rfl h
  | cons c rest => rfl

theorem joinerBehind_concat (joiner : Joiner) (before : List Condition) (c : Condition) :
    joinerBehind joiner (before ++ [c]) = c.joiner := by
  simp [joinerBehind]

/-- In front of the first condition nothing is decided, as behind one that holds and goes on with
`and`. -/
theorem skips_iff : Skips holds before ↔
    (joinerBehind .and before).decides (foldFrom holds true .and before) = true := by
  rcases List.eq_nil_or_concat before with rfl | ⟨front, previous, rfl⟩
  · simp [Skips, joinerBehind, foldFrom, Joiner.decides]
  · rw [List.concat_eq_append, joinerBehind_concat, ← fold_of_ne_nil (by simp)]
    simp only [Skips, List.getLast?_concat, Option.mem_some_iff, exists_eq_left']
    cases previous.joiner <;> simp [Joiner.decides]

/-! ## Joining as a fold -/

/-- The notes of the conditions that are not left out behind some others. -/
def notesBehind (verdict : Condition → Verdict) (before : List Condition) :
    List Condition → List Diagnostic
  | [] => []
  | c :: rest =>
    (if Skips (fun c ↦ (verdict c).holds) before then [] else (verdict c).notes) ++
      notesBehind verdict (before ++ [c]) rest

/-- What comes before the conditions enters by their outcome and their last joiner alone. -/
theorem combineFrom_eq_fold {verdict : Condition → Verdict}
    (h : ∀ c ∈ conditions, evaluate settings ruleId receipt c = .ok (verdict c))
    (before : List Condition) :
    combineFrom settings ruleId receipt (foldFrom (fun c ↦ (verdict c).holds) true .and before)
        (joinerBehind .and before) conditions =
      .ok ⟨foldFrom (fun c ↦ (verdict c).holds) true .and (before ++ conditions),
        notesBehind verdict before conditions⟩ := by
  induction conditions generalizing before with
  | nil => rw [List.append_nil]; rfl
  | cons c rest ih =>
    obtain ⟨hc, hrest⟩ := List.forall_mem_cons.mp h
    have ih := ih hrest (before ++ [c])
    rw [foldFrom_concat, joinerBehind_concat, List.append_assoc, List.singleton_append] at ih
    rw [notesBehind]
    cases hdecides : (joinerBehind .and before).decides
        (foldFrom (fun c ↦ (verdict c).holds) true .and before) with
    | true =>
      rw [Joiner.join_of_decides _ hdecides] at ih
      rw [combineFrom_of_decides hdecides, ih, if_pos (skips_iff.mpr hdecides), List.nil_append]
    | false =>
      have hopen : ¬ Skips (fun c ↦ (verdict c).holds) before := by
        rw [skips_iff, hdecides]
        decide
      rw [Joiner.join_of_open _ hdecides] at ih
      rw [combineFrom_of_open hdecides, hc, if_neg hopen]
      change behind (verdict c).notes (combineFrom _ _ _ (verdict c).holds c.joiner rest) = _
      rw [ih]
      rfl

theorem notesBehind_eq_flatMap (verdict : Condition → Verdict)
    (before conditions : List Condition) :
    notesBehind verdict before conditions =
      (conditions.zipIdx before.length).flatMap fun (c, i) ↦
        if Skips (fun c ↦ (verdict c).holds) ((before ++ conditions).take i) then []
        else (verdict c).notes := by
  induction conditions generalizing before with
  | nil => rfl
  | cons c rest ih =>
    rw [notesBehind, ih, List.zipIdx_cons, List.flatMap_cons, List.length_append,
      List.append_assoc]
    dsimp only
    rw [List.take_left]
    rfl

/-! ## The position that carries the outcome -/

/-- The joiner in front of the condition at a position, where one is given for the first. -/
def joinerBefore (start : Option Joiner) (conditions : List Condition) : Nat → Option Joiner
  | 0 => start
  | i + 1 => conditions[i]?.map Condition.joiner

/-- From a position on, every condition holds that is joined by `and`. -/
def HoldsFrom (holds : Condition → Bool) (start : Option Joiner) (conditions : List Condition)
    (i : Nat) : Prop :=
  ∀ j c, i ≤ j → conditions[j]? = some c → joinerBefore start conditions j = some .and →
    holds c = true

/-- The condition at a position holds and has none before it or is joined by `or`, and every later
one holds that is joined by `and`. -/
structure Carries (holds : Condition → Bool) (start : Option Joiner) (conditions : List Condition)
    (i : Nat) : Prop where
  here : ∃ c, conditions[i]? = some c ∧ holds c = true
  free : joinerBefore start conditions i = none ∨ joinerBefore start conditions i = some .or
  later : HoldsFrom holds start conditions (i + 1)

theorem joinerBefore_cons_succ (start : Option Joiner) (c : Condition) (rest : List Condition)
    (i : Nat) :
    joinerBefore start (c :: rest) (i + 1) = joinerBefore (some c.joiner) rest i := by
  cases i <;> rfl

theorem holdsFrom_cons_succ (start : Option Joiner) :
    HoldsFrom holds start (c :: rest) (i + 1) ↔ HoldsFrom holds (some c.joiner) rest i := by
  constructor
  · intro h j d hj hd hand
    rw [← joinerBefore_cons_succ start] at hand
    exact h (j + 1) d (by omega) hd hand
  · intro h j d hj hd hand
    obtain ⟨j, rfl⟩ : ∃ j', j = j' + 1 := ⟨j - 1, by omega⟩
    rw [joinerBefore_cons_succ] at hand
    exact h j d (by omega) hd hand

theorem holdsFrom_cons_zero : HoldsFrom holds start (c :: rest) 0 ↔
    (start = some .and → holds c = true) ∧ HoldsFrom holds (some c.joiner) rest 0 := by
  rw [← holdsFrom_cons_succ start]
  constructor
  · intro h
    exact ⟨h 0 c (Nat.le_refl 0) rfl, fun j d _ ↦ h j d (Nat.zero_le j)⟩
  · rintro ⟨hfirst, hrest⟩ j d - hd hand
    cases j with
    | zero =>
      cases hd
      exact hfirst hand
    | succ j => exact hrest (j + 1) d (by omega) hd hand

theorem carries_cons_succ :
    Carries holds start (c :: rest) (i + 1) ↔ Carries holds (some c.joiner) rest i := by
  constructor
  · rintro ⟨hc, hfree, hlater⟩
    rw [joinerBefore_cons_succ] at hfree
    exact ⟨hc, hfree, (holdsFrom_cons_succ start).mp hlater⟩
  · rintro ⟨hc, hfree, hlater⟩
    rw [← joinerBefore_cons_succ start] at hfree
    exact ⟨hc, hfree, (holdsFrom_cons_succ start).mpr hlater⟩

theorem carries_cons_zero : Carries holds start (c :: rest) 0 ↔
    holds c = true ∧ (start = none ∨ start = some .or) ∧
      HoldsFrom holds (some c.joiner) rest 0 := by
  rw [← holdsFrom_cons_succ start]
  constructor
  · rintro ⟨⟨d, hd, hholds⟩, hfree, hlater⟩
    cases hd
    exact ⟨hholds, hfree, hlater⟩
  · rintro ⟨hholds, hfree, hlater⟩
    exact ⟨⟨c, rfl, hholds⟩, hfree, hlater⟩

theorem exists_carries_cons : (∃ i, Carries holds start (c :: rest) i) ↔
    (holds c = true ∧ (start = none ∨ start = some .or) ∧
      HoldsFrom holds (some c.joiner) rest 0) ∨ ∃ i, Carries holds (some c.joiner) rest i := by
  rw [← carries_cons_zero]
  constructor
  · rintro ⟨_ | i, hi⟩
    · exact .inl hi
    · exact .inr ⟨i, carries_cons_succ.mp hi⟩
  · rintro (hi | ⟨i, hi⟩)
    · exact ⟨0, hi⟩
    · exact ⟨i + 1, carries_cons_succ.mpr hi⟩

/-- The outcome so far lasts to the end, or a later condition carries the outcome. -/
theorem foldFrom_eq_true_iff : foldFrom holds outcome joiner conditions = true ↔
    outcome = true ∧ HoldsFrom holds (some joiner) conditions 0 ∨
      ∃ i, Carries holds (some joiner) conditions i := by
  induction conditions generalizing outcome joiner with
  | nil =>
    have hnone : ¬ ∃ i, Carries holds (some joiner) [] i := by
      rintro ⟨i, ⟨c, hc, -⟩, -, -⟩
      cases hc
    simp [foldFrom, HoldsFrom, hnone]
  | cons c rest ih =>
    rw [foldFrom, ih, holdsFrom_cons_zero, exists_carries_cons]
    cases joiner with
    | and => simp [Joiner.join, and_assoc]
    | or => simp [Joiner.join, or_and_right, or_assoc]

theorem fold_eq_true_iff : fold holds conditions = true ↔ ∃ i, Carries holds none conditions i := by
  cases conditions with
  | nil =>
    refine iff_of_false Bool.false_ne_true ?_
    rintro ⟨i, ⟨c, hc, -⟩, -, -⟩
    cases hc
  | cons c rest => rw [fold, foldFrom_eq_true_iff, exists_carries_cons]; simp

/-! ## The last joiner -/

theorem memberOn_joiner {α : Type} {scale : Scale α} {left : α} (last : Joiner)
    (items : List String) :
    memberOn scale ruleId { c with joiner := last } left items =
      memberOn scale ruleId c left items := by
  induction items with
  | nil => rfl
  | cons item rest ih => simp only [memberOn, ih]

/-- A condition is evaluated without its joiner. -/
theorem evaluate_joiner (last : Joiner) :
    evaluate settings ruleId receipt { c with joiner := last } =
      evaluate settings ruleId receipt c := by
  have hlist (content : Content) : listVerdict settings ruleId { c with joiner := last } content =
      listVerdict settings ruleId c content := by
    simp only [listVerdict, listOn, memberOn_joiner]
    rfl
  have hverdict (content : Content) : verdictOn settings ruleId { c with joiner := last } content =
      verdictOn settings ruleId c content := by
    simp only [verdictOn, hlist]
    rfl
  simp only [evaluate, hverdict]

theorem combineFrom_concat (last : Joiner) :
    combineFrom settings ruleId receipt outcome joiner (before ++ [{ c with joiner := last }]) =
      combineFrom settings ruleId receipt outcome joiner (before ++ [c]) := by
  induction before generalizing outcome joiner with
  | nil => simp only [List.nil_append, combineFrom, evaluate_joiner]
  | cons b rest ih => simp only [List.cons_append, combineFrom, ih]

/-- The joiner of the last condition joins it to nothing. -/
theorem combine_concat (last : Joiner) :
    combine settings ruleId receipt (before ++ [{ c with joiner := last }]) =
      combine settings ruleId receipt (before ++ [c]) := by
  rw [combine_of_ne_nil (by simp), combine_of_ne_nil (by simp), combineFrom_concat]

/-- Where every condition can be evaluated, joining comes to the outcome of folding them all and
notes what the conditions note that are not left out; one position tells whether the outcome is
positive, and the joiner of the last condition does not matter. -/
theorem combine_refines_fold (verdict : Condition → Verdict)
    (h : ∀ c ∈ conditions, evaluate settings ruleId receipt c = .ok (verdict c)) :
    combine settings ruleId receipt conditions =
      .ok ⟨fold (fun c ↦ (verdict c).holds) conditions,
        conditions.zipIdx.flatMap fun (c, i) ↦
          if Skips (fun c ↦ (verdict c).holds) (conditions.take i) then []
          else (verdict c).notes⟩ ∧
    (fold (fun c ↦ (verdict c).holds) conditions = true ↔
      ∃ i, Carries (fun c ↦ (verdict c).holds) none conditions i) ∧
    ∀ (front : List Condition) (c : Condition) (last : Joiner), conditions = front ++ [c] →
      combine settings ruleId receipt (front ++ [{ c with joiner := last }]) =
        combine settings ruleId receipt conditions := by
  refine ⟨?_, fold_eq_true_iff, ?_⟩
  · by_cases hnil : conditions = []
    · rw [hnil]
      rfl
    · have hfold := combineFrom_eq_fold h []
      rw [notesBehind_eq_flatMap, List.nil_append, ← fold_of_ne_nil hnil] at hfold
      rw [combine_of_ne_nil hnil]
      exact hfold
  · rintro front c last rfl
    exact combine_concat last

/-- A bill of twenty for a taxi. -/
def taxiBill : Receipt := ⟨none, [("AMOUNT", .int 20), ("REMARKS", .text "taxi")]⟩

/-- The second of these cannot be decided, since its value is no number. -/
def taxiConditions : List Condition := [
  ⟨.remarks, .contains, "lunch", .and⟩, ⟨.amount, .greaterThan, "lots", .or⟩,
  ⟨.remarks, .contains, "taxi", .and⟩]

/-- What a condition says of the bill on its own. -/
def onTaxiBill (c : Condition) : Verdict :=
  match evaluate {} none taxiBill c with
  | .ok v => v
  | .error _ => ⟨false, []⟩

/-- The undecidable condition is left out, with its note, and the last one carries the outcome. -/
theorem combine_refines_fold_taxi :
    (∀ c ∈ taxiConditions, evaluate {} none taxiBill c = .ok (onTaxiBill c)) ∧
      (∃ c ∈ taxiConditions, (onTaxiBill c).notes ≠ []) ∧
      combine {} none taxiBill taxiConditions = .ok ⟨true, []⟩ ∧
      ∃ i, Carries (fun c ↦ (onTaxiBill c).holds) none taxiConditions i := by
  have heach : ∀ c ∈ taxiConditions, evaluate {} none taxiBill c = .ok (onTaxiBill c) := by
    decide +kernel
  have hfold : fold (fun c ↦ (onTaxiBill c).holds) taxiConditions = true := by decide +kernel
  obtain ⟨hcombine, hcarries, -⟩ := combine_refines_fold onTaxiBill heach
  refine ⟨heach, by decide +kernel, ?_, hcarries.mp hfold⟩
  rw [hcombine]
  decide +kernel

end Condition

end ReceiptRules
