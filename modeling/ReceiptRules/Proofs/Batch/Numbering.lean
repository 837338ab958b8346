import Mathlib.Data.List.Forall2
import ReceiptRules.Batch
import ReceiptRules.Proofs.Engine.Numbering

/-!
# Numbering a batch

A batch comes out as the outcomes of its receipts without numbers, on which the receipts have no
influence one on another, and the numbers for the requests on them, given in the order of the batch.
-/

namespace ReceiptRules

open ArchiveNumber Text

/-- The archive numbers that a batch has given out. -/
def Report.numbers (r : Report) : List String := r.outcomes.filterMap Outcome.number

namespace Batch

variable {settings : Settings} {occasion : Directive.Occasion} {rules : List Rule}
  {receipts : List Receipt} {outlines outcomes : List Outcome} {counters moved : Option Counters}

/-- The keys for which outcomes ask numbers. -/
def requests (outcomes : List Outcome) : List NumberKey := outcomes.filterMap Outcome.request

/-- The outcomes of receipts that leave requests for numbers alone. -/
def Outlines (settings : Settings) (occasion : Directive.Occasion) (rules : List Rule) :
    List Receipt → List Outcome → Prop :=
  List.Forall₂ fun receipt o ↦ Engine.unnumbered settings occasion rules receipt = .ok o

/-- Gives the outcomes that ask for numbers those behind the counters. -/
def numberFrom (c : Counters) : List Outcome → List Outcome
  | [] => []
  | o :: rest =>
    match o.request with
    | none => o :: numberFrom c rest
    | some key =>
      o.withNumber (some (format key (c.current key + 1 : Nat))) :: numberFrom (c.advance key) rest

/-- Without counters the outcomes stay as they are. -/
def numberAll : Option Counters → List Outcome → List Outcome
  | none, outcomes => outcomes
  | some c, outcomes => numberFrom c outcomes

/-! ## Outcomes with numbers -/

theorem Outlines.exists_unnumbered (h : Outlines settings occasion rules receipts outlines) :
    ∀ o ∈ outlines, ∃ receipt, Engine.unnumbered settings occasion rules receipt = .ok o := by
  induction h with
  | nil => simp
  | @cons receipt o receipts outlines hplain hrest ih =>
    exact List.forall_mem_cons.mpr ⟨⟨receipt, hplain⟩, ih⟩

theorem Outlines.number_eq_none (h : Outlines settings occasion rules receipts outlines) :
    ∀ o ∈ outlines, o.number = none := by
  intro o ho
  obtain ⟨receipt, hplain⟩ := h.exists_unnumbered o ho
  exact (Engine.unnumbered_eq_ok hplain).1

theorem Outlines.isRequest (h : Outlines settings occasion rules receipts outlines) :
    ∀ key ∈ requests outlines, Directive.IsRequest settings key := by
  intro key hkey
  obtain ⟨o, ho, hrequest⟩ := List.mem_filterMap.mp hkey
  obtain ⟨receipt, hplain⟩ := h.exists_unnumbered o ho
  exact (Engine.unnumbered_eq_ok hplain).2 key hrequest

/-- An outcome is an outline with a number put on where the outline asks for one, if there are
counters at all. -/
structure Numbered (counted : Bool) (outline o : Outcome) : Prop where
  withNumber : o.withNumber none = outline
  isSome : o.number.isSome = (counted && outline.request.isSome)

theorem numbered_withNumber {outline : Outcome} {key : NumberKey} (hrequest : outline.request = some key)
    (hnone : outline.number = none) (number : String) :
    Numbered true outline (outline.withNumber (some number)) := by
  constructor
  · rw [Outcome.withNumber_withNumber, ← hnone, Outcome.withNumber_number]
  · rw [Outcome.number_withNumber hrequest, hrequest]
    rfl

theorem numbered_self {counted : Bool} {o : Outcome} (hnone : o.number = none)
    (hrequest : counted = true → o.request = none) : Numbered counted o o := by
  constructor
  · rw [← hnone, Outcome.withNumber_number]
  · cases counted with
    | false => rw [hnone]; rfl
    | true => rw [hnone, hrequest rfl]; rfl

theorem numbered_numberFrom (c : Counters) (h : ∀ o ∈ outlines, o.number = none) :
    List.Forall₂ (Numbered true) outlines (numberFrom c outlines) := by
  induction outlines generalizing c with
  | nil => exact .nil
  | cons o rest ih =>
    obtain ⟨hnone, hrest⟩ := List.forall_mem_cons.mp h
    unfold numberFrom
    cases hrequest : o.request with
    | none => exact .cons (numbered_self hnone fun _ ↦ hrequest) (ih c hrest)
    | some key => exact .cons (numbered_withNumber hrequest hnone _) (ih (c.advance key) hrest)

theorem numbered_numberAll (counters : Option Counters) (h : ∀ o ∈ outlines, o.number = none) :
    List.Forall₂ (Numbered counters.isSome) outlines (numberAll counters outlines) := by
  cases counters with
  | none =>
    refine List.forall₂_same.mpr fun o ho ↦ ?_
    exact numbered_self (h o ho) fun hcounted ↦ nomatch hcounted
  | some c => exact numbered_numberFrom c h

theorem map_withNumber_numberAll (counters : Option Counters)
    (h : ∀ o ∈ outlines, o.number = none) :
    (numberAll counters outlines).map (fun o ↦ o.withNumber none) = outlines := by
  have hnumbered := numbered_numberAll counters h
  generalize numberAll counters outlines = outcomes at *
  clear h
  induction hnumbered with
  | nil => rfl
  | cons hfirst _ ih => rw [List.map_cons, hfirst.withNumber, ih]

theorem filterMap_number_numberFrom (c : Counters) (h : ∀ o ∈ outlines, o.number = none) :
    (numberFrom c outlines).filterMap Outcome.number = c.numbersOf (requests outlines) := by
  induction outlines generalizing c with
  | nil => rfl
  | cons o rest ih =>
    obtain ⟨hnone, hrest⟩ := List.forall_mem_cons.mp h
    unfold numberFrom requests
    cases hrequest : o.request with
    | none =>
      rw [List.filterMap_cons_none hnone, List.filterMap_cons_none hrequest]
      exact ih c hrest
    | some key =>
      rw [List.filterMap_cons_some (Outcome.number_withNumber hrequest _),
        List.filterMap_cons_some hrequest, ih (c.advance key) hrest]
      rfl

/-! ## Classifying one receipt after the other -/

theorem classifyAll_cons_eq_ok_iff {receipt : Receipt} :
    classifyAll settings occasion rules (receipt :: receipts) counters = (.ok outcomes, moved) ↔
      ∃ o rest next, Engine.classify settings occasion rules receipt counters = (.ok o, next) ∧
        classifyAll settings occasion rules receipts next = (.ok rest, moved) ∧
        outcomes = o :: rest := by
  rw [classifyAll]
  rcases Engine.classify settings occasion rules receipt counters with ⟨e | o, next⟩
  · simp
  · rcases hrest : classifyAll settings occasion rules receipts next with ⟨e | rest, moved'⟩
    · simp [hrest, Except.map]
    · simp [hrest, Except.map, and_comm, eq_comm]

/-- What classifying settles about one receipt and its outcome holds throughout a batch. -/
theorem forall₂_of_classifyAll {R : Receipt → Outcome → Prop}
    (hR : ∀ {receipt o counters moved},
      Engine.classify settings occasion rules receipt counters = (.ok o, moved) → R receipt o)
    (h : classifyAll settings occasion rules receipts counters = (.ok outcomes, moved)) :
    List.Forall₂ R receipts outcomes := by
  induction receipts generalizing outcomes counters with
  | nil =>
    cases h
    exact .nil
  | cons receipt rest ih =>
    obtain ⟨o, others, next, hfirst, hrest, rfl⟩ := classifyAll_cons_eq_ok_iff.mp h
    exact .cons (hR hfirst) (ih hrest)

theorem classifyAll_none_eq_ok_iff :
    classifyAll settings occasion rules receipts none = (.ok outcomes, moved) ↔
      Outlines settings occasion rules receipts outcomes ∧ moved = none := by
  induction receipts generalizing outcomes with
  | nil => simp [classifyAll, Outlines, eq_comm]
  | cons receipt rest ih =>
    rw [classifyAll_cons_eq_ok_iff]
    simp only [Engine.classify_none, Prod.mk.injEq, Outlines, List.forall₂_cons_left_iff]
    constructor
    · rintro ⟨o, others, next, ⟨hplain, rfl⟩, hrest, rfl⟩
      obtain ⟨houtlines, rfl⟩ := ih.mp hrest
      exact ⟨⟨o, others, hplain, houtlines, rfl⟩, rfl⟩
    · rintro ⟨⟨o, others, hplain, houtlines, rfl⟩, rfl⟩
      exact ⟨o, others, none, ⟨hplain, rfl⟩, ih.mpr ⟨houtlines, rfl⟩, rfl⟩

/-- What the counters make of one outline, as the start of what they make of a batch. -/
theorem classify_some_eq_ok_iff {receipt : Receipt} {c : Counters} {o : Outcome}
    {next : Option Counters} :
    Engine.classify settings occasion rules receipt (some c) = (.ok o, next) ↔
      ∃ outline, Engine.unnumbered settings occasion rules receipt = .ok outline ∧
        c.Writable outline.request.toList ∧ [o] = numberFrom c [outline] ∧
        next = some (c.advanceAll outline.request.toList) := by
  rw [Engine.classify_some]
  cases Engine.unnumbered settings occasion rules receipt with
  | error e => simp
  | ok outline =>
    simp only [Except.ok.injEq, exists_eq_left', Prod.mk.injEq, Engine.numberOutcome, numberFrom]
    cases outline.request with
    | none => simp [eq_comm]
    | some key =>
      rw [Option.toList_some, Counters.writable_cons_iff]
      by_cases hw : WholeNumber.writable (c.current key + 1 : Nat) = true
      · simp only [hw]
        simp [eq_comm]
      · dsimp only
        rw [if_neg hw]
        simp only [hw, reduceCtorEq, false_and]

theorem requests_cons (o : Outcome) (outcomes : List Outcome) :
    requests (o :: outcomes) = o.request.toList ++ requests outcomes := by
  rw [requests, List.filterMap_cons]
  cases o.request <;> rfl

theorem numberFrom_cons (c : Counters) (o : Outcome) (outcomes : List Outcome) :
    numberFrom c (o :: outcomes) =
      numberFrom c [o] ++ numberFrom (c.advanceAll o.request.toList) outcomes := by
  simp only [numberFrom]
  cases o.request <;> rfl

theorem classifyAll_some_eq_ok_iff {c : Counters} :
    classifyAll settings occasion rules receipts (some c) = (.ok outcomes, moved) ↔
      ∃ outlines, Outlines settings occasion rules receipts outlines ∧
        c.Writable (requests outlines) ∧ outcomes = numberFrom c outlines ∧
        moved = some (c.advanceAll (requests outlines)) := by
  induction receipts generalizing outcomes c with
  | nil =>
    simp only [classifyAll, Outlines, List.forall₂_nil_left_iff, exists_eq_left, Prod.mk.injEq]
    simp [requests, numberFrom, eq_comm]
  | cons receipt rest ih =>
    rw [classifyAll_cons_eq_ok_iff]
    simp only [Outlines, List.forall₂_cons_left_iff]
    constructor
    · rintro ⟨o, others, next, hfirst, hrest, rfl⟩
      obtain ⟨outline, hplain, hw, ho, rfl⟩ := classify_some_eq_ok_iff.mp hfirst
      obtain ⟨outlines, houtlines, hws, rfl, rfl⟩ := ih.mp hrest
      refine ⟨outline :: outlines, ⟨outline, outlines, hplain, houtlines, rfl⟩, ?_, ?_, ?_⟩
      · rw [requests_cons, Counters.writable_append_iff]
        exact ⟨hw, hws⟩
      · rw [numberFrom_cons, ← ho]
        rfl
      · rw [requests_cons, Counters.advanceAll_append]
    · rintro ⟨_, ⟨outline, outlines, hplain, houtlines, rfl⟩, hws, rfl, rfl⟩
      rw [requests_cons, Counters.writable_append_iff] at hws
      obtain ⟨o, ho⟩ : ∃ o, [o] = numberFrom c [outline] := by
        simp only [numberFrom]
        cases outline.request <;> exact ⟨_, rfl⟩
      refine ⟨o, numberFrom (c.advanceAll outline.request.toList) outlines, _,
        classify_some_eq_ok_iff.mpr ⟨outline, hplain, hws.1, ho, rfl⟩,
        ih.mpr ⟨outlines, houtlines, hws.2, rfl, ?_⟩, ?_⟩
      · rw [requests_cons, Counters.advanceAll_append]
      · rw [numberFrom_cons, ← ho]
        rfl

theorem classifyAll_eq_ok_iff :
    classifyAll settings occasion rules receipts counters = (.ok outcomes, moved) ↔
      ∃ outlines, Outlines settings occasion rules receipts outlines ∧
        (∀ c, counters = some c → c.Writable (requests outlines)) ∧
        outcomes = numberAll counters outlines ∧
        moved = counters.map fun c ↦ c.advanceAll (requests outlines) := by
  cases counters with
  | none => simp [classifyAll_none_eq_ok_iff, numberAll]
  | some c => simp [classifyAll_some_eq_ok_iff, numberAll]

theorem filterMap_number_numberAll (counters : Option Counters)
    (h : ∀ o ∈ outlines, o.number = none) :
    (numberAll counters outlines).filterMap Outcome.number =
      counters.elim [] fun c ↦ c.numbersOf (requests outlines) := by
  cases counters with
  | none => exact List.filterMap_eq_nil_iff.mpr h
  | some c => exact filterMap_number_numberFrom c h

/-! ## Runs -/

theorem run_eq_ok_iff {now : Timestamp} {fresh : Nat} {r : Report} :
    run settings occasion now fresh rules receipts counters = (.ok r, moved) ↔
      ∃ outcomes, classifyAll settings occasion rules receipts counters = (.ok outcomes, moved) ∧
        r = report (Identity.batchId fresh) now rules outcomes := by
  rw [run]
  rcases classifyAll settings occasion rules receipts counters with ⟨e | outcomes, moved'⟩
  · simp [Except.map]
  · simp [Except.map, and_comm, eq_comm]

/-- The numbers of a batch are those that the counters give for requests under the settings. -/
theorem numbers_of_run {now : Timestamp} {fresh : Nat} {r : Report} {c : Counters}
    (h : run settings occasion now fresh rules receipts (some c) = (.ok r, moved)) :
    ∃ keys, (∀ key ∈ keys, Directive.IsRequest settings key) ∧ c.Writable keys ∧
      r.numbers = c.numbersOf keys := by
  obtain ⟨outcomes, hall, rfl⟩ := run_eq_ok_iff.mp h
  obtain ⟨outlines, houtlines, hwritable, rfl, rfl⟩ := classifyAll_some_eq_ok_iff.mp hall
  exact ⟨requests outlines, houtlines.isRequest, hwritable,
    filterMap_number_numberFrom c houtlines.number_eq_none⟩

end Batch

end ReceiptRules
