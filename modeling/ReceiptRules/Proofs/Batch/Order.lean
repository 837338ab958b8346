import Mathlib.Data.List.FinRange
import ReceiptRules.Proofs.Batch.Numbering
import ReceiptRules.Proofs.Value.Entries

/-!
# The order of a batch

Classifying the receipts of a batch in another order changes nothing but which receipt gets which of
the numbers of its key: the outcomes are the same up to the numbers, as many of them are numbered, the
numbers as a whole are the same, the counters end up in the same place and all sums agree.
-/

namespace ReceiptRules.Batch

open ArchiveNumber

variable {settings : Settings} {occasion : Directive.Occasion} {rules : List Rule}
  {counters moved : Option Counters}

/-! ## How often rules win -/

theorem lookup_foldl_countWin (ids : List String) (counts : List (String × Nat)) (id : String) :
    (ids.foldl countWin counts).lookup id =
      if ids.count id = 0 then counts.lookup id
      else some ((counts.lookup id).getD 0 + ids.count id) := by
  induction ids generalizing counts with
  | nil => rfl
  | cons first rest ih =>
    rw [List.foldl_cons, ih, countWin, Value.lookup_insert]
    by_cases h : id = first
    · subst h
      have hsum (n : Nat) : n + 1 + rest.count id = n + (rest.count id + 1) := by omega
      rw [if_pos rfl, List.count_cons_self, if_neg (Nat.succ_ne_zero _), Option.getD_some]
      split
      · next hzero => rw [hzero]
      · rw [hsum]
    · rw [if_neg h, List.count_cons_of_ne (Ne.symm h)]

theorem lookup_wins (outcomes : List Outcome) (id : String) :
    (wins outcomes).lookup id =
      if (outcomes.filterMap Outcome.ruleId).count id = 0 then none
      else some ((outcomes.filterMap Outcome.ruleId).count id) := by
  rw [wins, lookup_foldl_countWin, List.lookup_nil, Option.getD_none, Nat.zero_add]

/-! ## Sums -/

/-- What a report says about the batch as a whole. -/
structure SameSums (r r' : Report) : Prop where
  ruleCount : r'.ruleCount = r.ruleCount
  matched : r'.matched = r.matched
  unmatched : r'.unmatched = r.unmatched
  byRule : ∀ id, r'.byRule.lookup id = r.byRule.lookup id
  noteCount : r'.noteCount = r.noteCount

variable (batchId : String) (now : Timestamp) (rules)

theorem report_map_withNumber (outcomes : List Outcome) :
    report batchId now rules (outcomes.map fun o ↦ o.withNumber none) =
      { report batchId now rules outcomes with
        outcomes := outcomes.map fun o ↦ o.withNumber none } := by
  simp only [report, wins, List.filter_map, List.filterMap_map, List.flatMap_map, List.length_map]
  rfl

theorem sameSums_of_perm {outcomes outcomes' : List Outcome} (h : outcomes'.Perm outcomes) :
    SameSums (report batchId now rules outcomes) (report batchId now rules outcomes') where
  ruleCount := rfl
  matched := (h.filter _).length_eq
  unmatched := (h.filter _).length_eq
  byRule id := by
    simp only [report, lookup_wins, (h.filterMap Outcome.ruleId).count_eq]
  noteCount := (h.flatMap_right _).length_eq

theorem sameSums_of_withNumber_perm {outcomes outcomes' : List Outcome}
    (h : (outcomes'.map fun o ↦ o.withNumber none).Perm
      (outcomes.map fun o ↦ o.withNumber none)) :
    SameSums (report batchId now rules outcomes) (report batchId now rules outcomes') := by
  have hsums := sameSums_of_perm rules batchId now h
  rw [report_map_withNumber, report_map_withNumber] at hsums
  exact ⟨hsums.ruleCount, hsums.matched, hsums.unmatched, hsums.byRule, hsums.noteCount⟩

/-! ## Batches as families -/

theorem forall₂_ofFn_left_iff {α β : Type} {R : α → β → Prop} {n : Nat} {f : Fin n → α}
    {items : List β} :
    List.Forall₂ R (List.ofFn f) items ↔ ∃ g, (∀ i, R (f i) (g i)) ∧ items = List.ofFn g := by
  constructor
  · intro h
    have hlength : n = items.length := by simpa using h.length_eq
    subst hlength
    refine ⟨items.get, fun i ↦ ?_, (List.ofFn_get items).symm⟩
    simpa using h.get (by simp) i.isLt
  · rintro ⟨g, hg, rfl⟩
    rw [List.forall₂_iff_get]
    exact ⟨by simp, fun i hi _ ↦ by simpa using hg ⟨i, by simpa using hi⟩⟩

/-! ## Another order -/

/-- Outcomes that may differ in their numbers, but not in whether they have one. -/
structure SameButNumber (o o' : Outcome) : Prop where
  withNumber : o'.withNumber none = o.withNumber none
  isSome : o'.number.isSome = o.number.isSome

/-- Reports on a batch and on its receipts in another order. -/
structure Reordered {n : Nat} (σ : Equiv.Perm (Fin n)) (r r' : Report) : Prop where
  outcomes : ∃ outcome outcome' : Fin n → Outcome, r.outcomes = List.ofFn outcome ∧
    r'.outcomes = List.ofFn outcome' ∧ ∀ i, SameButNumber (outcome (σ i)) (outcome' i)
  numbers : r'.numbers.Perm r.numbers
  sums : SameSums r r'

/-- Outlines in another order are numbered in the same places. -/
theorem exists_sameButNumber {n : Nat} {outline : Fin n → Outcome} (counters : Option Counters)
    (σ : Equiv.Perm (Fin n)) (h : ∀ o ∈ List.ofFn outline, o.number = none) :
    ∃ outcome outcome' : Fin n → Outcome,
      numberAll counters (List.ofFn outline) = List.ofFn outcome ∧
      numberAll counters (List.ofFn (outline ∘ σ)) = List.ofFn outcome' ∧
      ∀ i, SameButNumber (outcome (σ i)) (outcome' i) := by
  have h' : ∀ o ∈ List.ofFn (outline ∘ σ), o.number = none := fun o ho ↦
    h o ((σ.ofFn_comp_perm outline).mem_iff.mp ho)
  obtain ⟨outcome, hnumbered, heq⟩ := forall₂_ofFn_left_iff.mp (numbered_numberAll counters h)
  obtain ⟨outcome', hnumbered', heq'⟩ := forall₂_ofFn_left_iff.mp (numbered_numberAll counters h')
  refine ⟨outcome, outcome', heq, heq', fun i ↦ ⟨?_, ?_⟩⟩
  · calc (outcome' i).withNumber none = outline (σ i) := (hnumbered' i).withNumber
      _ = (outcome (σ i)).withNumber none := (hnumbered (σ i)).withNumber.symm
  · calc (outcome' i).number.isSome
        = (counters.isSome && (outline (σ i)).request.isSome) := (hnumbered' i).isSome
      _ = (outcome (σ i)).number.isSome := (hnumbered (σ i)).isSome.symm

/-- Requests in another order get the same numbers as a whole. -/
theorem filterMap_number_perm {outlines outlines' : List Outcome} (counters : Option Counters)
    (h : ∀ o ∈ outlines, o.number = none) (hperm : outlines'.Perm outlines) :
    ((numberAll counters outlines').filterMap Outcome.number).Perm
      ((numberAll counters outlines).filterMap Outcome.number) := by
  have h' : ∀ o ∈ outlines', o.number = none := fun o ho ↦ h o (hperm.mem_iff.mp ho)
  have hrequests : (requests outlines').Perm (requests outlines) := hperm.filterMap _
  rw [filterMap_number_numberAll counters h, filterMap_number_numberAll counters h']
  cases counters with
  | none => exact .refl _
  | some c => exact c.numbersOf_perm hrequests

variable {rules}

/-- A batch that succeeds does so in every order of its receipts, and the reports differ in no more
than in which receipt has which number. -/
theorem run_comp_perm {n : Nat} {fresh : Nat} (receipt : Fin n → Receipt) (σ : Equiv.Perm (Fin n))
    {r : Report}
    (h : run settings occasion now fresh rules (List.ofFn receipt) counters = (.ok r, moved)) :
    ∃ r' moved',
      run settings occasion now fresh rules (List.ofFn (receipt ∘ σ)) counters = (.ok r', moved') ∧
      Reordered σ r r' ∧
      ∀ key, moved'.map (fun c ↦ c.current key) = moved.map fun c ↦ c.current key := by
  obtain ⟨outcomes, hall, rfl⟩ := run_eq_ok_iff.mp h
  obtain ⟨outlines, houtlines, hwritable, rfl, rfl⟩ := classifyAll_eq_ok_iff.mp hall
  have hnone := houtlines.number_eq_none
  obtain ⟨outline, hplain, rfl⟩ := forall₂_ofFn_left_iff.mp houtlines
  -- The receipts have the same outlines in the other order, so their requests are the same ones.
  have houtlines' : Outlines settings occasion rules (List.ofFn (receipt ∘ σ))
      (List.ofFn (outline ∘ σ)) := forall₂_ofFn_left_iff.mpr ⟨_, fun i ↦ hplain (σ i), rfl⟩
  have hnone' := houtlines'.number_eq_none
  have hperm : (List.ofFn (outline ∘ σ)).Perm (List.ofFn outline) := σ.ofFn_comp_perm outline
  have hrequests : (requests (List.ofFn (outline ∘ σ))).Perm (requests (List.ofFn outline)) :=
    hperm.filterMap _
  have hwritable' : ∀ c, counters = some c → c.Writable (requests (List.ofFn (outline ∘ σ))) :=
    fun c hc ↦ (hwritable c hc).of_perm hrequests
  have hall' := classifyAll_eq_ok_iff.mpr ⟨_, houtlines', hwritable', rfl, rfl⟩
  refine ⟨_, _, run_eq_ok_iff.mpr ⟨_, hall', rfl⟩, ⟨?_, ?_, ?_⟩, ?_⟩
  · exact exists_sameButNumber counters σ hnone
  · exact filterMap_number_perm counters hnone hperm
  · apply sameSums_of_withNumber_perm
    rw [map_withNumber_numberAll _ hnone, map_withNumber_numberAll _ hnone']
    exact hperm
  · intro key
    cases counters with
    | none => rfl
    | some c =>
      simp only [Option.map_some, Counters.current_advanceAll, hrequests.count_eq]

def numberUnmatched : Settings := { unmatchedNumbered := true }

def july : Directive.Occasion := ⟨none, ⟨2024, 7, 15, by decide⟩⟩

/-- A rule that asks for a number for receipts over more than ten. -/
def dearRule : Rule where
  id := "DEAR"
  name := "Dear"
  conditions := [⟨.amount, .greaterThan, "10", .and⟩]
  actions := [⟨.generateArchiveNumber, ""⟩]
  createdAt := .midnight july.day
  updatedAt := .midnight july.day

/-- The rule wins the second receipt and leaves a note on the third. Only the first receipt has a date
of its own, in the month before. -/
def threeReceipts : Fin 3 → Receipt
  | 0 => ⟨some "A", [("DATE", .date ⟨2024, 6, 30, by decide⟩)]⟩
  | 1 => ⟨some "B", [("AMOUNT", .int 12)]⟩
  | 2 => ⟨some "C", [("AMOUNT", .text "a lot")]⟩

/-- A run in July that starts without any numbers. -/
def julyRun (receipts : List Receipt) : Except Failure Report × Option Counters :=
  run numberUnmatched july (.midnight july.day) 1 [dearRule] receipts (some .empty)

theorem run_comp_perm_threeReceipts :
    ∃ r moved r' moved',
      julyRun (List.ofFn threeReceipts) = (.ok r, moved) ∧
      (r.byRule, r.noteCount, r.outcomes.map Outcome.number) = ([("DEAR", 1)], 1,
        [some "2024-06-OTH-0001", some "2024-07-OTH-0001", some "2024-07-OTH-0002"]) ∧
      julyRun (List.ofFn (threeReceipts ∘ Equiv.swap (0 : Fin 3) 2)) = (.ok r', moved') ∧
      Reordered (Equiv.swap (0 : Fin 3) 2) r r' ∧
      ∀ key, moved'.map (fun c ↦ c.current key) = moved.map fun c ↦ c.current key := by
  have hfigures : (julyRun (List.ofFn threeReceipts)).1.map (fun r ↦
      (r.byRule, r.noteCount, r.outcomes.map Outcome.number)) = .ok ([("DEAR", 1)], 1,
        [some "2024-06-OTH-0001", some "2024-07-OTH-0001", some "2024-07-OTH-0002"]) := by
    decide +kernel
  rcases hrun : julyRun (List.ofFn threeReceipts) with ⟨result, moved⟩
  rw [hrun] at hfigures
  obtain ⟨r, rfl, hreport⟩ := Except.map_eq_ok_iff.mp hfigures
  obtain ⟨r', moved', hrun', hreordered, hcurrent⟩ :=
    run_comp_perm (.midnight july.day) threeReceipts (Equiv.swap 0 2) hrun
  exact ⟨r, moved, r', moved', rfl, hreport, hrun', hreordered, hcurrent⟩

end ReceiptRules.Batch
