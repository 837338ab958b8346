import ReceiptRules.Engine
import ReceiptRules.Proofs.ArchiveNumber.Counting
import ReceiptRules.Proofs.Directive.Request

/-!
# Classification and numbering

A classification falls into two parts: an outcome without a number, on which the counters have no
influence, and the number that the counters give for the request on it. The number comes last, and
it is the only thing that the counters decide, apart from the failure to write it.
-/

namespace ReceiptRules

open ArchiveNumber Text

namespace Outcome

/-- The key for which the outcome asks a number. -/
def request (o : Outcome) : Option NumberKey := o.directive.bind Directive.numberRequest

def number (o : Outcome) : Option String := o.directive.bind Directive.archiveNumber

/-- The outcome with another number on its directive. -/
def withNumber (o : Outcome) (number : Option String) : Outcome :=
  { o with directive := o.directive.map fun d ↦ { d with archiveNumber := number } }

@[simp] theorem request_withNumber (o : Outcome) (number : Option String) :
    (o.withNumber number).request = o.request := by
  obtain ⟨_, _, _, _, _ | d, _⟩ := o <;> rfl

theorem number_withNumber {o : Outcome} {key : NumberKey} (h : o.request = some key)
    (number : Option String) : (o.withNumber number).number = number := by
  obtain ⟨_, _, _, _, _ | d, _⟩ := o
  · cases h
  · rfl

@[simp] theorem withNumber_withNumber (o : Outcome) (number number' : Option String) :
    (o.withNumber number).withNumber number' = o.withNumber number' := by
  obtain ⟨_, _, _, _, _ | d, _⟩ := o <;> rfl

theorem withNumber_number (o : Outcome) : o.withNumber o.number = o := by
  obtain ⟨_, _, _, _, _ | d, _⟩ := o <;> rfl

end Outcome

namespace Engine

variable {settings : Settings} {occasion : Directive.Occasion} {rules : List Rule}
  {receipt : Receipt}

/-- The outcome of a classification that leaves requests for numbers alone. -/
def unnumbered (settings : Settings) (occasion : Directive.Occasion) (rules : List Rule)
    (receipt : Receipt) : Except Failure Outcome :=
  (classify settings occasion rules receipt none).1

/-- Gives an outcome the number that it asks for. -/
def numberOutcome (c : Counters) (o : Outcome) : Except Failure Outcome × Counters :=
  match o.request with
  | none => (.ok o, c)
  | some key =>
    (if WholeNumber.writable (c.current key + 1 : Nat) then
        .ok (o.withNumber (some (format key (c.current key + 1 : Nat))))
      else .error .unwritableSerial, c.advance key)

/-! ## Building outcomes -/

/-- Outcomes carry the directive that they are built from, and its number nowhere else. -/
structure Carries (build : Directive → Outcome) : Prop where
  directive : ∀ d, (build d).directive = some d
  withNumber : ∀ d number,
    (build d).withNumber number = build { d with archiveNumber := number }

theorem carries_matchedOutcome (receipt : Receipt) (r : Rule) (notes : List Diagnostic) :
    Carries (matchedOutcome receipt r notes) := ⟨fun _ ↦ rfl, fun _ _ ↦ rfl⟩

theorem carries_unmatchedOutcome (receipt : Receipt) (notes : List Diagnostic) :
    Carries fun d ↦ unmatchedOutcome receipt notes (some d) := ⟨fun _ ↦ rfl, fun _ _ ↦ rfl⟩

theorem Carries.request {build : Directive → Outcome} (h : Carries build) (d : Directive) :
    (build d).request = d.numberRequest := by
  simp [Outcome.request, h.directive]

theorem Carries.number {build : Directive → Outcome} (h : Carries build) (d : Directive) :
    (build d).number = d.archiveNumber := by
  simp [Outcome.number, h.directive]

theorem finish_some {build : Directive → Outcome} (hbuild : Carries build) {d : Directive}
    (hd : d.archiveNumber = none) (c : Counters) :
    finish (some c) build d = ((numberOutcome c (build d)).1, some (numberOutcome c (build d)).2) := by
  have hnumber : d.hasNumber = false := by simp [Directive.hasNumber, hd]
  unfold numberOutcome
  rw [hbuild.request]
  cases hkey : d.numberRequest with
  | none => simp [finish, numbered, Directive.assignNumber, hkey, Except.map]
  | some key =>
    simp only [finish, numbered, Directive.assignNumber, hkey, hnumber, Counters.next, write?,
      hbuild.withNumber, Bool.false_eq_true, if_false]
    by_cases hw : WholeNumber.writable (c.current key + 1 : Nat) = true
    · simp only [if_pos hw, Except.map]
    · simp only [if_neg hw, Except.map]

/-! ## One classification -/

/-- How a classification comes out: it fails, it has no directive, or a directive is settled by
actions and carried by the outcome. -/
inductive Settled (settings : Settings) :
    (Option Counters → Except Failure Outcome × Option Counters) → Prop
  | failed (e : Failure) : Settled settings fun counters ↦ (.error e, counters)
  | bare (o : Outcome) (h : o.directive = none) : Settled settings fun counters ↦ (.ok o, counters)
  | directed (build : Directive → Outcome) (d : Directive) (hbuild : Carries build)
    (hd : d.archiveNumber = none)
    (hkey : ∀ key, d.numberRequest = some key → Directive.IsRequest settings key) :
    Settled settings fun counters ↦ finish counters build d

theorem classify_settled (settings : Settings) (occasion : Directive.Occasion) (rules : List Rule)
    (receipt : Receipt) : Settled settings (classify settings occasion rules receipt) := by
  unfold classify
  rcases Rule.resolve settings receipt rules with e | ⟨_ | r, notes⟩
  · exact .failed e
  · cases defaultActions settings with
    | nil => exact .bare (unmatchedOutcome receipt notes none) rfl
    | cons a rest =>
      cases hd : Directive.apply settings none (some receipt) none occasion (a :: rest) with
      | error e =>
        simp only [hd]
        exact .failed e
      | ok d =>
        simp only [hd]
        obtain ⟨hnumber, hkey⟩ := Directive.apply_unnumbered hd
        exact .directed _ d (carries_unmatchedOutcome receipt notes) hnumber hkey
  · cases hd : Directive.apply settings (some r.id) (some receipt) none occasion r.actions with
    | error e =>
      simp only [hd]
      exact .failed e
    | ok d =>
      simp only [hd]
      obtain ⟨hnumber, hkey⟩ := Directive.apply_unnumbered hd
      exact .directed _ d (carries_matchedOutcome receipt r notes) hnumber hkey

theorem classify_none (settings : Settings) (occasion : Directive.Occasion) (rules : List Rule)
    (receipt : Receipt) :
    classify settings occasion rules receipt none =
      (unnumbered settings occasion rules receipt, none) := by
  have hsettled := classify_settled settings occasion rules receipt
  unfold unnumbered
  generalize classify settings occasion rules receipt = result at *
  cases hsettled <;> rfl

/-- The counters act on the outcome without a number, and on nothing before it. -/
theorem classify_some (settings : Settings) (occasion : Directive.Occasion) (rules : List Rule)
    (receipt : Receipt) (c : Counters) :
    classify settings occasion rules receipt (some c) =
      match unnumbered settings occasion rules receipt with
      | .error e => (.error e, some c)
      | .ok o => ((numberOutcome c o).1, some (numberOutcome c o).2) := by
  have hsettled := classify_settled settings occasion rules receipt
  unfold unnumbered
  generalize classify settings occasion rules receipt = result at *
  cases hsettled with
  | failed e => rfl
  | bare o h => simp [numberOutcome, Outcome.request, h]
  | directed build d hbuild hd hkey => exact finish_some hbuild hd c

theorem unnumbered_eq_ok {o : Outcome} (h : unnumbered settings occasion rules receipt = .ok o) :
    o.number = none ∧ ∀ key, o.request = some key → Directive.IsRequest settings key := by
  have hsettled := classify_settled settings occasion rules receipt
  unfold unnumbered at h
  generalize classify settings occasion rules receipt = result at *
  cases hsettled with
  | failed e => cases h
  | bare o' hbare =>
    cases h
    simp [Outcome.number, Outcome.request, hbare]
  | directed build d hbuild hd hkey =>
    cases h
    rw [hbuild.number, hbuild.request]
    exact ⟨hd, hkey⟩

end Engine

end ReceiptRules
