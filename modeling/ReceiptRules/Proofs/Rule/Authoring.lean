import ReceiptRules.Proofs.Condition.Failures
import ReceiptRules.Proofs.Store.Steps

/-!
# Checks that stop

Checking a rule gives a list of its problems, unless a condition stops the check. There are three
causes: a list without a separator to split it by, a pattern that is refused although it is not
malformed, and a date format that repeats a field, met before a format that fits. Adding and
changing a rule then fail by that cause instead of naming the problems of the rule.
-/

namespace ReceiptRules

open Text

/-! ## Comparison texts -/

/-- A format that repeats a field stands before any that the text fits; blanks are never read. -/
def Date.Blocks (formats : List String) (s : String) (e : Format.Error) : Prop :=
  Blank.trimChars s.toList ≠ [] ∧
    formats.Halts (fun format ↦ readChars? [format] (Blank.trimChars s.toList) = .ok none)
      (fun format ↦ Format.read format = .error e ∧ e ≠ .unknownDirective)

theorem Date.ofText?_eq_error_iff {formats : List String} {s : String} {e : Format.Error} :
    ofText? formats s = .error e ↔ Blocks formats s e := by
  rw [Blocks, ← readChars?_eq_error_iff, ofText?]
  cases Blank.trimChars s.toList <;> simp

theorem Settings.dateOfText?_eq_error_iff {settings : Settings} {s : String} {e : Failure} :
    settings.dateOfText? s = .error e ↔
      ∃ error, Date.Blocks settings.dateFormats s error ∧ e = .dateFormat error := by
  simp only [← Date.ofText?_eq_error_iff, dateOfText?]
  cases Date.ofText? settings.dateFormats s <;> simp [eq_comm]

namespace Condition

variable {settings : Settings} {c : Condition} {e : Failure}

/-- What stops the check of a condition. -/
inductive CheckStops (settings : Settings) (c : Condition) : Failure → Prop
  | separator (hoperator : c.operator = .inList) (h : settings.listSeparator = "") :
    CheckStops settings c .emptySeparator
  | pattern (problem : Pattern.Problem) (hoperator : c.operator = .regex)
    (hkind : c.field.kind = .text) (h : Pattern.Refused c.value problem) :
    CheckStops settings c (.pattern problem)
  | format (error : Date.Format.Error) (hcompares : c.Compares) (hkind : c.field.kind = .date)
    (h : Date.Blocks settings.dateFormats c.value error) :
    CheckStops settings c (.dateFormat error)

theorem patternProblems_eq_error_iff : c.patternProblems = .error e ↔
    ∃ problem, Pattern.Refused c.value problem ∧ e = .pattern problem := by
  unfold patternProblems
  split
  · next pattern hpattern =>
    refine iff_of_false nofun ?_
    rintro ⟨problem, ⟨hproblem, -⟩, -⟩
    cases hpattern.symm.trans hproblem
  · next cause position hpattern =>
    refine iff_of_false nofun ?_
    rintro ⟨problem, ⟨hproblem, hother⟩, -⟩
    cases hpattern.symm.trans hproblem
    exact hother cause position rfl
  · next problem hother hpattern =>
    constructor
    · rintro ⟨⟩
      exact ⟨problem, ⟨hpattern, hother⟩, rfl⟩
    · rintro ⟨problem', ⟨hproblem, -⟩, rfl⟩
      cases hpattern.symm.trans hproblem
      rfl

theorem listItems_eq_error_iff :
    c.listItems settings = .error e ↔ settings.listSeparator = "" ∧ e = .emptySeparator := by
  rw [listItems, ← String.isEmpty_iff]
  split
  · next hempty => simp [hempty, eq_comm]
  · next hempty => simp [hempty]

theorem comparisonProblems_eq_error_iff : c.comparisonProblems settings = .error e ↔
    c.field.kind = .date ∧ settings.dateOfText? c.value = .error e := by
  unfold comparisonProblems
  cases c.field.kind with
  | text | number => exact iff_of_false nofun nofun
  | date => simp only [Except.map_eq_error_iff, true_and]

/-- Dates are compared by whatever operator fits them, lists apart. -/
theorem compares_iff_of_date (hkind : c.field.kind = .date) :
    c.Compares ↔ c.operator.supportedOn c.field = true ∧ c.operator ≠ .inList := by
  rw [Operator.supportedOn, hkind]
  unfold Compares
  cases c.operator <;> simp [Operator.fits, hkind]

theorem CheckStops.supported (h : c.CheckStops settings e) :
    c.operator.supportedOn c.field = true := by
  cases h with
  | separator hoperator => rw [hoperator]; rfl
  | pattern problem hoperator hkind => rw [Operator.supportedOn, hoperator, hkind]; rfl
  | format error hcompares hkind => exact ((compares_iff_of_date hkind).mp hcompares).1

theorem problems_eq_error_iff : c.problems settings = .error e ↔ c.CheckStops settings e := by
  cases hsupported : c.operator.supportedOn c.field with
  | false =>
    refine iff_of_false (by simp [problems, hsupported]) fun hstops ↦ ?_
    cases hsupported.symm.trans hstops.supported
  | true =>
    simp only [problems, hsupported, Bool.not_true, Bool.false_eq_true, if_false]
    split
    · next hoperator =>
      rw [patternProblems_eq_error_iff]
      constructor
      · rintro ⟨problem, hrefused, rfl⟩
        have hkind : c.field.kind = .text := by
          rwa [hoperator, Operator.supportedOn, Operator.fits, beq_iff_eq] at hsupported
        exact .pattern problem hoperator hkind hrefused
      · intro hstops
        cases hstops with
        | separator hlist => cases hoperator.symm.trans hlist
        | pattern problem _ _ hrefused => exact ⟨problem, hrefused, rfl⟩
        | format error hcompares => exact absurd hoperator (operator_ne_of_compares hcompares).1
    · next hoperator =>
      rw [Except.map_eq_error_iff, listItems_eq_error_iff]
      constructor
      · rintro ⟨hempty, rfl⟩
        exact .separator hoperator hempty
      · intro hstops
        cases hstops with
        | separator _ hempty => exact ⟨hempty, rfl⟩
        | pattern problem hregex => cases hoperator.symm.trans hregex
        | format error hcompares => exact absurd hoperator (operator_ne_of_compares hcompares).2
    · next hregex hlist =>
      rw [comparisonProblems_eq_error_iff, Settings.dateOfText?_eq_error_iff]
      constructor
      · rintro ⟨hkind, error, hblocks, rfl⟩
        exact .format error ((compares_iff_of_date hkind).mpr ⟨hsupported, hlist⟩) hkind hblocks
      · intro hstops
        cases hstops with
        | separator hoperator => exact absurd hoperator hlist
        | pattern problem hoperator => exact absurd hoperator hregex
        | format error _ hkind hblocks => exact ⟨hkind, error, hblocks, rfl⟩

end Condition

namespace Rule

variable {settings : Settings} {r : Rule} {e : Failure}

/-- What stops the check of a rule: its first condition whose check is stopped. -/
def CheckStops (settings : Settings) (r : Rule) (e : Failure) : Prop :=
  r.conditions.Halts (fun c ↦ ∃ found, c.problems settings = .ok found)
    (fun c ↦ c.CheckStops settings e)

/-- Why a rule is not written: its check is stopped, or it has problems. -/
inductive Refused (settings : Settings) (r : Rule) : Failure → Prop
  | stopped (e : Failure) (h : r.CheckStops settings e) : Refused settings r e
  | invalid (found : List String) (hproblems : r.problems settings = .ok found)
    (hfound : found ≠ []) : Refused settings r (.invalidRule r.name found)

theorem conditionProblems_eq_error_iff {n : Nat} {conditions : List Condition} :
    conditionProblems settings n conditions = .error e ↔
      conditions.Halts (fun c ↦ ∃ found, c.problems settings = .ok found)
        (fun c ↦ c.CheckStops settings e) := by
  induction conditions generalizing n with
  | nil => exact iff_of_false nofun List.not_halts_nil
  | cons c rest ih =>
    rw [conditionProblems, Except.bind_eq_error_iff, List.halts_cons_iff, ← ih (n := n + 1),
      Condition.problems_eq_error_iff]
    refine or_congr_right ⟨?_, ?_⟩
    · rintro ⟨first, hfirst, hrest⟩
      rcases Except.bind_eq_error_iff.mp hrest with hrest | ⟨others, -, hdone⟩
      · exact ⟨⟨first, hfirst⟩, hrest⟩
      · cases hdone
    · rintro ⟨⟨first, hfirst⟩, hrest⟩
      exact ⟨first, hfirst, Except.bind_eq_error_iff.mpr (.inl hrest)⟩

theorem problems_eq_error_iff : r.problems settings = .error e ↔ r.CheckStops settings e := by
  rw [problems, Except.map_eq_error_iff, conditionProblems_eq_error_iff, CheckStops]

theorem check_eq_error_iff : r.check settings = .error e ↔ r.Refused settings e := by
  rw [check, Except.bind_eq_error_iff, problems_eq_error_iff]
  constructor
  · rintro (hstops | ⟨found, hproblems, hfound⟩)
    · exact .stopped e hstops
    · split at hfound
      · cases hfound
      · next hsome =>
        cases hfound
        exact .invalid found hproblems fun hnil ↦ hsome (List.isEmpty_iff.mpr hnil)
  · intro hrefused
    cases hrefused with
    | stopped _ hstops => exact .inl hstops
    | invalid found hproblems hfound =>
      refine .inr ⟨found, hproblems, if_neg fun hempty ↦ hfound ?_⟩
      exact List.isEmpty_iff.mp hempty

end Rule

/-! ## Writing rules -/

theorem Desk.add_eq_error_iff {desk : Desk} {now : Timestamp} {r : Rule} {e : Failure} :
    (desk.add now r).1 = .error e ↔ r.Refused desk.store.settings e ∨
      r.problems desk.store.settings = .ok [] ∧
        (desk.identify r).1 ∈ Rule.ids desk.store.table.rules ∧
        e = .duplicateRule (desk.identify r).1 := by
  rw [← Rule.check_eq_error_iff, ← Rule.check_eq_ok_iff]
  cases hcheck : r.check desk.store.settings with
  | error e' => simp [add_of_check_eq_error hcheck]
  | ok =>
    have hproblems := Rule.check_eq_ok_iff.mp hcheck
    by_cases hmem : (desk.identify r).1 ∈ Rule.ids desk.store.table.rules
    · simp [add_of_mem hproblems hmem, hmem, eq_comm]
    · simp [add_of_notMem hproblems hmem, hmem]

namespace Store

variable {s : Store} {now : Timestamp} {id : String} {r : Rule} {e : Failure}

theorem get_eq_error_iff :
    s.get id = .error e ↔ id ∉ Rule.ids s.table.rules ∧ e = .unknownRule id := by
  rw [get]
  cases hfound : s.table.find? id with
  | some r =>
    obtain ⟨hr, hid⟩ := Rule.Table.find?_eq_some_iff.mp hfound
    have hmem : id ∈ Rule.ids s.table.rules := List.mem_map.mpr ⟨r, hr, hid⟩
    simp [hmem]
  | none =>
    have hnew : id ∉ Rule.ids s.table.rules := by
      intro hmem
      obtain ⟨r, hr⟩ := List.mem_map.mp hmem
      cases hfound.symm.trans (Rule.Table.find?_eq_some_iff.mpr hr)
    simp [hnew, eq_comm]

theorem update_eq_error_iff : s.update now r = .error e ↔
    r.id ∉ Rule.ids s.table.rules ∧ e = .unknownRule r.id ∨
      r.id ∈ Rule.ids s.table.rules ∧ r.Refused s.settings e := by
  rw [update, Except.bind_eq_error_iff, get_eq_error_iff]
  refine or_congr_right ⟨?_, ?_⟩
  · rintro ⟨current, hget, hrest⟩
    have hmem : r.id ∈ Rule.ids s.table.rules :=
      List.mem_map.mpr ⟨current, get_eq_ok_iff.mp hget⟩
    rcases Except.bind_eq_error_iff.mp hrest with hcheck | ⟨_, -, hdone⟩
    · exact ⟨hmem, Rule.check_eq_error_iff.mp hcheck⟩
    · cases hdone
  · rintro ⟨hmem, hrefused⟩
    obtain ⟨current, hcurrent⟩ := List.mem_map.mp hmem
    have hcheck := Rule.check_eq_error_iff.mpr hrefused
    exact ⟨current, get_eq_ok_iff.mpr hcurrent, Except.bind_eq_error_iff.mpr (.inl hcheck)⟩

end Store

/-- The check of a rule gives its problems unless one of its conditions stops it. Apart from
identifiers that are taken or unknown, a rule is added and changed unless it has problems, all of
which are named then, or its check is stopped. -/
theorem Desk.authoring_fails_iff (desk : Desk) (now : Timestamp) (r : Rule) (e : Failure) :
    (r.problems desk.store.settings = .error e ↔ r.CheckStops desk.store.settings e) ∧
    ((desk.add now r).1 = .error e ↔ r.Refused desk.store.settings e ∨
      r.problems desk.store.settings = .ok [] ∧
        (desk.identify r).1 ∈ Rule.ids desk.store.table.rules ∧
        e = .duplicateRule (desk.identify r).1) ∧
    (desk.store.update now r = .error e ↔
      r.id ∉ Rule.ids desk.store.table.rules ∧ e = .unknownRule r.id ∨
        r.id ∈ Rule.ids desk.store.table.rules ∧ r.Refused desk.store.settings e) :=
  ⟨Rule.problems_eq_error_iff, add_eq_error_iff, Store.update_eq_error_iff⟩

/-- Rules that are neither added nor told their problems: a pattern that repeats too often, a list
that nothing separates, and a date where the only format names the day twice. -/
theorem Desk.authoring_stopped :
    let now : Timestamp := .midnight ⟨2024, 1, 1, by decide⟩
    let rule (c : Condition) : Rule :=
      { name := "x", conditions := [c], actions := [⟨.addTag, "x"⟩], createdAt := now,
        updatedAt := now }
    let answers (settings : Settings) (c : Condition) :=
      ((rule c).problems settings, (Desk.add ⟨.empty settings, 0⟩ now (rule c)).1)
    answers {} ⟨.remarks, .regex, "a\x7b99999999999\x7d", .and⟩ =
        (.error (.pattern .tooManyRepetitions), .error (.pattern .tooManyRepetitions)) ∧
      answers { listSeparator := "" } ⟨.remarks, .inList, "a", .and⟩ =
        (.error .emptySeparator, .error .emptySeparator) ∧
      answers { dateFormats := ["%d.%d.%Y"] } ⟨.date, .equals, "2024-03-05", .and⟩ =
        (.error (.dateFormat (.repeatedField 'd' 2 1 47)),
          .error (.dateFormat (.repeatedField 'd' 2 1 47))) := by
  decide +kernel

end ReceiptRules
