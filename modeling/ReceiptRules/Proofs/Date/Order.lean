import Mathlib.Data.Nat.Init
import ReceiptRules.Date

/-!
# The order of days is that of their numbers

Days are compared by year, month and day of the month. This is the order of their numbers, since a
later month or year begins after the last day of an earlier one.
-/

namespace ReceiptRules.Date

variable {a b : Date} {year month day : Nat}

theorem isDay_iff : isDay year month day = true ↔
    1 ≤ year ∧ year ≤ 9999 ∧ 1 ≤ month ∧ month ≤ 12 ∧ 1 ≤ day ∧ day ≤ daysInMonth year month := by
  simp [isDay, and_assoc]

/-- Spans of time that follow one another: a later one begins after the end of an earlier one. -/
theorem add_le_of_lt {start length : Nat → Nat} {m n : Nat}
    (hnext : ∀ k, 1 ≤ k → start (k + 1) = start k + length k) (hm : 1 ≤ m) (h : m < n) :
    start m + length m ≤ start n := by
  induction n, h using Nat.le_induction with
  | base => exact Nat.le_of_eq (hnext m hm).symm
  | succ n hn ih =>
    rw [hnext n (Nat.le_trans hm (Nat.le_of_succ_le hn))]
    exact Nat.le_trans ih (Nat.le_add_right _ _)

theorem daysBeforeMonth_succ (hmonth : 1 ≤ month) :
    daysBeforeMonth year (month + 1) = daysBeforeMonth year month + daysInMonth year month := by
  obtain ⟨month, rfl⟩ := Nat.exists_eq_add_one.mpr hmonth
  rfl

theorem daysBeforeMonth_thirteen (year : Nat) : daysBeforeMonth year 13 = daysInYear year := by
  cases h : isLeap year <;> simp [daysBeforeMonth, daysInMonth, daysInYear, h]

theorem isLeap_iff :
    isLeap year = true ↔ year % 4 = 0 ∧ (year % 100 ≠ 0 ∨ year % 400 = 0) := by
  simp [isLeap]

/-- Every fourth year is a leap year, full centuries apart, unless they are full fourth ones. -/
theorem daysBeforeYear_succ (hyear : 1 ≤ year) :
    daysBeforeYear (year + 1) = daysBeforeYear year + daysInYear year := by
  obtain ⟨past, rfl⟩ := Nat.exists_eq_add_one.mpr hyear
  have hfour : (past + 1) / 4 = past / 4 + if (past + 1) % 4 = 0 then 1 else 0 := by
    split <;> omega
  have hcentury : (past + 1) / 100 = past / 100 + if (past + 1) % 100 = 0 then 1 else 0 := by
    split <;> omega
  have hfourth : (past + 1) / 400 = past / 400 + if (past + 1) % 400 = 0 then 1 else 0 := by
    split <;> omega
  have hle : past / 100 ≤ past / 4 := by omega
  have hcentury_four : (past + 1) % 100 = 0 → (past + 1) % 4 = 0 := by omega
  have hfourth_century : (past + 1) % 400 = 0 → (past + 1) % 100 = 0 := by omega
  simp only [daysBeforeYear, daysInYear, isLeap_iff, Nat.add_sub_cancel, hfour, hcentury, hfourth]
  generalize past / 4 = fours, past / 100 = centuries, past / 400 = fourths at *
  by_cases h : (past + 1) % 4 = 0 <;> by_cases h' : (past + 1) % 100 = 0 <;>
    by_cases h'' : (past + 1) % 400 = 0 <;> simp [h, h', h''] at * <;> omega

/-- No day of a year counts more than the days of the year. -/
theorem dayOfYear_le (d : Date) : daysBeforeMonth d.year d.month + d.day ≤ daysInYear d.year := by
  obtain ⟨-, -, hmonth, hmonth', -, hday⟩ := isDay_iff.mp d.valid
  calc daysBeforeMonth d.year d.month + d.day
      ≤ daysBeforeMonth d.year d.month + daysInMonth d.year d.month := Nat.add_le_add_left hday _
    _ ≤ daysBeforeMonth d.year 13 :=
        add_le_of_lt (fun _ ↦ daysBeforeMonth_succ) hmonth (Nat.lt_succ_of_le hmonth')
    _ = daysInYear d.year := daysBeforeMonth_thirteen d.year

theorem ordinal_lt_of_year_lt (h : a.year < b.year) : a.ordinal < b.ordinal := by
  obtain ⟨hyear, -⟩ := isDay_iff.mp a.valid
  obtain ⟨-, -, -, -, hday, -⟩ := isDay_iff.mp b.valid
  have hstart := add_le_of_lt (fun _ ↦ daysBeforeYear_succ) hyear h
  have hend := dayOfYear_le a
  rw [ordinal, ordinal]
  omega

theorem ordinal_lt_of_month_lt (hyear : a.year = b.year) (h : a.month < b.month) :
    a.ordinal < b.ordinal := by
  obtain ⟨-, -, hmonth, -, -, hend⟩ := isDay_iff.mp a.valid
  obtain ⟨-, -, -, -, hday, -⟩ := isDay_iff.mp b.valid
  have hstart : daysBeforeMonth a.year a.month + daysInMonth a.year a.month ≤
      daysBeforeMonth a.year b.month := add_le_of_lt (fun _ ↦ daysBeforeMonth_succ) hmonth h
  rw [ordinal, ordinal, ← hyear]
  omega

theorem compare_add_left (n i j : Nat) : compare (n + i) (n + j) = compare i j := by
  simp only [Nat.compare_eq_ite_lt, Nat.add_lt_add_iff_left]

/-- Days compare like their numbers. -/
theorem compareDays_eq (a b : Date) : compareDays a b = compare a.ordinal b.ordinal := by
  unfold compareDays
  cases hyear : compare a.year b.year with
  | lt => exact (Nat.compare_eq_lt.mpr (ordinal_lt_of_year_lt (Nat.compare_eq_lt.mp hyear))).symm
  | gt => exact (Nat.compare_eq_gt.mpr (ordinal_lt_of_year_lt (Nat.compare_eq_gt.mp hyear))).symm
  | eq =>
    have hyear' := Nat.compare_eq_eq.mp hyear
    cases hmonth : compare a.month b.month with
    | lt =>
      exact (Nat.compare_eq_lt.mpr
        (ordinal_lt_of_month_lt hyear' (Nat.compare_eq_lt.mp hmonth))).symm
    | gt =>
      exact (Nat.compare_eq_gt.mpr
        (ordinal_lt_of_month_lt hyear'.symm (Nat.compare_eq_gt.mp hmonth))).symm
    | eq =>
      have hmonth' := Nat.compare_eq_eq.mp hmonth
      change compare a.day b.day = _
      rw [ordinal, ordinal, hyear', hmonth']
      exact (compare_add_left (daysBeforeYear b.year + daysBeforeMonth b.year b.month) _ _).symm

end ReceiptRules.Date
