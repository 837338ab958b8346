import Mathlib.Algebra.Order.Field.Power
import Mathlib.Algebra.Order.Field.Rat
import Mathlib.Tactic.NormNum
import ReceiptRules.Decimal
import ReceiptRules.Proofs.Text.Digit

/-!
# The order of decimals is that of their values

A decimal stands for a rational number. Both comparisons, the one that looks at leading places
first and the one that looks at signs, give the order of these numbers, so that they cannot tell
decimals of one value apart.
-/

namespace ReceiptRules.Decimal

open Text

variable {a b d : Decimal}

/-- The number that a decimal stands for, its sign apart. -/
def size (d : Decimal) : ℚ := d.coefficient * 10 ^ d.exponent

/-- The number that a decimal stands for. -/
def value (d : Decimal) : ℚ := if d.negative then -d.size else d.size

theorem unit_pos (e : Int) : (0 : ℚ) < 10 ^ e := zpow_pos (by norm_num) e

theorem isZero_iff : d.isZero = true ↔ d.coefficient = 0 := by
  rw [isZero, beq_iff_eq]

theorem size_nonneg (d : Decimal) : 0 ≤ d.size :=
  mul_nonneg (Nat.cast_nonneg _) (unit_pos _).le

/-- Zero is zero in every unit. -/
theorem size_of_isZero (h : d.isZero = true) (unit : ℚ) : d.size = d.coefficient * unit := by
  rw [size, isZero_iff.mp h, Nat.cast_zero, zero_mul, zero_mul]

theorem size_pos (h : ¬ d.isZero = true) : 0 < d.size := by
  rw [isZero_iff] at h
  exact mul_pos (Nat.cast_pos.mpr (Nat.pos_of_ne_zero h)) (unit_pos _)

theorem value_of_isZero (h : d.isZero = true) : d.value = 0 := by
  rw [value, size_of_isZero h 0, mul_zero, neg_zero, ite_self]

/-! ## Comparing sizes -/

/-- Whole numbers of one unit compare like the numbers that they make. -/
theorem compare_cast_mul {m n : Nat} {unit : ℚ} (h : 0 < unit) :
    compare m n = compare (m * unit) (n * unit) := by
  rw [← cmp_eq_compare, ← cmp_eq_compare, cmp_mul_pos_right h]
  exact (Nat.strictMono_cast.cmp_map_eq m n).symm

theorem scaledTo_mul {e : Int} (h : e ≤ d.exponent) : (d.scaledTo e : ℚ) * 10 ^ e = d.size := by
  have hpow : ((10 ^ (d.exponent - e).toNat : Nat) : ℚ) = 10 ^ (d.exponent - e) := by
    rw [Nat.cast_pow, ← zpow_natCast, Int.toNat_of_nonneg (by omega)]
    rfl
  rw [scaledTo, Nat.cast_mul]
  change _ * ((10 ^ (d.exponent - e).toNat : Nat) : ℚ) * _ = _
  rw [hpow, mul_assoc, ← zpow_add₀ (by norm_num), Int.sub_add_cancel, size]

/-- The first digit of a decimal counts at its place. -/
theorem pow_magnitude_le (h : ¬ d.isZero = true) : (10 : ℚ) ^ d.magnitude ≤ d.size := by
  rw [isZero_iff] at h
  have hwidth : 0 < d.width := List.length_pos_iff.mpr (Digit.digits_ne_nil _)
  have hplaces : d.magnitude = (d.width - 1 : Nat) + d.exponent := by
    rw [magnitude]
    omega
  have hle : ((10 ^ (d.width - 1) : Nat) : ℚ) ≤ d.coefficient :=
    Nat.cast_le.mpr (Digit.pow_length_digits_le h)
  rw [hplaces, zpow_add₀ (by norm_num), zpow_natCast, size]
  rw [Nat.cast_pow] at hle
  exact mul_le_mul_of_nonneg_right hle (unit_pos _).le

theorem size_lt_pow (d : Decimal) : d.size < 10 ^ (d.magnitude + 1) := by
  have hplaces : d.magnitude + 1 = (d.width : Nat) + d.exponent := by
    rw [magnitude]
    omega
  have hlt : (d.coefficient : ℚ) < ((10 ^ d.width : Nat) : ℚ) :=
    Nat.cast_lt.mpr (Digit.lt_pow_length_digits _)
  rw [hplaces, zpow_add₀ (by norm_num), zpow_natCast, size]
  rw [Nat.cast_pow] at hlt
  exact mul_lt_mul_of_pos_right hlt (unit_pos _)

/-- The decimal with the lower leading place is the smaller one. -/
theorem size_lt_size (hb : ¬ b.isZero = true) (h : a.magnitude < b.magnitude) : a.size < b.size :=
  calc a.size < 10 ^ (a.magnitude + 1) := size_lt_pow a
    _ ≤ 10 ^ b.magnitude := zpow_le_zpow_right₀ (by norm_num) h
    _ ≤ b.size := pow_magnitude_le hb

theorem compareAbs_eq (a b : Decimal) : compareAbs a b = compare a.size b.size := by
  unfold compareAbs
  split
  · next hzero =>
    rw [Bool.or_eq_true] at hzero
    rcases hzero with h | h
    · rw [size_of_isZero h (10 ^ b.exponent), size, ← compare_cast_mul (unit_pos _)]
    · rw [size_of_isZero h (10 ^ a.exponent), size, ← compare_cast_mul (unit_pos _)]
  · next hzero =>
    rw [Bool.or_eq_true, not_or] at hzero
    cases horder : compare a.magnitude b.magnitude with
    | lt => exact (compare_lt_iff_lt.mpr (size_lt_size hzero.2 (compare_lt_iff_lt.mp horder))).symm
    | gt => exact (compare_gt_iff_gt.mpr (size_lt_size hzero.1 (compare_gt_iff_gt.mp horder))).symm
    | eq =>
      change compare (a.scaledTo _) (b.scaledTo _) = _
      rw [compare_cast_mul (unit_pos (min a.exponent b.exponent)), scaledTo_mul (min_le_left _ _),
        scaledTo_mul (min_le_right _ _)]

/-! ## Comparing values -/

theorem value_eq_neg_size (h : (d.negative && !d.isZero) = true) : d.value = -d.size := by
  rw [Bool.and_eq_true] at h
  rw [value, if_pos h.1]

theorem value_eq_size (h : (d.negative && !d.isZero) = false) : d.value = d.size := by
  cases hzero : d.isZero with
  | true => rw [value_of_isZero hzero, size_of_isZero hzero 0, mul_zero]
  | false =>
    rw [hzero, Bool.not_false, Bool.and_true] at h
    rw [value, h, if_neg Bool.false_ne_true]

theorem size_pos_of_sign (h : (d.negative && !d.isZero) = true) : 0 < d.size := by
  rw [Bool.and_eq_true, Bool.not_eq_true'] at h
  exact size_pos (by rw [h.2]; exact Bool.false_ne_true)

/-- Decimals compare like the numbers that they stand for. -/
theorem compareValue_eq (a b : Decimal) : compareValue a b = compare a.value b.value := by
  unfold compareValue
  split
  · next hzero =>
    rw [Bool.and_eq_true] at hzero
    rw [value_of_isZero hzero.1, value_of_isZero hzero.2]
    rfl
  · split
    · next ha hb => rw [compareAbs_eq, value_eq_size ha, value_eq_size hb]
    · next ha hb =>
      have hflip : StrictAnti fun q : ℚ ↦ -q := fun _ _ ↦ neg_lt_neg
      rw [compareAbs_eq, value_eq_neg_size ha, value_eq_neg_size hb, ← cmp_eq_compare,
        ← cmp_eq_compare]
      exact (hflip.cmp_map_eq a.size b.size).symm
    · next ha hb =>
      rw [eq_comm, compare_gt_iff_gt, value_eq_size ha, value_eq_neg_size hb]
      exact (neg_lt_zero.mpr (size_pos_of_sign hb)).trans_le (size_nonneg a)
    · next ha hb =>
      rw [eq_comm, compare_lt_iff_lt, value_eq_neg_size ha, value_eq_size hb]
      exact (neg_lt_zero.mpr (size_pos_of_sign ha)).trans_le (size_nonneg b)

end ReceiptRules.Decimal
