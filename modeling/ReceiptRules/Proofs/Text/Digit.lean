import Mathlib.Algebra.Group.Nat.Defs
import Mathlib.Data.List.Induction
import ReceiptRules.Proofs.Text.Blank
import ReceiptRules.Text.Digit

/-!
# Reading written digits

The digits that a number is written with are read back as that number, also when zeros fill them up
on the left, and a number below a power of ten has no more digits than the exponent says.
-/

namespace ReceiptRules.Text.Digit

theorem value?_char {d : Nat} (h : d < 10) : value? (char d) = some d := by
  have hall : ∀ d < 10, value? (char d) = some d := by decide
  exact hall d h

theorem isDigit_char {d : Nat} (h : d < 10) : isDigit (char d) = true := by
  rw [isDigit, value?_char h]
  rfl

theorem lt_ten_of_value? {c : Char} {d : Nat} (h : value? c = some d) : d < 10 := by
  obtain ⟨start, hstart, rfl⟩ := Option.map_eq_some_iff.mp h
  have hrange := List.find?_some hstart
  simp only [Bool.and_eq_true, decide_eq_true_eq] at hrange
  omega

theorem lt_ten_of_mapM_value? {cs : List Char} {ds : List Nat} (h : cs.mapM value? = some ds) :
    ∀ d ∈ ds, d < 10 := by
  induction cs generalizing ds with
  | nil =>
    cases h
    simp
  | cons c cs ih =>
    rw [List.mapM_cons] at h
    obtain ⟨d, hd, h⟩ := Option.bind_eq_some_iff.mp h
    obtain ⟨rest, hrest, h⟩ := Option.bind_eq_some_iff.mp h
    cases h
    exact List.forall_mem_cons.mpr ⟨lt_ten_of_value? hd, ih hrest⟩

theorem mapM_value?_map_char {ds : List Nat} (h : ∀ d ∈ ds, d < 10) :
    (ds.map char).mapM value? = some ds := by
  induction ds with
  | nil => rfl
  | cons d rest ih =>
    rw [List.map_cons, List.mapM_cons, value?_char (h d List.mem_cons_self),
      ih fun x hx ↦ h x (List.mem_cons_of_mem d hx)]
    rfl

theorem number_lt_pow_length {ds : List Nat} (h : ∀ d ∈ ds, d < 10) :
    number ds < 10 ^ ds.length := by
  induction ds using List.reverseRecOn with
  | nil => exact Nat.one_pos
  | append_singleton ds d ih =>
    have hfront := ih fun x hx ↦ h x (List.mem_append_left [d] hx)
    have hlast : d < 10 := h d (List.mem_append_right ds List.mem_cons_self)
    rw [number_append_singleton, List.length_append, List.length_singleton, Nat.pow_succ]
    omega

theorem digits_ne_nil (n : Nat) : digits n ≠ [] := by
  rcases Nat.lt_or_ge n 10 with h | h
  · simp [digits_of_lt h]
  · simp [digits_of_ge h]

/-- Zero apart, no number is written with a zero in front. -/
theorem head_digits_ne_zero {n d : Nat} {ds : List Nat} (hn : n ≠ 0) (h : digits n = d :: ds) :
    d ≠ 0 := by
  induction n using Nat.strongRecOn generalizing ds with
  | ind n ih =>
    rcases Nat.lt_or_ge n 10 with hlt | hge
    · rw [digits_of_lt hlt] at h
      cases h
      exact hn
    · cases hfront : digits (n / 10) with
      | nil => exact absurd hfront (digits_ne_nil _)
      | cons d' ds' =>
        rw [digits_of_ge hge, hfront] at h
        cases h
        exact ih (n / 10) (by omega) (by omega) hfront

theorem length_digits_le {n k : Nat} (hk : 0 < k) (h : n < 10 ^ k) : (digits n).length ≤ k := by
  induction k generalizing n with
  | zero => omega
  | succ k ih =>
    rcases Nat.lt_or_ge n 10 with hn | hn
    · simp [digits_of_lt hn]
    · rw [digits_of_ge hn, List.length_append, List.length_singleton]
      have hk' : 0 < k := by
        rcases Nat.eq_zero_or_pos k with rfl | hk'
        · omega
        · exact hk'
      have hdiv : n / 10 < 10 ^ k := by
        rw [Nat.div_lt_iff_lt_mul (by decide), ← Nat.pow_succ]
        exact h
      exact Nat.succ_le_succ (ih hk' hdiv)

theorem lt_pow_length_digits (n : Nat) : n < 10 ^ (digits n).length := by
  induction n using Nat.strongRecOn with
  | ind n ih =>
    rcases Nat.lt_or_ge n 10 with h | h
    · rw [digits_of_lt h]
      exact h
    · have hfront := ih (n / 10) (by omega)
      rw [digits_of_ge h, List.length_append, List.length_singleton, Nat.pow_succ]
      omega

/-- The first digit of a number other than zero counts at its place. -/
theorem pow_length_digits_le {n : Nat} (hn : n ≠ 0) : 10 ^ ((digits n).length - 1) ≤ n := by
  induction n using Nat.strongRecOn with
  | ind n ih =>
    rcases Nat.lt_or_ge n 10 with h | h
    · rw [digits_of_lt h]
      exact Nat.one_le_iff_ne_zero.mpr hn
    · have hfront := ih (n / 10) (by omega) (by omega)
      have hpos := List.length_pos_iff.mpr (digits_ne_nil (n / 10))
      obtain ⟨k, hk⟩ := Nat.exists_eq_succ_of_ne_zero (Nat.ne_of_gt hpos)
      rw [hk, Nat.succ_sub_one] at hfront
      rw [digits_of_ge h, List.length_append, List.length_singleton, hk, Nat.add_sub_cancel,
        Nat.succ_eq_add_one, Nat.pow_succ]
      omega

/-! ## Filling up with zeros -/

/-- The digits of a number filled with zeros on the left. -/
def filled (width n : Nat) : List Nat :=
  List.replicate (width - (digits n).length) 0 ++ digits n

theorem lt_ten_of_mem_filled {width n d : Nat} (h : d ∈ filled width n) : d < 10 := by
  rcases List.mem_append.mp h with h | h
  · have := (List.mem_replicate.mp h).2
    omega
  · exact lt_ten_of_mem_digits h

theorem padded_eq_map_filled (width n : Nat) : padded width n = (filled width n).map char := by
  simp only [padded, text, filled, List.length_map, List.map_append, List.map_replicate]
  rfl

theorem mapM_value?_padded (width n : Nat) :
    (padded width n).mapM value? = some (filled width n) := by
  rw [padded_eq_map_filled]
  exact mapM_value?_map_char fun d hd ↦ lt_ten_of_mem_filled hd

theorem number_filled (width n : Nat) : number (filled width n) = n := by
  have hzeros (k : Nat) (ds : List Nat) : number (List.replicate k 0 ++ ds) = number ds := by
    induction k with
    | zero => rfl
    | succ k ih =>
      rw [List.replicate_succ, List.cons_append]
      exact ih
  calc number (filled width n) = number (digits n) := hzeros _ _
    _ = n := number_digits n

theorem length_filled (width n : Nat) :
    (filled width n).length = max width (digits n).length := by
  rw [filled, List.length_append, List.length_replicate]
  omega

/-- A number that fits into the width takes exactly the width. -/
theorem length_padded {width n : Nat} (hw : 0 < width) (h : n < 10 ^ width) :
    (padded width n).length = width := by
  rw [padded_eq_map_filled, List.length_map, length_filled]
  exact Nat.max_eq_left (length_digits_le hw h)

theorem isDigit_of_mem_padded {width n : Nat} {c : Char} (h : c ∈ padded width n) :
    isDigit c = true := by
  rw [padded_eq_map_filled, List.mem_map] at h
  obtain ⟨d, hd, rfl⟩ := h
  exact isDigit_char (lt_ten_of_mem_filled hd)

theorem padded_ne_nil (width n : Nat) : padded width n ≠ [] := by
  rw [padded_eq_map_filled]
  simp [filled, digits_ne_nil]

theorem filled_succ {width : Nat} (hw : 0 < width) (n : Nat) :
    filled (width + 1) n = filled width (n / 10) ++ [n % 10] := by
  rcases Nat.lt_or_ge n 10 with h | h
  · have hzero : n / 10 = 0 := Nat.div_eq_of_lt h
    have hzeros : List.replicate width 0 = List.replicate (width - 1) 0 ++ [0] := by
      rw [← List.replicate_succ', Nat.sub_add_cancel hw]
    rw [filled, filled, hzero, digits_of_lt h, digits_of_lt (by decide), Nat.mod_eq_of_lt h]
    simp [hzeros]
  · rw [filled, filled, digits_of_ge h, List.length_append, List.length_singleton,
      Nat.add_sub_add_right, List.append_assoc]

/-- The last digit stands alone behind the digits of the rest. -/
theorem padded_succ {width : Nat} (hw : 0 < width) (n : Nat) :
    padded (width + 1) n = padded width (n / 10) ++ [char (n % 10)] := by
  rw [padded_eq_map_filled, padded_eq_map_filled, filled_succ hw, List.map_append, List.map_singleton]

/-! ## Digits in front of a text -/

theorem isDigit_char_ascii {d : Nat} (h : d < 10) : (char d).isDigit = true := by
  have hall : ∀ d < 10, (char d).isDigit = true := by decide
  exact hall d h

theorem isDigit_of_mem_map_char {ds : List Nat} (h : ∀ d ∈ ds, d < 10) :
    ∀ c ∈ ds.map char, c.isDigit = true := by
  intro c hc
  obtain ⟨d, hd, rfl⟩ := List.mem_map.mp hc
  exact isDigit_char_ascii (h d hd)

/-- The place of a digit character behind that of zero is the digit. -/
theorem map_toNat_sub_map_char {ds : List Nat} (h : ∀ d ∈ ds, d < 10) :
    (ds.map char).map (fun c ↦ c.toNat - '0'.toNat) = ds := by
  have hvalue : ∀ d < 10, (char d).toNat - '0'.toNat = d := by decide
  rw [List.map_map]
  exact (List.map_congr_left fun d hd ↦ hvalue d (h d hd)).trans (List.map_id ds)

theorem takeWhile_isDigit {front rest : List Char} (h : ∀ c ∈ front, c.isDigit = true)
    (hrest : ∀ c ∈ rest.head?, c.isDigit = false) :
    (front ++ rest).takeWhile Char.isDigit = front := by
  rw [List.takeWhile_append_of_pos h]
  cases rest with
  | nil => rw [List.takeWhile_nil, List.append_nil]
  | cons c rest => rw [List.takeWhile_cons_of_neg (by simp [hrest c rfl]), List.append_nil]

theorem dropWhile_isDigit {front rest : List Char} (h : ∀ c ∈ front, c.isDigit = true)
    (hrest : ∀ c ∈ rest.head?, c.isDigit = false) :
    (front ++ rest).dropWhile Char.isDigit = rest := by
  rw [List.dropWhile_append_of_pos h]
  cases rest with
  | nil => rfl
  | cons c rest => rw [List.dropWhile_cons_of_neg (by simp [hrest c rfl])]

/-! ## Digits and blanks -/

/-- No digit of any script is a blank. -/
theorem isBlank_of_isDigit {c : Char} (h : isDigit c = true) : Blank.isBlank c = false := by
  have hapart : ∀ start ∈ zeros, ∀ code ∈ Blank.codes, ¬ (start ≤ code ∧ code < start + 10) := by
    decide
  simp only [isDigit, value?, Option.isSome_map, List.find?_isSome, Bool.and_eq_true,
    decide_eq_true_eq] at h
  obtain ⟨start, hstart, hrange⟩ := h
  rw [Bool.eq_false_iff]
  intro hblank
  rw [Blank.isBlank, List.contains_iff_mem] at hblank
  exact hapart start hstart c.toNat hblank hrange

end ReceiptRules.Text.Digit

namespace ReceiptRules.Text.WholeNumber

/-- A number that can be written has no more digits than the limit says. -/
theorem length_digits_le_of_writable {n : Int} (h : writable n = true) :
    (Digit.digits n.natAbs).length ≤ digitLimit := by
  rw [writable, decide_eq_true_eq] at h
  have hlimit : 0 < digitLimit := by decide
  -- The power of the limit itself is not to be computed.
  generalize digitLimit = limit at *
  exact Digit.length_digits_le hlimit h

/-- A number is written if its digits are not more than the limit says. -/
theorem writable_iff {n : Int} :
    writable n = true ↔ (Digit.digits n.natAbs).length ≤ digitLimit := by
  refine ⟨length_digits_le_of_writable, fun h ↦ ?_⟩
  rw [writable, decide_eq_true_eq]
  generalize digitLimit = limit at *
  exact Nat.lt_of_lt_of_le (Digit.lt_pow_length_digits n.natAbs)
    (Nat.pow_le_pow_right (by decide) h)

/-- What can be read can be written. -/
theorem writable_number {ds : List Nat} (h : ∀ d ∈ ds, d < 10) (hlength : ds.length ≤ digitLimit) :
    writable (Digit.number ds : Nat) = true := by
  rw [writable, decide_eq_true_eq, Int.natAbs_natCast]
  generalize digitLimit = limit at *
  exact Nat.lt_of_lt_of_le (Digit.number_lt_pow_length h) (Nat.pow_le_pow_right (by decide) hlength)

theorem writable_of_le {n : Int} (h : n.natAbs ≤ 100) : writable n = true := by
  rw [writable, decide_eq_true_eq]
  have hlimit : 3 ≤ digitLimit := by decide
  generalize digitLimit = limit at *
  calc n.natAbs < 10 ^ 3 := by omega
    _ ≤ 10 ^ limit := Nat.pow_le_pow_right (by decide) hlimit

theorem writable_of_ge {n : Int} (h : (Nat.pow 10 digitLimit : Nat) ≤ n) : writable n = false := by
  rw [writable, decide_eq_false_iff_not]
  generalize digitLimit = limit at *
  omega

end ReceiptRules.Text.WholeNumber
