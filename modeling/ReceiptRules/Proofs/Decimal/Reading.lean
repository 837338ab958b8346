import Mathlib.Data.Bool.AllAny
import ReceiptRules.Decimal.Reader
import ReceiptRules.Decimal.Text
import ReceiptRules.Proofs.Decimal.Value
import ReceiptRules.Proofs.Text.Pieces

/-!
# Reading plain texts

The text of a decimal without an exponent is a sign, a row of digits and, where the exponent is
negative, a point with digits behind it. It is read as the decimal that it spells, which has the
same sign and the same value and differs only where a positive exponent has been written out as
zeros. All that is ever read can be stored.
-/

namespace ReceiptRules

open Text

namespace Text.Digit

theorem digits_mul_ten {n : Nat} (hn : n ≠ 0) : digits (n * 10) = digits n ++ [0] := by
  rw [digits_of_ge (by omega), Nat.mul_div_cancel n (by decide), Nat.mul_mod_left]

/-- A factor of ten is one more zero behind the digits. -/
theorem digits_mul_pow {n : Nat} (hn : n ≠ 0) (e : Nat) :
    digits (n * 10 ^ e) = digits n ++ List.replicate e 0 := by
  induction e with
  | zero => simp
  | succ e ih =>
    have hpos : n * 10 ^ e ≠ 0 := Nat.mul_ne_zero hn (Nat.pow_pos (by decide)).ne'
    rw [Nat.pow_succ, ← Nat.mul_assoc, digits_mul_ten hpos, ih, List.replicate_succ',
      List.append_assoc]

end Text.Digit

namespace Decimal

variable {d : Decimal} {negative : Bool} {coefficient : Nat} {ds fs : List Nat} {cs : List Char}

/-- The decimal that the plain text of a decimal spells: a positive exponent is written out as
zeros. -/
def spelledOut (d : Decimal) : Decimal :=
  ⟨d.negative, d.coefficient * 10 ^ d.exponent.toNat, min d.exponent 0⟩

theorem spelledOut_of_le (h : d.exponent ≤ 0) : d.spelledOut = d := by
  obtain ⟨negative, coefficient, exponent⟩ := d
  have hnat : exponent.toNat = 0 := Int.toNat_of_nonpos h
  simp [spelledOut, hnat, min_eq_left h]

theorem spelledOut_ofNat (negative : Bool) (coefficient e : Nat) :
    spelledOut ⟨negative, coefficient, .ofNat e⟩ = ⟨negative, coefficient * 10 ^ e, 0⟩ := by
  have hmin : min (Int.ofNat e) 0 = 0 := min_eq_right (Int.natCast_nonneg e)
  rw [spelledOut, hmin]
  rfl

theorem value_spelledOut (d : Decimal) : d.spelledOut.value = d.value := by
  have hexponent : (d.exponent.toNat : Int) + min d.exponent 0 = d.exponent := by omega
  have hsize : d.spelledOut.size = d.size := by
    rw [size, size, spelledOut, Nat.cast_mul, Nat.cast_pow, mul_assoc, ← zpow_natCast]
    rw [Nat.cast_ofNat, ← zpow_add₀ (by norm_num), hexponent]
  rw [value, value, hsize]
  rfl

theorem fits_iff :
    d.fits = true ↔ leastExponent ≤ d.exponent ∧ d.magnitude ≤ largestMagnitude := by
  rw [fits, Bool.and_eq_true, decide_eq_true_eq, decide_eq_true_eq]

/-- Zeros behind the digits keep the first digit at its place. -/
theorem magnitude_spelledOut (h : ¬ d.isZero = true) : d.spelledOut.magnitude = d.magnitude := by
  have hdigits := Digit.digits_mul_pow (isZero_iff.not.mp h) d.exponent.toNat
  have hexponent : (d.exponent.toNat : Int) + min d.exponent 0 = d.exponent := by omega
  rw [magnitude, magnitude, width, width, spelledOut, hdigits, List.length_append,
    List.length_replicate, Nat.cast_add]
  simp only
  omega

theorem fits_spelledOut (hfits : d.fits = true) : d.spelledOut.fits = true := by
  have hleast : leastExponent ≤ 0 := by decide
  rw [fits_iff] at hfits ⊢
  refine ⟨le_min hfits.1 hleast, ?_⟩
  by_cases hzero : d.isZero = true
  · have hmagnitude : d.spelledOut.magnitude = min d.exponent 0 := by
      have hdigits : Digit.digits 0 = [0] := Digit.digits_of_lt (by decide)
      simp [magnitude, width, spelledOut, isZero_iff.mp hzero, hdigits]
    rw [hmagnitude]
    exact (min_le_right _ _).trans (by decide)
  · rw [magnitude_spelledOut hzero]
    exact hfits.2

/-! ## Digits of plain texts -/

/-- A point with the digits behind it, where there are any. -/
def pointed : List Nat → List Char
  | [] => []
  | fs => '.' :: fs.map Digit.char

theorem plainAbs_ofNat (negative : Bool) (coefficient e : Nat) :
    plainAbs ⟨negative, coefficient, .ofNat e⟩ = Digit.text (coefficient * 10 ^ e) := by
  cases e with
  | zero =>
    rw [Nat.pow_zero, Nat.mul_one]
    rfl
  | succ e =>
    have hsplit : plainAbs ⟨negative, coefficient, .ofNat (e + 1)⟩ =
        if coefficient == 0 then Digit.text coefficient
        else Digit.text coefficient ++ List.replicate (e + 1) '0' := rfl
    rw [hsplit]
    rcases eq_or_ne coefficient 0 with rfl | hcoefficient
    · rw [Nat.zero_mul]
      rfl
    · rw [if_neg (by simpa using hcoefficient), Digit.text, Digit.text,
        Digit.digits_mul_pow hcoefficient, List.map_append, List.map_replicate]
      rfl

theorem withPoint_text (k n : Nat) : ∃ ds fs, ds ++ fs = Digit.filled (k + 2) n ∧ ds ≠ [] ∧
    fs.length = k + 1 ∧ withPoint (k + 1) (Digit.text n) = ds.map Digit.char ++ pointed fs := by
  have hlength : k + 2 ≤ (Digit.filled (k + 2) n).length := by
    rw [Digit.length_filled]
    exact le_max_left _ _
  have hfilled : List.replicate (k + 2 - (Digit.text n).length) '0' ++ Digit.text n =
      (Digit.filled (k + 2) n).map Digit.char := Digit.padded_eq_map_filled (k + 2) n
  generalize Digit.filled (k + 2) n = all at hlength hfilled ⊢
  have hfraction : (all.drop (all.length - (k + 1))).length = k + 1 := by
    rw [List.length_drop]
    omega
  refine ⟨_, _, List.take_append_drop (all.length - (k + 1)) all, ?_, hfraction, ?_⟩
  · rw [Ne, List.take_eq_nil_iff, not_or, ← List.length_eq_zero_iff]
    omega
  · have hpointed : pointed (all.drop (all.length - (k + 1))) =
        '.' :: (all.drop (all.length - (k + 1))).map Digit.char := by
      cases hdrop : all.drop (all.length - (k + 1)) with
      | nil => simp [hdrop] at hfraction
      | cons x rest => rfl
    simp only [withPoint, hfilled, hpointed, List.length_map, List.map_take, List.map_drop]

/-- What a plain text is made of. -/
theorem exists_plainAbs_eq (d : Decimal) : ∃ ds fs, d.plainAbs = ds.map Digit.char ++ pointed fs ∧
    ds ≠ [] ∧ (∀ x ∈ ds ++ fs, x < 10) ∧
    d.spelledOut = ⟨d.negative, Digit.number (ds ++ fs), -fs.length⟩ := by
  obtain ⟨negative, coefficient, e | k⟩ := d
  · refine ⟨Digit.digits (coefficient * 10 ^ e), [], ?_, Digit.digits_ne_nil _, ?_, ?_⟩
    · rw [plainAbs_ofNat, pointed, List.append_nil, Digit.text]
    · rw [List.append_nil]
      exact fun x hx ↦ Digit.lt_ten_of_mem_digits hx
    · rw [spelledOut_ofNat, List.append_nil, Digit.number_digits]
      rfl
  · obtain ⟨ds, fs, hall, hne, hfraction, htext⟩ := withPoint_text k coefficient
    refine ⟨ds, fs, htext, hne, ?_, ?_⟩
    · rw [hall]
      exact fun x hx ↦ Digit.lt_ten_of_mem_filled hx
    · rw [spelledOut_of_le (Int.negSucc_lt_zero k).le, hall, Digit.number_filled, hfraction]
      rfl

/-! ## Reading digits -/

/-- The digits behind a point, and what follows them. -/
def fractionOf : List Char → List Char × List Char
  | '.' :: rest => (rest.takeWhile isPlainDigit, rest.dropWhile isPlainDigit)
  | rest => ([], rest)

/-- The decimal, unless its exponent is out of bounds. -/
def stored? (d : Decimal) : Option Decimal := if d.fits then some d else none

theorem unsigned?_eq (negative : Bool) (cs : List Char) :
    unsigned? negative cs =
      let whole := cs.takeWhile isPlainDigit
      let (fraction, tail) := fractionOf (cs.dropWhile isPlainDigit)
      if whole.isEmpty && fraction.isEmpty then none
      else (exponent? tail).bind fun e ↦
        stored? ⟨negative, Digit.number (digitValues (whole ++ fraction)), e - fraction.length⟩ :=
  rfl

theorem fractionOf_pointed (hfs : ∀ c ∈ fs.map Digit.char, isPlainDigit c = true) :
    fractionOf (pointed fs) = (fs.map Digit.char, []) := by
  cases fs with
  | nil => rfl
  | cons x fs =>
    change (((x :: fs).map Digit.char).takeWhile isPlainDigit,
      ((x :: fs).map Digit.char).dropWhile isPlainDigit) = _
    rw [List.takeWhile_eq_self_iff.mpr hfs, List.dropWhile_eq_nil_iff.mpr hfs]

theorem unsigned?_pointed (hne : ds ≠ []) (h : ∀ x ∈ ds ++ fs, x < 10)
    (hfits : fits ⟨negative, Digit.number (ds ++ fs), -fs.length⟩ = true) :
    unsigned? negative (ds.map Digit.char ++ pointed fs) =
      some ⟨negative, Digit.number (ds ++ fs), -fs.length⟩ := by
  have hvalues : digitValues ((ds ++ fs).map Digit.char) = ds ++ fs :=
    Digit.map_toNat_sub_map_char h
  have hds := Digit.isDigit_of_mem_map_char fun x hx ↦ h x (List.mem_append_left fs hx)
  have hfs := Digit.isDigit_of_mem_map_char fun x hx ↦ h x (List.mem_append_right ds hx)
  have hpoint : ∀ c ∈ (pointed fs).head?, c.isDigit = false := by
    cases fs with
    | nil => rintro _ ⟨⟩
    | cons x fs =>
      rintro _ ⟨⟩
      rfl
  have htake : (ds.map Digit.char ++ pointed fs).takeWhile isPlainDigit = ds.map Digit.char :=
    Digit.takeWhile_isDigit hds hpoint
  have hdrop : (ds.map Digit.char ++ pointed fs).dropWhile isPlainDigit = pointed fs :=
    Digit.dropWhile_isDigit hds hpoint
  have hwhole : (ds.map Digit.char).isEmpty = false := by simp [hne]
  rw [List.map_append] at hvalues
  simp only [unsigned?_eq, htake, hdrop, fractionOf_pointed hfs, hwhole, Bool.false_and,
    Bool.false_eq_true, if_false, exponent?, Option.bind_some, hvalues, List.length_map,
    Int.zero_sub]
  exact if_pos hfits

/-- What is read can be stored. -/
theorem fits_of_unsigned? (h : unsigned? negative cs = some d) : d.fits = true := by
  simp only [unsigned?_eq] at h
  split at h
  · cases h
  · obtain ⟨e, -, h⟩ := Option.bind_eq_some_iff.mp h
    obtain ⟨hfits, hd⟩ := Option.ite_none_right_eq_some.mp h
    exact Option.some.inj hd ▸ hfits

/-- The plain text is read as what it spells. -/
theorem unsigned?_plainAbs (hfits : d.fits = true) :
    unsigned? d.negative d.plainAbs = some d.spelledOut := by
  obtain ⟨ds, fs, htext, hne, hdigits, hspelled⟩ := exists_plainAbs_eq d
  have hfits' := fits_spelledOut hfits
  rw [hspelled] at hfits'
  rw [htext, hspelled, unsigned?_pointed hne hdigits hfits']

/-! ## Reading plain texts -/

/-- The characters of plain texts. -/
def plainCharacters : List Char := ['0', '1', '2', '3', '4', '5', '6', '7', '8', '9', '.', '-']

theorem char_mem_plainCharacters {x : Nat} (h : x < 10) : Digit.char x ∈ plainCharacters := by
  have hall : ∀ x < 10, Digit.char x ∈ plainCharacters := by decide
  exact hall x h

theorem map_char_subset (h : ∀ x ∈ ds, x < 10) : ds.map Digit.char ⊆ plainCharacters := by
  intro c hc
  obtain ⟨x, hx, rfl⟩ := List.mem_map.mp hc
  exact char_mem_plainCharacters (h x hx)

theorem plainAbs_subset (d : Decimal) : d.plainAbs ⊆ plainCharacters := by
  obtain ⟨ds, fs, htext, -, hdigits, -⟩ := exists_plainAbs_eq d
  have hfs := map_char_subset fun x hx ↦ hdigits x (List.mem_append_right ds hx)
  rw [htext, List.append_subset]
  refine ⟨map_char_subset fun x hx ↦ hdigits x (List.mem_append_left fs hx), ?_⟩
  cases fs with
  | nil => exact List.nil_subset _
  | cons x fs => exact List.cons_subset.mpr ⟨by decide, hfs⟩

theorem plainChars_subset (d : Decimal) : d.plainChars ⊆ plainCharacters := by
  refine List.append_subset.mpr ⟨?_, plainAbs_subset d⟩
  cases d.negative <;> decide

theorem mapM_eq_some_self {α : Type} {f : α → Option α} {xs : List α}
    (h : ∀ x ∈ xs, f x = some x) : xs.mapM f = some xs := by
  induction xs with
  | nil => rfl
  | cons x rest ih =>
    obtain ⟨hx, hrest⟩ := List.forall_mem_cons.mp h
    rw [List.mapM_cons, hx, ih hrest]
    rfl

theorem normalised?_of_subset (h : cs ⊆ plainCharacters) : normalised? cs = some cs := by
  have hblank : ∀ c ∈ plainCharacters, Blank.isBlank c = false :=
    List.all_iff_forall_prop.mp (by decide)
  have hkept : ∀ c ∈ plainCharacters, (c != '_') = true := List.all_iff_forall_prop.mp (by decide)
  have hplain : ∀ c ∈ plainCharacters, plainCharacter? c = some c :=
    List.all_iff_forall_prop.mp (by decide)
  rw [normalised?, Blank.trimChars_of_forall fun c hc ↦ hblank c (h hc),
    List.filter_eq_self.mpr fun c hc ↦ hkept c (h hc)]
  exact mapM_eq_some_self fun c hc ↦ hplain c (h hc)

theorem splitSign_cons {c : Char} (h : c ≠ '-') (h' : c ≠ '+') (rest : List Char) :
    splitSign (c :: rest) = (false, c :: rest) := by
  rw [splitSign]
  · exact fun _ hc ↦ h (List.cons.inj hc).1
  · exact fun _ hc ↦ h' (List.cons.inj hc).1

theorem splitSign_plainChars (d : Decimal) : splitSign d.plainChars = (d.negative, d.plainAbs) := by
  rw [plainChars]
  cases d.negative with
  | true => rfl
  | false =>
    obtain ⟨ds, fs, htext, hne, hdigits, -⟩ := exists_plainAbs_eq d
    obtain ⟨x, ds, rfl⟩ := List.exists_cons_of_ne_nil hne
    have hsigns : ∀ x < 10, Digit.char x ≠ '-' ∧ Digit.char x ≠ '+' := by decide
    obtain ⟨hminus, hplus⟩ := hsigns x (hdigits x List.mem_cons_self)
    rw [htext]
    exact splitSign_cons hminus hplus _

theorem finite?_undefined? : (undefined? negative cs).bind Extended.finite? = none := by
  unfold undefined?
  simp only
  split
  · split <;> rfl
  · rfl

/-- Only digits with a point and an exponent are read as a finite decimal. -/
theorem finite?_readChars? (cs : List Char) :
    (Extended.readChars? cs).bind Extended.finite? =
      (normalised? cs).bind fun text ↦ unsigned? (splitSign text).1 (splitSign text).2 := by
  rw [Extended.readChars?, Option.bind_assoc]
  congr 1
  funext text
  simp only
  cases unsigned? (splitSign text).1 (splitSign text).2 with
  | some d => rfl
  | none =>
    simp only
    split
    · rfl
    · exact finite?_undefined?

theorem finite?_readChars?_plainChars (hfits : d.fits = true) :
    (Extended.readChars? d.plainChars).bind Extended.finite? = some d.spelledOut := by
  rw [finite?_readChars?, normalised?_of_subset (plainChars_subset d), Option.bind_some,
    splitSign_plainChars, unsigned?_plainAbs hfits]

theorem fits_of_amountOfChars? (h : amountOfChars? cs = some d) : d.fits = true := by
  rw [amountOfChars?, finite?_readChars?] at h
  obtain ⟨text, -, hread⟩ := Option.bind_eq_some_iff.mp h
  exact fits_of_unsigned? hread

end Decimal

end ReceiptRules
