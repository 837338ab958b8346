import ReceiptRules.ArchiveNumber
import ReceiptRules.Proofs.Text.Digit

/-!
# Reading archive numbers back

Writing and reading archive numbers are inverse to each other on the keys whose period and code have
the form that the reader knows. The reader gives no other keys, so that a number with a foreign code
is lost on it.
-/

namespace ReceiptRules.ArchiveNumber

open Text

/-! ## The form of periods and codes -/

/-- Four digits, a hyphen and two digits, of any script. -/
def IsPeriod (s : String) : Prop :=
  ∃ a b c d e f, s.toList = [a, b, c, d, '-', e, f] ∧
    ∀ x ∈ [a, b, c, d, e, f], Digit.isDigit x = true

/-- At least one character, all of them capitals and digits of the first 128 characters. -/
def IsCode (s : String) : Prop := s.toList ≠ [] ∧ ∀ c ∈ s.toList, isCodeChar c = true

instance (s : String) : Decidable (IsCode s) :=
  decidable_of_iff (s.toList ≠ [] ∧ s.toList.all isCodeChar = true)
    (and_congr_right' List.all_eq_true)

/-- The keys that the reader of archive numbers knows. -/
structure IsKey (key : NumberKey) : Prop where
  period : IsPeriod key.period
  code : IsCode key.code

theorem isPeriod_periodOf (d : Date) : IsPeriod (periodOf d) := by
  have hvalid := d.valid
  simp only [Date.isDay, Bool.and_eq_true, decide_eq_true_eq] at hvalid
  have hyear := Digit.length_padded (by decide : 0 < 4) (show d.year < 10 ^ 4 by omega)
  have hmonth := Digit.length_padded (by decide : 0 < 2) (show d.month < 10 ^ 2 by omega)
  obtain ⟨y₁, y₂, y₃, y₄, hy⟩ : ∃ y₁ y₂ y₃ y₄, Digit.padded 4 d.year = [y₁, y₂, y₃, y₄] :=
    match Digit.padded 4 d.year, hyear with
    | [y₁, y₂, y₃, y₄], _ => ⟨y₁, y₂, y₃, y₄, rfl⟩
  obtain ⟨m₁, m₂, hm⟩ : ∃ m₁ m₂, Digit.padded 2 d.month = [m₁, m₂] :=
    match Digit.padded 2 d.month, hmonth with
    | [m₁, m₂], _ => ⟨m₁, m₂, rfl⟩
  refine ⟨y₁, y₂, y₃, y₄, m₁, m₂, by simp [periodOf, hy, hm], ?_⟩
  intro x hx
  have hmem : x ∈ Digit.padded 4 d.year ∨ x ∈ Digit.padded 2 d.month := by
    rw [hy, hm]
    simpa [or_assoc] using hx
  rcases hmem with hx | hx
  · exact Digit.isDigit_of_mem_padded hx
  · exact Digit.isDigit_of_mem_padded hx

/-! ## Taking numbers apart -/

theorem splitPeriod_append {s : String} (h : IsPeriod s) (rest : List Char) :
    splitPeriod (s.toList ++ '-' :: rest) = some (s.toList, rest) := by
  obtain ⟨a, b, c, d, e, f, hs, hdigits⟩ := h
  have hall : [a, b, c, d, e, f].all Digit.isDigit = true := List.all_eq_true.mpr hdigits
  rw [hs]
  simp only [List.cons_append, List.nil_append, splitPeriod, hall, if_true]

theorem of_splitPeriod {cs period rest : List Char}
    (h : splitPeriod cs = some (period, rest)) :
    IsPeriod (String.ofList period) ∧ cs = period ++ '-' :: rest := by
  unfold splitPeriod at h
  split at h
  · next a b c d e f rest' =>
    split at h
    · next hall =>
      cases h
      exact ⟨⟨a, b, c, d, e, f, by simp, List.all_eq_true.mp hall⟩, rfl⟩
    · cases h
  · cases h

theorem isPeriod_iff {s : String} :
    IsPeriod s ↔ splitPeriod (s.toList ++ ['-']) = some (s.toList, []) := by
  refine ⟨fun h ↦ splitPeriod_append h [], fun h ↦ ?_⟩
  rw [← String.ofList_toList (s := s)]
  exact (of_splitPeriod h).1

instance (s : String) : Decidable (IsPeriod s) := decidable_of_iff' _ isPeriod_iff

instance (key : NumberKey) : Decidable (IsKey key) :=
  decidable_of_iff (IsPeriod key.period ∧ IsCode key.code)
    ⟨fun ⟨hperiod, hcode⟩ ↦ ⟨hperiod, hcode⟩, fun h ↦ ⟨h.period, h.code⟩⟩

theorem isCodeChar_hyphen : isCodeChar '-' = false := rfl

theorem takeWhile_code {s : String} (h : IsCode s) (rest : List Char) :
    (s.toList ++ '-' :: rest).takeWhile isCodeChar = s.toList := by
  rw [List.takeWhile_append_of_pos h.2]
  simp [isCodeChar_hyphen]

theorem dropWhile_code {s : String} (h : IsCode s) (rest : List Char) :
    (s.toList ++ '-' :: rest).dropWhile isCodeChar = '-' :: rest := by
  rw [List.dropWhile_append_of_pos h.2]
  simp [isCodeChar_hyphen]

theorem split_chars {key : NumberKey} (h : IsKey key) {digits : List Char} {values : List Nat}
    (hne : digits ≠ []) (hvalues : digits.mapM Digit.value? = some values) :
    split (key.period.toList ++ '-' :: key.code.toList ++ '-' :: digits) = some (key, values) := by
  have hcode : key.code.toList.isEmpty = false := List.isEmpty_eq_false_iff.mpr h.code.1
  have hdigits : digits.isEmpty = false := List.isEmpty_eq_false_iff.mpr hne
  rw [List.append_assoc, List.cons_append, split, splitPeriod_append h.period]
  simp only [Option.bind_eq_bind, Option.bind_some, takeWhile_code h.code, dropWhile_code h.code,
    hcode, hdigits, hvalues, String.ofList_toList]
  rfl

/-- The reader takes texts of one form apart, the period and the code being of theirs. -/
theorem split_eq_some_iff {cs : List Char} {key : NumberKey} {values : List Nat} :
    split cs = some (key, values) ↔ IsKey key ∧ ∃ digits, digits ≠ [] ∧
      digits.mapM Digit.value? = some values ∧
      cs = key.period.toList ++ '-' :: key.code.toList ++ '-' :: digits := by
  constructor
  · intro h
    unfold split at h
    simp only [Option.bind_eq_bind, Option.bind_eq_some_iff] at h
    obtain ⟨⟨period, rest⟩, hsplit, h⟩ := h
    obtain ⟨hperiod, rfl⟩ := of_splitPeriod hsplit
    split at h
    · simp at h
    · next hne =>
      have hcode : IsCode (String.ofList (rest.takeWhile isCodeChar)) := by
        refine ⟨by simpa using hne, fun c hc ↦ ?_⟩
        rw [String.toList_ofList] at hc
        exact List.all_eq_true.mp List.all_takeWhile c hc
      split at h
      · next digits hdrop =>
        have hrest : rest = rest.takeWhile isCodeChar ++ '-' :: digits := by
          rw [← hdrop, List.takeWhile_append_dropWhile]
        split at h
        · simp at h
        · next hdigits =>
          rw [Option.bind_eq_some_iff] at h
          obtain ⟨values', hvalues, h⟩ := h
          cases h
          refine ⟨⟨hperiod, hcode⟩, digits, by simpa using hdigits, hvalues, ?_⟩
          rw [String.toList_ofList, String.toList_ofList, List.append_assoc, List.cons_append, ← hrest]
      · cases h
  · rintro ⟨hkey, digits, hne, hvalues, rfl⟩
    exact split_chars hkey hne hvalues

/-! ## Reading what was written -/

theorem serialChars_ofNat (n : Nat) : serialChars n = Digit.padded 4 n := by
  rw [serialChars, if_neg (by omega), Int.natAbs_natCast]

theorem chars_ofNat (key : NumberKey) (n : Nat) :
    chars key n = key.period.toList ++ '-' :: key.code.toList ++ '-' :: Digit.padded 4 n := by
  rw [chars, serialChars_ofNat]

theorem trimChars_chars {key : NumberKey} (h : IsPeriod key.period) (n : Nat) :
    Blank.trimChars (chars key n) = chars key n := by
  obtain ⟨a, b, c, d, e, f, hs, hdigits⟩ := h
  obtain ⟨last, hlast⟩ : ∃ last, (Digit.padded 4 n).getLast? = some last := by
    rw [← Option.isSome_iff_exists, List.getLast?_isSome]
    exact Digit.padded_ne_nil 4 n
  have hfirst : (chars key n).head? = some a := by simp [chars_ofNat, hs]
  have hend : (chars key n).getLast? = some last := by
    rw [chars_ofNat, List.getLast?_append, List.getLast?_cons, hlast]
    rfl
  apply Blank.trimChars_of_ends hfirst hend
  · exact Digit.isBlank_of_isDigit (hdigits a (by simp))
  · exact Digit.isBlank_of_isDigit (Digit.isDigit_of_mem_padded (List.mem_of_getLast? hlast))

theorem length_filled_le_of_writable {n : Nat} (h : WholeNumber.writable n = true) :
    (Digit.filled 4 n).length ≤ WholeNumber.digitLimit := by
  have hlimit : 4 ≤ WholeNumber.digitLimit := by decide
  have hdigits : (Digit.digits n).length ≤ WholeNumber.digitLimit :=
    WholeNumber.length_digits_le_of_writable h
  rw [Digit.length_filled]
  exact Nat.max_le.mpr ⟨hlimit, hdigits⟩

theorem read_format {key : NumberKey} (h : IsKey key) {n : Nat}
    (hn : WholeNumber.writable n = true) : read (format key n) = .ok (some (key, n)) := by
  have hlength := length_filled_le_of_writable hn
  rw [read, format, String.toList_ofList, trimChars_chars h.period, chars_ofNat,
    split_chars h (Digit.padded_ne_nil 4 n) (Digit.mapM_value?_padded 4 n)]
  simp only [gt_iff_lt, Nat.not_lt.mpr hlength, if_false, Digit.number_filled]

theorem read_eq_some_iff {s : String} {key : NumberKey} {n : Nat} :
    read s = .ok (some (key, n)) ↔ ∃ digits, split (Blank.trimChars s.toList) = some (key, digits) ∧
      digits.length ≤ WholeNumber.digitLimit ∧ Digit.number digits = n := by
  rw [read]
  cases split (Blank.trimChars s.toList) with
  | none => simp
  | some found =>
    obtain ⟨key', digits⟩ := found
    simp only [gt_iff_lt, Option.some.injEq, Prod.mk.injEq]
    split
    · next hlong =>
      simp only [reduceCtorEq, false_iff, not_exists, not_and]
      rintro _ ⟨-, rfl⟩ hshort
      omega
    · next hshort =>
      simp [Nat.not_lt.mp hshort]

/-- The reader finds keys of its own form only. -/
theorem isKey_of_read {s : String} {key : NumberKey} {n : Nat} (h : read s = .ok (some (key, n))) :
    IsKey key := by
  obtain ⟨digits, hsplit, -, -⟩ := read_eq_some_iff.mp h
  exact (split_eq_some_iff.mp hsplit).1

/-! ## One number for each key and serial -/

theorem IsPeriod.length_eq {s : String} (h : IsPeriod s) : s.toList.length = 7 := by
  obtain ⟨a, b, c, d, e, f, hs, -⟩ := h
  rw [hs]
  rfl

theorem hyphen_notMem_padded (width n : Nat) : '-' ∉ Digit.padded width n := by
  intro hmem
  have hdigit := Digit.isDigit_of_mem_padded hmem
  exact absurd hdigit (by decide)

/-- The last hyphen tells what is in front of it from what follows. -/
theorem append_hyphen_inj {front front' back back' : List Char} (h : '-' ∉ back) (h' : '-' ∉ back')
    (heq : front ++ '-' :: back = front' ++ '-' :: back') : front = front' ∧ back = back' := by
  induction front generalizing front' with
  | nil =>
    cases front' with
    | nil => exact ⟨rfl, (List.cons.inj heq).2⟩
    | cons c rest =>
      have hback : back = rest ++ '-' :: back' := (List.cons.inj heq).2
      exact absurd (by simp [hback]) h
  | cons c rest ih =>
    cases front' with
    | nil =>
      have hback : back' = rest ++ '-' :: back := (List.cons.inj heq).2.symm
      exact absurd (by simp [hback]) h'
    | cons c' rest' =>
      obtain ⟨rfl, hrest⟩ := List.cons.inj heq
      obtain ⟨rfl, hback⟩ := ih hrest
      exact ⟨rfl, hback⟩

/-- Whatever their codes are, two keys or two serials never share a number: all periods are of one
length, and no serial has a hyphen. -/
theorem format_injective {key key' : NumberKey} {n n' : Nat} (h : IsPeriod key.period)
    (h' : IsPeriod key'.period) (heq : format key n = format key' n') : key = key' ∧ n = n' := by
  have hchars : chars key n = chars key' n' := String.ofList_injective heq
  rw [chars_ofNat, chars_ofNat, List.append_assoc, List.append_assoc] at hchars
  obtain ⟨hperiod, hrest⟩ := List.append_inj hchars (h.length_eq.trans h'.length_eq.symm)
  obtain ⟨hcode, hserial⟩ := append_hyphen_inj (hyphen_notMem_padded 4 n)
    (hyphen_notMem_padded 4 n') (List.cons.inj hrest).2
  have hkey : key = key' := by
    cases key
    cases key'
    rw [NumberKey.mk.injEq]
    exact ⟨String.toList_injective hperiod, String.toList_injective hcode⟩
  have hn : n = n' := by
    have hfilled : some (Digit.filled 4 n) = some (Digit.filled 4 n') := by
      rw [← Digit.mapM_value?_padded, ← Digit.mapM_value?_padded, hserial]
    calc n = Digit.number (Digit.filled 4 n) := (Digit.number_filled 4 n).symm
      _ = Digit.number (Digit.filled 4 n') := congrArg Digit.number (Option.some.inj hfilled)
      _ = n' := Digit.number_filled 4 n'
  exact ⟨hkey, hn⟩

end ReceiptRules.ArchiveNumber
