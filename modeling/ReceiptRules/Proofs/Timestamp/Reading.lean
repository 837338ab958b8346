import Mathlib.Data.List.Basic
import Mathlib.Order.Basic
import ReceiptRules.Proofs.Text.Digit
import ReceiptRules.Timestamp
import ReceiptRules.Timestamp.Reader

/-!
# The order of moments and their stored form

Moments with an offset are compared in universal time, and moments without one as they are written.
A moment that has an offset and one that has none cannot be compared.

The stored form of a timestamp is read back as that timestamp, with or without a fraction of a
second and with or without an offset. Each part is read off the front of whatever follows it.
-/

namespace ReceiptRules.Timestamp

/-- Microseconds in universal time, an unknown offset being taken for zero. -/
def instant (t : Timestamp) : Int :=
  let minutes : Int := ((t.date.ordinal * 24 + t.hour) * 60 + t.minute : Nat)
  let offset := (t.offset.map UtcOffset.minutes).getD 0
  ((minutes - offset) * 60 + t.second) * 1000000 + t.microsecond

instance : LE Timestamp where
  le a b := a.offset.isSome = b.offset.isSome ∧ a.instant ≤ b.instant

theorem le_iff {a b : Timestamp} :
    a ≤ b ↔ a.offset.isSome = b.offset.isSome ∧ a.instant ≤ b.instant := Iff.rfl

instance : Preorder Timestamp where
  le_refl t := le_iff.mpr ⟨rfl, Int.le_refl t.instant⟩
  le_trans _ _ _ hab hbc := le_iff.mpr ⟨hab.1.trans hbc.1, Int.le_trans hab.2 hbc.2⟩

instance (a b : Timestamp) : Decidable (a ≤ b) := decidable_of_iff _ le_iff.symm

/-- Noon in a place that is eight hours ahead comes before five in the morning in universal time. -/
example : (⟨⟨2024, 3, 5, .refl true⟩, hourOf 12, minuteOf 0, minuteOf 0, microsecondOf 0,
    some ⟨480, by decide⟩⟩ : Timestamp) ≤
      ⟨⟨2024, 3, 5, .refl true⟩, hourOf 5, minuteOf 0, minuteOf 0, microsecondOf 0, some utc⟩ := by
  decide

end ReceiptRules.Timestamp

namespace ReceiptRules

open Text

/-! ## Digits in pairs -/

theorem Text.Digit.padded_one {n : Nat} (h : n < 10) : Digit.padded 1 n = [Digit.char n] := by
  simp [Digit.padded, Digit.text, Digit.digits_of_lt h]

theorem Text.Digit.padded_two {n : Nat} (h : n < 100) :
    Digit.padded 2 n = [Digit.char (n / 10), Digit.char (n % 10)] := by
  rw [Digit.padded_succ Nat.one_pos, Digit.padded_one (by omega), List.singleton_append]

theorem Text.Digit.padded_four (n : Nat) :
    Digit.padded 4 n = Digit.padded 2 (n / 100) ++ Digit.padded 2 (n % 100) := by
  have htens : n % 100 / 10 = n / 10 % 10 := by omega
  have hunits : n % 100 % 10 = n % 10 := by omega
  have hhundreds : n / 10 / 10 = n / 100 := by omega
  rw [Digit.padded_succ (by decide), Digit.padded_succ (by decide), hhundreds,
    Digit.padded_two (n := n % 100) (by omega), htens, hunits, List.append_assoc,
    List.singleton_append]

namespace Timestamp

variable {rest : List Char}

theorem digit?_char {d : Nat} (h : d < 10) : digit? (Digit.char d) = some d := by
  have hall : ∀ d < 10, digit? (Digit.char d) = some d := by decide
  exact hall d h

theorem two?_padded {n : Nat} (h : n < 100) :
    two? (Digit.padded 2 n ++ rest) = some (n, rest) := by
  have hsum : 10 * (n / 10) + n % 10 = n := Nat.div_add_mod n 10
  simp [Digit.padded_two h, two?, digit?_char (d := n / 10) (by omega),
    digit?_char (Nat.mod_lt n (by decide)), hsum]

theorem twoBelow?_padded {n : Nat} (k : Fin n) (h : n ≤ 100) :
    twoBelow? n (Digit.padded 2 k ++ rest) = some (k, rest) := by
  simp [twoBelow?, two?_padded (n := k) (by omega)]

theorem char?_cons (c : Char) : char? c (c :: rest) = some rest := by
  simp [char?]

/-! ## Date -/

theorem datePart?_isoChars (d : Date) : datePart? (d.isoChars ++ rest) = some (d, rest) := by
  have hdays : ∀ year month, Date.daysInMonth year month ≤ 31 := by
    intro year month
    unfold Date.daysInMonth
    split <;> (try split) <;> omega
  have hvalid := d.valid
  simp only [Date.isDay, Bool.and_eq_true, decide_eq_true_eq] at hvalid
  have hday := hdays d.year d.month
  have hyear : 100 * (d.year / 100) + d.year % 100 = d.year := Nat.div_add_mod d.year 100
  simp [datePart?, Date.isoChars, Digit.padded_four,
    two?_padded (n := d.year / 100) (by omega), two?_padded (n := d.year % 100) (by omega),
    two?_padded (n := d.month) (by omega), two?_padded (n := d.day) (by omega), char?_cons, hyear]

/-! ## Time of day -/

/-- What follows a time of day is not taken for a part of its fraction. -/
def EndsTime (rest : List Char) : Prop :=
  ∀ c ∈ rest.head?, c.isDigit = false ∧ c ≠ '.' ∧ c ≠ ','

theorem filterMap_digit?_padded (width n : Nat) :
    (Digit.padded width n).filterMap digit? = Digit.filled width n := by
  rw [Digit.padded_eq_map_filled, List.filterMap_map]
  calc (Digit.filled width n).filterMap (digit? ∘ Digit.char)
      = (Digit.filled width n).filterMap some :=
      List.filterMap_congr fun d hd ↦ digit?_char (Digit.lt_ten_of_mem_filled hd)
    _ = Digit.filled width n := List.filterMap_some

theorem isDigit_of_mem_padded {width n : Nat} {c : Char} (h : c ∈ Digit.padded width n) :
    c.isDigit = true := by
  rw [Digit.padded_eq_map_filled, List.mem_map] at h
  obtain ⟨d, hd, rfl⟩ := h
  exact Digit.isDigit_char_ascii (Digit.lt_ten_of_mem_filled hd)

theorem microsecondOf_val (m : Fin 1000000) : microsecondOf m = m :=
  Fin.ext (Nat.mod_eq_of_lt m.isLt)

theorem fraction?_of_endsTime (h : EndsTime rest) :
    fraction? rest = some (microsecondOf 0, rest) := by
  cases rest with
  | nil => rfl
  | cons c rest =>
    obtain ⟨-, hpoint, hcomma⟩ := h c rfl
    simp [fraction?, hpoint, hcomma]

theorem fraction?_fractionChars (m : Fin 1000000) (h : EndsTime rest) :
    fraction? (fractionChars m ++ rest) = some (m, rest) := by
  rw [fractionChars]
  split
  · next hm =>
    have hzero : (0 : Fin 1000000) = m := Fin.ext (beq_iff_eq.mp hm).symm
    rw [List.nil_append, fraction?_of_endsTime h, ← hzero]
    rfl
  · have hdigits : ∀ c ∈ Digit.padded 6 m, c.isDigit = true := fun c ↦ isDigit_of_mem_padded
    have hlength : (Digit.padded 6 m).length = 6 := Digit.length_padded (by decide) m.isLt
    have hend : ∀ c ∈ rest.head?, c.isDigit = false := fun c hc ↦ (h c hc).1
    have hsix : (Digit.padded 6 m ++ List.replicate 6 '0').take 6 = Digit.padded 6 m := by
      rw [List.take_append_of_le_length (by omega), List.take_of_length_le (by omega)]
    have hnonempty : (Digit.padded 6 m).isEmpty = false := by
      simpa using Digit.padded_ne_nil 6 m
    rw [List.cons_append, fraction?, if_pos (by decide),
      Digit.takeWhile_isDigit hdigits hend, Digit.dropWhile_isDigit hdigits hend]
    simp only [hnonempty, hsix, filterMap_digit?_padded, Digit.number_filled, microsecondOf_val]
    rfl

theorem seconds?_padded (second : Fin 60) (m : Fin 1000000) (h : EndsTime rest) :
    seconds? (':' :: (Digit.padded 2 second ++ (fractionChars m ++ rest))) =
      some (second, m, rest) := by
  simp [seconds?, twoBelow?_padded second (by decide), fraction?_fractionChars m h]

/-! ## Offset -/

/-- The stored form of an offset, nothing if there is none. -/
def zoneChars : Option UtcOffset → List Char
  | none => []
  | some offset => if offset.minutes == 0 then ['Z'] else offsetChars offset

theorem endsTime_zoneChars (offset : Option UtcOffset) : EndsTime (zoneChars offset) := by
  cases offset with
  | none => nofun
  | some offset =>
    rw [zoneChars]
    split
    · exact fun c hc ↦ (Option.mem_some.mp hc) ▸ by decide
    · rw [offsetChars]
      split <;> exact fun c hc ↦ (Option.mem_some.mp hc) ▸ by decide

theorem offsetMinutes?_padded {n : Nat} (h : n < 1440) :
    offsetMinutes? (Digit.padded 2 (n / 60) ++ ':' :: Digit.padded 2 (n % 60)) = some (n, []) := by
  have hminutes : two? (Digit.padded 2 (n % 60)) = some (n % 60, []) := by
    simpa using @two?_padded [] (n % 60) (by omega)
  have hsum : 60 * (n / 60) + n % 60 = n := Nat.div_add_mod n 60
  have hbelow : n % 60 < 60 := Nat.mod_lt n (by decide)
  simp [offsetMinutes?, two?_padded (n := n / 60) (by omega), hminutes, hbelow, hsum]

theorem offsetOf?_minutes (offset : UtcOffset) : offsetOf? offset.minutes = some offset := by
  rw [offsetOf?, dif_pos offset.inDay]

theorem offset?_offsetChars (offset : UtcOffset) :
    offset? (offsetChars offset) = some (some offset) := by
  have hread := offsetMinutes?_padded offset.inDay
  have hback := offsetOf?_minutes offset
  rw [offsetChars]
  split
  · next hneg =>
    have habs : -((offset.minutes.natAbs : Nat) : Int) = offset.minutes := by omega
    generalize offset.minutes.natAbs = minutes at *
    simp [offset?, hread, habs, hback]
  · next hnonneg =>
    have habs : ((offset.minutes.natAbs : Nat) : Int) = offset.minutes := by omega
    generalize offset.minutes.natAbs = minutes at *
    simp [offset?, hread, habs, hback]

theorem offset?_zoneChars (offset : Option UtcOffset) :
    offset? (zoneChars offset) = some offset := by
  cases offset with
  | none => rfl
  | some offset =>
    rw [zoneChars]
    split
    · next hzero =>
      have hutc : utc = offset := by
        cases offset
        cases beq_iff_eq.mp hzero
        rfl
      rw [← hutc]
      rfl
    · exact offset?_offsetChars offset

/-! ## The whole timestamp -/

theorem written?_storedChars (t : Timestamp) : written? t.storedChars = some t := by
  have hchars : t.storedChars = t.date.isoChars ++ 'T' :: (Digit.padded 2 t.hour ++
      ':' :: (Digit.padded 2 t.minute ++ ':' :: (Digit.padded 2 t.second ++
        (fractionChars t.microsecond ++ zoneChars t.offset)))) := by
    simp only [storedChars, localChars, List.append_assoc, List.cons_append]
    rfl
  rw [hchars, written?]
  simp [datePart?_isoChars, isSeparator, twoBelow?_padded t.hour (by decide),
    twoBelow?_padded t.minute (by decide), char?_cons,
    seconds?_padded t.second t.microsecond (endsTime_zoneChars t.offset), offset?_zoneChars]

/-- A stored timestamp is read back as it was. -/
theorem read?_stored (t : Timestamp) : read? t.stored = some t := by
  rw [read?, stored, String.toList_ofList, written?_storedChars]

end Timestamp

end ReceiptRules
