import ReceiptRules.Proofs.ArchiveNumber.WrittenForm

/-!
# Numbers stand for their keys and serials

A key of the form that the reader knows and a serial that can be written have a number that stands
for them and for nothing else. Blanks around the number make no difference.

The reader takes more texts than are written: zeros in front of a serial and digits of other scripts
do not stop it. What it finds in them has a number all the same. No number stands for a serial of more
digits than can be written.
-/

namespace ReceiptRules.ArchiveNumber

open Text

/-- The number is written for the key and the serial and for no others, and they are read from it. -/
structure StandsFor (number : String) (key : NumberKey) (n : Nat) : Prop where
  written : write? key n = some number
  found : ∀ text : String, Blank.Around number.toList text.toList →
    read text = .ok (some (key, n))
  unique : ∀ (key' : NumberKey) (n' : Nat), IsKey key' → write? key' n' = some number →
    key' = key ∧ n' = n

theorem write?_eq_some_iff {key : NumberKey} {serial : Int} {number : String} :
    write? key serial = some number ↔
      WholeNumber.writable serial = true ∧ format key serial = number := by
  simp [write?]

theorem write?_eq_none_iff {key : NumberKey} {n : Nat} :
    write? key n = none ↔ WholeNumber.digitLimit < (Digit.digits n).length := by
  rw [← Nat.not_le, ← Int.natAbs_natCast n, ← WholeNumber.writable_iff]
  simp [write?]

theorem read_of_around {s text : String} (h : Blank.Around s.toList text.toList) :
    read text = read s := by
  rw [read, read, Blank.trimChars_of_around h]

theorem standsFor_format {key : NumberKey} (hkey : IsKey key) {n : Nat}
    (hn : WholeNumber.writable n = true) : StandsFor (format key n) key n where
  written := write?_eq_some_iff.mpr ⟨hn, rfl⟩
  found := fun text h ↦ by rw [read_of_around h, read_format hkey hn]
  unique := fun key' n' hkey' h ↦
    format_injective hkey'.period hkey.period (write?_eq_some_iff.mp h).2

theorem writable_of_read {s : String} {key : NumberKey} {n : Nat}
    (h : read s = .ok (some (key, n))) : WholeNumber.writable n = true := by
  obtain ⟨values, hsplit, hlength, rfl⟩ := read_eq_some_iff.mp h
  obtain ⟨-, digits, -, hvalues, -⟩ := split_eq_some_iff.mp hsplit
  exact WholeNumber.writable_number (Digit.lt_ten_of_mapM_value? hvalues) hlength

/-- Numbers stand for all keys of the reader's form with the serials that are short enough, and for
whatever the reader finds. -/
theorem numbers_standFor (key : NumberKey) (n : Nat) :
    (IsKey key → (Digit.digits n).length ≤ WholeNumber.digitLimit →
      ∃ number, StandsFor number key n) ∧
    (WholeNumber.digitLimit < (Digit.digits n).length → write? key n = none) ∧
    ∀ text, read text = .ok (some (key, n)) → ∃ number, StandsFor number key n := by
  refine ⟨fun hkey hn ↦ ?_, write?_eq_none_iff.mpr, fun text h ↦ ?_⟩
  · have hwritable : WholeNumber.writable n = true := WholeNumber.writable_iff.mpr hn
    exact ⟨format key n, standsFor_format hkey hwritable⟩
  · exact ⟨format key n, standsFor_format (isKey_of_read h) (writable_of_read h)⟩

/-- A code of digits and a serial of five digits, with blanks around the number, and the same serial
with a zero in front. -/
theorem numbers_standFor_digits :
    let key : NumberKey := ⟨"2024-07", "2024"⟩
    let n : Nat := 10000
    let tooLong : Nat := Nat.pow 10 WholeNumber.digitLimit
    IsKey key ∧ (Digit.digits n).length ≤ WholeNumber.digitLimit ∧
      WholeNumber.digitLimit < (Digit.digits tooLong).length ∧
      read "2024-07-2024-010000" = .ok (some (key, n)) ∧
      write? key n = some "2024-07-2024-10000" ∧
      read "\t2024-07-2024-10000 \n" = .ok (some (key, n)) ∧
      write? key tooLong = none ∧ ∃ number, StandsFor number key n := by
  intro key n tooLong
  have hkey : IsKey key := by decide +kernel
  have hlength : (Digit.digits n).length ≤ WholeNumber.digitLimit := by decide +kernel
  have hlong : WholeNumber.digitLimit < (Digit.digits tooLong).length := by
    rw [← Nat.not_le, ← Int.natAbs_natCast tooLong, ← WholeNumber.writable_iff,
      WholeNumber.writable_of_ge (Int.le_refl _)]
    exact Bool.false_ne_true
  have hother : read "2024-07-2024-010000" = .ok (some (key, n)) := by decide +kernel
  have hformat : format key n = "2024-07-2024-10000" := by decide +kernel
  have hwritten : write? key n = some "2024-07-2024-10000" :=
    write?_eq_some_iff.mpr ⟨WholeNumber.writable_iff.mpr hlength, hformat⟩
  obtain ⟨number, hnumber⟩ := (numbers_standFor key n).1 hkey hlength
  obtain rfl : number = "2024-07-2024-10000" := Option.some.inj (hnumber.written.symm.trans hwritten)
  have hblanks : Blank.Around "2024-07-2024-10000".toList "\t2024-07-2024-10000 \n".toList :=
    Blank.around_of_all ['\t'] [' ', '\n'] (by decide +kernel) rfl rfl
  exact ⟨hkey, hlength, hlong, hother, hwritten, hnumber.found _ hblanks,
    (numbers_standFor key tooLong).2.1 hlong, (numbers_standFor key n).2.2 _ hother⟩

/-- No number stands for a serial of more digits than can be written, however good the key is. -/
theorem longSerial_unwritten :
    let key : NumberKey := ⟨"2024-07", "EXP"⟩
    let serial : Nat := Nat.pow 10 WholeNumber.digitLimit
    IsKey key ∧
      ¬ ∃ number, write? key serial = some number ∧ read number = .ok (some (key, serial)) := by
  intro key serial
  have hkey : IsKey key := by decide +kernel
  have hlong : WholeNumber.writable serial = false := WholeNumber.writable_of_ge (Int.le_refl _)
  refine ⟨hkey, fun ⟨number, hwritten, _⟩ ↦ ?_⟩
  rw [(write?_eq_some_iff.mp hwritten).1] at hlong
  cases hlong

end ReceiptRules.ArchiveNumber
