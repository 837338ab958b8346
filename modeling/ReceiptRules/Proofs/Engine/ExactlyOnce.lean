import ReceiptRules.Proofs.ArchiveNumber.Calls
import ReceiptRules.Proofs.Engine.Rereading

/-!
# Numbers are taken once and last

A classification moves the counter of the key for which its outcome asks a number, by one, and no
other counter. Where no number is asked for, and where the classification fails before it comes to
the number, no counter moves. Only one failure lies behind that point: a serial beyond the greatest
that can be written is counted, although there is no text for it. A directive that has a number
keeps it and takes none from the counters. The empty text does not count as a number.
-/

namespace ReceiptRules

open ArchiveNumber Counters Text

/-- The counter of the key has grown by one, and all others are as they were. -/
structure ArchiveNumber.Counters.CountsOn (c : Counters) (key : NumberKey) (c' : Counters) :
    Prop where
  grown : c'.current key = c.current key + 1
  others : ∀ key', key' ≠ key → c'.current key' = c.current key'

theorem ArchiveNumber.Counters.countsOn_advance (c : Counters) (key : NumberKey) :
    c.CountsOn key (c.advance key) := by
  constructor
  · rw [current_advance, if_pos rfl]
  · intro key' hne
    rw [current_advance, if_neg hne]

/-- A directive with a number is not numbered again. -/
theorem Directive.assignNumber_of_hasNumber {d : Directive} (h : d.hasNumber = true)
    (c : Counters) : d.assignNumber c = (.ok d, c) := by
  rw [assignNumber]
  cases d.numberRequest with
  | none => rfl
  | some key => exact if_pos h

/-- A directive without a number takes the next one of the key that it asks for. -/
theorem Directive.assignNumber_of_lt {d : Directive} {c : Counters} {key : NumberKey}
    (hrequest : d.numberRequest = some key) (hnone : d.hasNumber = false)
    (h : c.current key < greatestSerial) :
    d.assignNumber c =
      (.ok { d with archiveNumber := some (format key (c.current key + 1 : Nat)) },
        c.advance key) := by
  rw [assignNumber, hrequest]
  simp only [hnone, Bool.false_eq_true, if_false, next_of_lt h]

theorem Directive.hasNumber_of_ne_empty {d : Directive} {number : String}
    (h : d.archiveNumber = some number) (hne : number ≠ "") : d.hasNumber = true := by
  simp [hasNumber, h, hne]

namespace Engine

variable {c c' : Counters} {o : Outcome} {key : NumberKey} {result : Except Failure Outcome}

theorem numberOutcome_of_request_eq_none (h : o.request = none) (c : Counters) :
    numberOutcome c o = (.ok o, c) := by
  rw [numberOutcome, h]

theorem numberOutcome_of_lt (h : o.request = some key) (hlt : c.current key < greatestSerial) :
    numberOutcome c o = (.ok (o.withNumber (some (format key (c.current key + 1 : Nat)))),
      c.advance key) := by
  simp only [numberOutcome, h, writable_iff_le_greatestSerial.mpr hlt, if_true]

/-- A serial that cannot be written is counted all the same. -/
theorem numberOutcome_of_ge (h : o.request = some key) (hge : greatestSerial ≤ c.current key) :
    numberOutcome c o = (.error .unwritableSerial, c.advance key) := by
  have hlong : ¬ WholeNumber.writable (c.current key + 1 : Nat) = true := by
    rw [writable_iff_le_greatestSerial]
    omega
  simp only [numberOutcome, h, if_neg hlong]

/-- What a classification makes of the counters, given what it comes to without any. -/
structure NumberedOnce (plain : Except Failure Outcome) (c : Counters)
    (result : Except Failure Outcome) (c' : Counters) : Prop where
  asked : ∀ o key, result = .ok o → o.request = some key →
    c.CountsOn key c' ∧ o.number = some (format key (c'.current key))
  unasked : ∀ o, result = .ok o → o.request = none → ∀ key, c'.current key = c.current key
  last : ∀ o, result = .ok o → plain = .ok (o.withNumber none)
  failed : ∀ e, result = .error e →
    plain = .error e ∧ (∀ key, c'.current key = c.current key) ∨
    e = .unwritableSerial ∧ ∃ o key, plain = .ok o ∧ o.request = some key ∧
      greatestSerial ≤ c.current key ∧ c.CountsOn key c'

theorem numberedOnce_of_error (c : Counters) (e : Failure) :
    NumberedOnce (.error e) c (.error e) c where
  asked _ _ h := nomatch h
  unasked _ h := nomatch h
  last _ h := nomatch h
  failed e' h := by
    cases h
    exact .inl ⟨rfl, fun _ ↦ rfl⟩

theorem numberedOnce_numberOutcome (c : Counters) (hnumber : o.number = none) :
    NumberedOnce (.ok o) c (numberOutcome c o).1 (numberOutcome c o).2 := by
  have hplain : o = o.withNumber none := by rw [← hnumber, Outcome.withNumber_number]
  cases hrequest : o.request with
  | none =>
    rw [numberOutcome_of_request_eq_none hrequest]
    constructor
    · intro o' key h hkey
      cases h
      rw [hrequest] at hkey
      cases hkey
    · exact fun _ _ _ _ ↦ rfl
    · intro o' h
      cases h
      rw [← hplain]
    · exact fun _ h ↦ nomatch h
  | some key =>
    rcases Nat.lt_or_ge (c.current key) greatestSerial with hlt | hge
    · rw [numberOutcome_of_lt hrequest hlt]
      constructor
      · intro o' key' h hkey'
        cases h
        rw [Outcome.request_withNumber, hrequest] at hkey'
        cases hkey'
        have hcounts := c.countsOn_advance key
        refine ⟨hcounts, ?_⟩
        rw [Outcome.number_withNumber hrequest, hcounts.grown]
      · intro o' h hnone
        cases h
        rw [Outcome.request_withNumber, hrequest] at hnone
        cases hnone
      · intro o' h
        cases h
        rw [Outcome.withNumber_withNumber, ← hplain]
      · exact fun _ h ↦ nomatch h
    · rw [numberOutcome_of_ge hrequest hge]
      constructor
      · exact fun _ _ h ↦ nomatch h
      · exact fun _ h ↦ nomatch h
      · exact fun _ h ↦ nomatch h
      · intro e h
        cases h
        exact .inr ⟨rfl, o, key, rfl, hrequest, hge, c.countsOn_advance key⟩

/-- A classification moves at most one counter, by one, and only for a number that it puts on the
directive as the last thing, or that has no text; a directive that has a number is left alone. -/
theorem counted_once_and_last (settings : Settings) (occasion : Directive.Occasion)
    (rules : List Rule) (receipt : Receipt) (c : Counters) :
    (∃ result c', classify settings occasion rules receipt (some c) = (result, some c') ∧
      NumberedOnce (unnumbered settings occasion rules receipt) c result c') ∧
    ∀ (d : Directive) (number : String), d.archiveNumber = some number → number ≠ "" →
      d.assignNumber c = (.ok d, c) := by
  constructor
  · rw [classify_some]
    cases hplain : unnumbered settings occasion rules receipt with
    | error e => exact ⟨_, _, rfl, numberedOnce_of_error c e⟩
    | ok o => exact ⟨_, _, rfl, numberedOnce_numberOutcome c (unnumbered_eq_ok hplain).1⟩
  · intro d number hnumber hne
    exact Directive.assignNumber_of_hasNumber (Directive.hasNumber_of_ne_empty hnumber hne) c

def julyOther : NumberKey := ⟨"2024-07", "OTH"⟩

def midJuly : Directive.Occasion := ⟨none, ⟨2024, 7, 15, .refl true⟩⟩

/-- The first number of a month is put on the directive, and it stays there. -/
theorem counted_once_and_last_remarks : ∃ o d c',
    classify {} midJuly [numberRemarks] remarksOnly (some .empty) = (.ok o, some c') ∧
      o.directive = some d ∧ d.archiveNumber = some "2024-07-OTH-0001" ∧
      Counters.empty.CountsOn julyOther c' ∧ d.assignNumber c' = (.ok d, c') := by
  obtain ⟨result, c', hclassify, honce⟩ :=
    (counted_once_and_last {} midJuly [numberRemarks] remarksOnly .empty).1
  have hseen : (classify {} midJuly [numberRemarks] remarksOnly (some .empty)).1.map
      (fun o ↦ (o.request, o.number)) = .ok (some julyOther, some "2024-07-OTH-0001") := by
    decide +kernel
  rw [hclassify] at hseen
  obtain ⟨o, ho, hparts⟩ := Except.map_eq_ok_iff.mp hseen
  obtain ⟨hrequest, hnumber⟩ := Prod.mk.inj hparts
  obtain ⟨d, hd, hnumber⟩ := Option.bind_eq_some_iff.mp hnumber
  refine ⟨o, d, c', ho ▸ hclassify, hd, hnumber, (honce.asked o julyOther ho hrequest).1, ?_⟩
  exact (counted_once_and_last {} midJuly [numberRemarks] remarksOnly c').2 d _ hnumber (by decide)

/-- A directive that asks for a number and holds the empty text in its place. -/
def emptyNumber : Directive := { numberRequest := some julyOther, archiveNumber := some "" }

/-- Behind the greatest number a classification fails and yet moves the counter, and a directive whose
number is the empty text is given another one. -/
theorem longSerial_counted_and_emptyNumber_replaced :
    (∃ c c', Counters.ofNumbers [format julyOther greatestSerial] = .ok c ∧
      classify { unmatchedNumbered := true } midJuly [] ⟨none, []⟩ (some c) =
        (.error .unwritableSerial, some c') ∧ c'.current julyOther ≠ c.current julyOther) ∧
    ∃ numbered c', emptyNumber.assignNumber .empty = (.ok numbered, c') ∧ numbered ≠ emptyNumber ∧
      c'.current julyOther ≠ Counters.empty.current julyOther := by
  have hperiod : periodOf midJuly.day = julyOther.period := by decide +kernel
  have hkey : IsKey julyOther := ⟨hperiod ▸ isPeriod_periodOf midJuly.day, by decide⟩
  have hread : read (format julyOther greatestSerial) = .ok (some (julyOther, greatestSerial)) :=
    read_format hkey (writable_iff_le_greatestSerial.mpr Nat.le.refl)
  have hmade : Counters.ofNumbers [format julyOther greatestSerial] =
      .ok (Counters.empty.see julyOther greatestSerial) := by
    rw [Counters.ofNumbers, List.foldlM_cons, hread]
    rfl
  have hcurrent : (Counters.empty.see julyOther greatestSerial).current julyOther =
      greatestSerial := by
    rw [current_see, if_pos rfl, current_empty, Nat.zero_max]
  have hasked : (unnumbered { unmatchedNumbered := true } midJuly [] ⟨none, []⟩).map
      Outcome.request = .ok (some julyOther) := by
    decide +kernel
  obtain ⟨plain, hplain, hrequest⟩ := Except.map_eq_ok_iff.mp hasked
  have hfailed : classify { unmatchedNumbered := true } midJuly [] ⟨none, []⟩
      (some (Counters.empty.see julyOther greatestSerial)) = (.error .unwritableSerial,
        some ((Counters.empty.see julyOther greatestSerial).advance julyOther)) := by
    rw [classify_some, hplain]
    simp only [numberOutcome_of_ge hrequest (Nat.le_of_eq hcurrent.symm)]
  have hfirst : Counters.empty.current julyOther < greatestSerial :=
    writable_iff_le_greatestSerial.mp (WholeNumber.writable_of_le (by decide))
  have hreplaced := Directive.assignNumber_of_lt (d := emptyNumber) rfl (by decide) hfirst
  refine ⟨⟨_, _, hmade, hfailed, ?_⟩, _, _, hreplaced, by decide +kernel, ?_⟩
  · rw [(countsOn_advance _ julyOther).grown]
    exact Nat.succ_ne_self _
  · rw [(countsOn_advance _ julyOther).grown]
    exact Nat.succ_ne_self _

end Engine

end ReceiptRules
