import ReceiptRules.Proofs.Engine.Numbering

/-!
# Reading back the numbers of classified receipts

The archive number that a classification gives is read back as the key of its request and the serial
that was given, so that counters made from it go on behind it, exactly when the code that stands in
for a missing one is fit to be a code. The codes that come from actions and categories always are.
-/

namespace ReceiptRules.Engine

open ArchiveNumber Text

/-- The number of an outcome is known to its reader: the key of the request and the serial behind the
counters are read from it, and counters that have seen it never give it again. -/
structure ReadBack (c : Counters) (o : Outcome) (number : String) (key : NumberKey) (serial : Nat) :
    Prop where
  request : o.request = some key
  serial_eq : serial = c.current key + 1
  read : read number = .ok (some (key, serial))
  continued : ∀ known seeded, number ∈ known → Counters.ofNumbers known = .ok seeded →
    serial ≤ seeded.current key
  not_again : ∀ known seeded, number ∈ known → Counters.ofNumbers known = .ok seeded →
    ∀ keys, (∀ k ∈ keys, IsPeriod k.period) → number ∉ seeded.numbersOf keys

variable {settings : Settings} {occasion : Directive.Occasion} {rules : List Rule}
  {receipt : Receipt} {c : Counters} {o : Outcome} {number : String}

/-- A classification that gives a number gives that of the next serial of the request. -/
theorem number_eq_format {moved : Option Counters}
    (h : classify settings occasion rules receipt (some c) = (.ok o, moved))
    (hnumber : o.number = some number) :
    ∃ key, o.request = some key ∧ Directive.IsRequest settings key ∧
      WholeNumber.writable (c.current key + 1 : Nat) = true ∧
      number = format key (c.current key + 1 : Nat) := by
  rw [classify_some] at h
  cases hplain : unnumbered settings occasion rules receipt with
  | error e =>
    rw [hplain] at h
    cases h
  | ok plain =>
    obtain ⟨hnone, hrequests⟩ := unnumbered_eq_ok hplain
    rw [hplain] at h
    simp only [Prod.mk.injEq, numberOutcome] at h
    cases hkey : plain.request with
    | none =>
      rw [hkey] at h
      cases h.1
      rw [hnone] at hnumber
      cases hnumber
    | some key =>
      simp only [hkey] at h
      by_cases hw : WholeNumber.writable (c.current key + 1 : Nat) = true
      · rw [if_pos hw] at h
        cases h.1
        rw [Outcome.number_withNumber hkey] at hnumber
        cases hnumber
        exact ⟨key, by simp [hkey], hrequests key hkey, hw, rfl⟩
      · rw [if_neg hw] at h
        cases h.1

theorem readBack_of_isKey {key : NumberKey} (hkey : IsKey key) (hrequest : o.request = some key)
    (hw : WholeNumber.writable (c.current key + 1 : Nat) = true) :
    ReadBack c o (format key (c.current key + 1 : Nat)) key (c.current key + 1) := by
  have hread := read_format hkey hw
  refine ⟨hrequest, rfl, hread, ?_, ?_⟩
  · intro known seeded hmem hseeded
    exact Counters.le_current_of_ofNumbers hseeded hmem hread
  · intro known seeded hmem hseeded keys hkeys
    exact Counters.format_notMem_numbersOf hseeded hkey hw hmem hkeys

/-! ## A receipt that takes the code of the settings -/

/-- A rule that asks for a number wherever there are remarks. -/
def numberRemarks : Rule where
  id := "NUMBER"
  name := "Number"
  conditions := [⟨.remarks, .contains, "", .and⟩]
  actions := [⟨.generateArchiveNumber, ""⟩]
  createdAt := .midnight ⟨2024, 2, 1, by decide⟩
  updatedAt := .midnight ⟨2024, 2, 1, by decide⟩

def remarksOnly : Receipt := ⟨none, [("REMARKS", .text "")]⟩

/-- The receipt gets a number with the code of the settings, whatever that code is. -/
theorem classify_remarksOnly (settings : Settings) (occasion : Directive.Occasion) :
    ∃ o moved, classify settings occasion [numberRemarks] remarksOnly (some .empty) = (.ok o, moved) ∧
      o.request = some ⟨periodOf occasion.day, settings.defaultCode⟩ ∧
      o.number = some (format ⟨periodOf occasion.day, settings.defaultCode⟩ 1) := by
  obtain ⟨plain, hplain, hrequest⟩ : ∃ plain,
      unnumbered settings occasion [numberRemarks] remarksOnly = .ok plain ∧
      plain.request = some ⟨periodOf occasion.day, settings.defaultCode⟩ := ⟨_, rfl, rfl⟩
  have hwritable : WholeNumber.writable (0 + 1 : Nat) = true :=
    WholeNumber.writable_of_le (by decide)
  have hclassify := classify_some settings occasion [numberRemarks] remarksOnly .empty
  rw [hplain] at hclassify
  simp only [numberOutcome, hrequest, Counters.current_empty, hwritable, if_true] at hclassify
  refine ⟨_, _, hclassify, ?_, ?_⟩
  · rw [Outcome.request_withNumber]
    exact hrequest
  · exact Outcome.number_withNumber hrequest _

/-- All numbers of all classifications under some settings are read back if and only if the code that
stands in for a missing one is fit to be a code. -/
theorem number_read_back_iff (settings : Settings) :
    (∀ (occasion : Directive.Occasion) (rules : List Rule) (receipt : Receipt) (c : Counters)
      (o : Outcome) (moved : Option Counters) (number : String),
      classify settings occasion rules receipt (some c) = (.ok o, moved) →
      o.number = some number → ∃ key serial, ReadBack c o number key serial) ↔
    IsCode settings.defaultCode := by
  constructor
  · intro h
    obtain ⟨o, moved, hclassify, hrequest, hnumber⟩ :=
      classify_remarksOnly settings ⟨none, ⟨2024, 7, 15, by decide⟩⟩
    obtain ⟨key, serial, hback⟩ := h _ _ _ _ _ _ _ hclassify hnumber
    have hkey : key = ⟨_, settings.defaultCode⟩ :=
      Option.some.inj (hback.request.symm.trans hrequest)
    rw [hkey] at hback
    exact (isKey_of_read hback.read).code
  · intro hdefault occasion rules receipt c o moved number hclassify hnumber
    obtain ⟨key, hrequest, hform, hw, rfl⟩ := number_eq_format hclassify hnumber
    exact ⟨key, c.current key + 1, readBack_of_isKey (hform.isKey hdefault) hrequest hw⟩

end ReceiptRules.Engine
