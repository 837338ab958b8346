import Mathlib.Data.List.Nodup
import Mathlib.Data.List.Perm.Basic
import ReceiptRules.Proofs.ArchiveNumber.WrittenForm
import ReceiptRules.Proofs.Except
import ReceiptRules.Proofs.Lookup

/-!
# Counting within keys

Counters are seen through the last serial of each key. The keys of a list take the serials behind
the counters one after the other: each key gets a block without gaps, whatever other keys stand in
between, so the serials as a whole do not depend on the order of the list.
-/

namespace ReceiptRules.ArchiveNumber.Counters

open Text

/-! ## Single steps -/

theorem lookup_put (key key' : NumberKey) (n : Nat) (serials : List (NumberKey × Nat)) :
    (put key n serials).lookup key' = if key' = key then some n else serials.lookup key' :=
  List.lookup_place (put key n) rfl (fun _ _ _ ↦ rfl) key' serials

@[simp] theorem current_empty (key : NumberKey) : empty.current key = 0 := rfl

theorem current_see (c : Counters) (key key' : NumberKey) (n : Nat) :
    (c.see key n).current key' = if key' = key then max (c.current key) n else c.current key' := by
  simp only [current, see, lookup_put]
  split <;> rfl

theorem current_advance (c : Counters) (key key' : NumberKey) :
    (c.advance key).current key' =
      if key' = key then c.current key + 1 else c.current key' := by
  simp only [current, advance, lookup_put]
  split <;> rfl

theorem current_le_current_see (c : Counters) (key key' : NumberKey) (n : Nat) :
    c.current key' ≤ (c.see key n).current key' := by
  rw [current_see]
  split
  · next h => exact h ▸ Nat.le_max_left _ _
  · exact Nat.le_refl _

/-! ## Counters that go on after known numbers -/

/-- Takes one text into the counters. -/
def seeText (c : Counters) (s : String) : Except TooManyDigits Counters :=
  (read s).map fun
    | some (key, serial) => c.see key serial
    | none => c

theorem ofNumbers_eq (texts : List String) : ofNumbers texts = texts.foldlM seeText empty := by
  unfold ofNumbers
  congr 1
  funext c s
  unfold seeText
  cases read s with
  | error e => rfl
  | ok found => rcases found with _ | ⟨key, serial⟩ <;> rfl

theorem le_current_of_foldlM {texts : List String} {c c' : Counters}
    (h : texts.foldlM seeText c = .ok c') :
    (∀ key, c.current key ≤ c'.current key) ∧
      ∀ s ∈ texts, ∀ key n, read s = .ok (some (key, n)) → n ≤ c'.current key := by
  induction texts generalizing c with
  | nil =>
    cases h
    exact ⟨fun key ↦ Nat.le_refl _, by simp⟩
  | cons s rest ih =>
    rw [List.foldlM_cons] at h
    obtain ⟨next, hnext, h⟩ := Except.bind_eq_ok_iff.mp h
    obtain ⟨hmono, hrest⟩ := ih h
    obtain ⟨found, hread, rfl⟩ := Except.map_eq_ok_iff.mp hnext
    constructor
    · intro key
      refine Nat.le_trans ?_ (hmono key)
      rcases found with _ | ⟨key', n⟩
      · exact Nat.le_refl _
      · exact current_le_current_see c key' key n
    · intro t ht key n hkey
      rcases List.mem_cons.mp ht with rfl | ht
      · rw [hread] at hkey
        cases hkey
        refine Nat.le_trans ?_ (hmono key)
        rw [current_see, if_pos rfl]
        exact Nat.le_max_right _ _
      · exact hrest t ht key n hkey

/-- Counters made from texts lie behind every number among them. -/
theorem le_current_of_ofNumbers {texts : List String} {c : Counters} (h : ofNumbers texts = .ok c)
    {s : String} (hs : s ∈ texts) {key : NumberKey} {n : Nat}
    (hread : read s = .ok (some (key, n))) : n ≤ c.current key := by
  rw [ofNumbers_eq] at h
  exact (le_current_of_foldlM h).2 s hs key n hread

/-- Counters made from texts are behind none of these texts. -/
theorem format_notMem_of_ofNumbers {texts : List String} {c : Counters} (h : ofNumbers texts = .ok c)
    {key : NumberKey} (hkey : IsKey key) {n : Nat} (hn : WholeNumber.writable n = true)
    (hahead : c.current key < n) : format key n ∉ texts := by
  intro hmem
  have hbehind := le_current_of_ofNumbers h hmem (read_format hkey hn)
  omega

/-! ## The serials of a list of keys -/

/-- The serials that keys take one after the other. -/
def taken (c : Counters) : List NumberKey → List (NumberKey × Nat)
  | [] => []
  | key :: rest => (key, c.current key + 1) :: taken (c.advance key) rest

/-- The counters behind the serials of a list of keys. -/
def advanceAll (c : Counters) (keys : List NumberKey) : Counters := keys.foldl advance c

@[simp] theorem advanceAll_nil (c : Counters) : c.advanceAll [] = c := rfl

@[simp] theorem advanceAll_cons (c : Counters) (key : NumberKey) (keys : List NumberKey) :
    c.advanceAll (key :: keys) = (c.advance key).advanceAll keys := rfl

theorem advanceAll_append (c : Counters) (keys keys' : List NumberKey) :
    c.advanceAll (keys ++ keys') = (c.advanceAll keys).advanceAll keys' := List.foldl_append

theorem current_advanceAll (c : Counters) (keys : List NumberKey) (key : NumberKey) :
    (c.advanceAll keys).current key = c.current key + keys.count key := by
  induction keys generalizing c with
  | nil => rfl
  | cons k rest ih =>
    rw [advanceAll_cons, ih, current_advance]
    by_cases h : key = k
    · subst h
      rw [if_pos rfl, List.count_cons_self]
      omega
    · rw [if_neg h, List.count_cons_of_ne (Ne.symm h)]

/-- A key gets the block of serials behind its counter, as long as the key occurs often. -/
theorem mem_taken_iff {c : Counters} {keys : List NumberKey} {key : NumberKey} {n : Nat} :
    (key, n) ∈ c.taken keys ↔ c.current key < n ∧ n ≤ c.current key + keys.count key := by
  induction keys generalizing c with
  | nil =>
    simp only [taken, List.not_mem_nil, List.count_nil, false_iff]
    omega
  | cons k rest ih =>
    rw [taken, List.mem_cons, ih, current_advance]
    by_cases h : key = k
    · subst h
      rw [if_pos rfl, List.count_cons_self]
      simp only [Prod.mk.injEq, true_and]
      omega
    · rw [if_neg h, List.count_cons_of_ne (Ne.symm h), Prod.mk.injEq]
      simp [h]

theorem mem_of_mem_taken {c : Counters} {keys : List NumberKey} {key : NumberKey} {n : Nat}
    (h : (key, n) ∈ c.taken keys) : key ∈ keys := by
  have hserial := mem_taken_iff.mp h
  exact List.count_pos_iff.mp (by omega)

theorem nodup_taken (c : Counters) (keys : List NumberKey) : (c.taken keys).Nodup := by
  induction keys generalizing c with
  | nil => exact .nil
  | cons k rest ih =>
    rw [taken, List.nodup_cons]
    refine ⟨?_, ih (c.advance k)⟩
    rw [mem_taken_iff, current_advance, if_pos rfl]
    omega

/-- The serials as a whole do not depend on the order of the keys. -/
theorem taken_perm (c : Counters) {keys keys' : List NumberKey} (h : keys.Perm keys') :
    (c.taken keys).Perm (c.taken keys') := by
  rw [List.perm_ext_iff_of_nodup (nodup_taken c keys) (nodup_taken c keys')]
  rintro ⟨key, n⟩
  rw [mem_taken_iff, mem_taken_iff, h.count_eq]

/-! ## The numbers of a list of keys -/

/-- All serials that the keys take can be written. -/
def Writable (c : Counters) (keys : List NumberKey) : Prop :=
  ∀ taken ∈ c.taken keys, WholeNumber.writable taken.2 = true

@[simp] theorem writable_nil (c : Counters) : Writable c [] := by
  simp [Writable, taken]

theorem writable_cons_iff {c : Counters} {key : NumberKey} {keys : List NumberKey} :
    c.Writable (key :: keys) ↔
      WholeNumber.writable (c.current key + 1 : Nat) = true ∧ (c.advance key).Writable keys := by
  simp only [Writable, taken, List.forall_mem_cons]

theorem writable_append_iff {c : Counters} {keys keys' : List NumberKey} :
    c.Writable (keys ++ keys') ↔ c.Writable keys ∧ (c.advanceAll keys).Writable keys' := by
  induction keys generalizing c with
  | nil => simp
  | cons key rest ih =>
    rw [List.cons_append, writable_cons_iff, writable_cons_iff, ih, advanceAll_cons, and_assoc]

theorem Writable.of_perm {c : Counters} {keys keys' : List NumberKey} (hwritable : c.Writable keys)
    (h : keys'.Perm keys) : c.Writable keys' :=
  fun taken htaken ↦ hwritable taken ((taken_perm c h).mem_iff.mp htaken)

/-- The numbers that keys get one after the other. -/
def numbersOf (c : Counters) (keys : List NumberKey) : List String :=
  (c.taken keys).map fun (key, n) ↦ format key n

theorem mem_numbersOf {c : Counters} {keys : List NumberKey} {number : String} :
    number ∈ c.numbersOf keys ↔ ∃ key n, (key, n) ∈ c.taken keys ∧ format key n = number := by
  simp [numbersOf]

/-- The numbers as a whole do not depend on the order of the keys. -/
theorem numbersOf_perm (c : Counters) {keys keys' : List NumberKey} (h : keys.Perm keys') :
    (c.numbersOf keys).Perm (c.numbersOf keys') := (taken_perm c h).map _

/-- No number is given twice. -/
theorem nodup_numbersOf {c : Counters} {keys : List NumberKey}
    (hkeys : ∀ key ∈ keys, IsPeriod key.period) : (c.numbersOf keys).Nodup := by
  refine List.Nodup.map_on ?_ (nodup_taken c keys)
  rintro ⟨key, n⟩ h ⟨key', n'⟩ h' heq
  obtain ⟨rfl, rfl⟩ := format_injective (hkeys key (mem_of_mem_taken h))
    (hkeys key' (mem_of_mem_taken h')) heq
  rfl

/-- Counters made from texts with a number that can be read never give it again, whatever codes they
are asked for. -/
theorem format_notMem_numbersOf {texts : List String} {c : Counters} (hc : ofNumbers texts = .ok c)
    {key : NumberKey} (hkey : IsKey key) {n : Nat} (hn : WholeNumber.writable n = true)
    (hmem : format key n ∈ texts) {keys : List NumberKey}
    (hkeys : ∀ key ∈ keys, IsPeriod key.period) : format key n ∉ c.numbersOf keys := by
  intro hgiven
  obtain ⟨key', n', htaken, heq⟩ := mem_numbersOf.mp hgiven
  obtain ⟨rfl, rfl⟩ := format_injective (hkeys key' (mem_of_mem_taken htaken)) hkey.period heq
  have hbehind : n' ≤ c.current key' := le_current_of_ofNumbers hc hmem (read_format hkey hn)
  have hahead : c.current key' < n' := (mem_taken_iff.mp htaken).1
  omega

/-- Counters made from texts give none of these texts as a number. -/
theorem notMem_of_mem_numbersOf {texts : List String} {c : Counters} (hc : ofNumbers texts = .ok c)
    {keys : List NumberKey} (hkeys : ∀ key ∈ keys, IsKey key) (hwritable : c.Writable keys)
    {number : String} (h : number ∈ c.numbersOf keys) : number ∉ texts := by
  obtain ⟨key, n, htaken, rfl⟩ := mem_numbersOf.mp h
  have hn : WholeNumber.writable n = true := hwritable (key, n) htaken
  exact format_notMem_of_ofNumbers hc (hkeys key (mem_of_mem_taken htaken)) hn
    (mem_taken_iff.mp htaken).1

end ReceiptRules.ArchiveNumber.Counters
