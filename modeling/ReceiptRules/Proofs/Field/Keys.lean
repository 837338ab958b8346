import ReceiptRules.Field
import ReceiptRules.Proofs.Document.Rules

/-!
# Keys of fields

A key names a field by the words of the field, written in one of several ways, and no key names two
fields. The word of a field names it, so a key that has been replaced by the word of its field is not
changed again.
-/

namespace ReceiptRules.Field

open Text

/-! ## Names of fields -/

/-- The words in small letters with underscores between. -/
def snake (f : Field) : String := Case.lowerText f.word

/-- A word with a capital in front and small letters behind. -/
def capitalised : List Char → List Char
  | [] => []
  | c :: rest => c.toUpper :: rest.map Char.toLower

/-- The words written together, all but the first with a capital. -/
def camel (f : Field) : String :=
  match f.word.toList.splitOn '_' with
  | [] => ""
  | first :: others => String.ofList (first.map Char.toLower ++ others.flatMap capitalised)

/-- Names that totals and dates had before. -/
def former : Field → List String
  | amount => ["totalAmount", "total_amount"]
  | date => ["invoiceDate", "invoice_date"]
  | _ => []

/-- Whether the key, blanks around it apart, is the word of the field or another name of it; capitals
do not count where the name has none. -/
def Denotes (key : String) (f : Field) : Prop :=
  let text := Blank.trim key
  let names := f.snake :: f.camel :: f.former
  text = f.word ∨ text ∈ names ∨ Case.lowerText text ∈ names

instance (key : String) (f : Field) : Decidable (Denotes key f) :=
  inferInstanceAs (Decidable (_ ∨ _ ∨ _))

example : Denotes "\tTOTAL_AMOUNT " amount ∧ Denotes "sellerName" sellerName ∧
    ¬ Denotes "SELLERNAME" sellerName := by decide +kernel

/-- The key that stands for a key: the word of the field that it denotes, or else the key as it
is. -/
inductive KeptAs (key : String) : String → Prop where
  | word {f : Field} (h : Denotes key f) : KeptAs key f.word
  | verbatim (h : ∀ f, ¬ Denotes key f) : KeptAs key key

theorem mem_spellings_iff {f : Field} {s : String} :
    s ∈ f.spellings ↔ s ∈ f.snake :: f.camel :: f.former := by
  have hsame : f.spellings ⊆ f.snake :: f.camel :: f.former ∧
      f.snake :: f.camel :: f.former ⊆ f.spellings := by
    cases f <;> decide +kernel
  exact ⟨fun h ↦ hsame.1 h, fun h ↦ hsame.2 h⟩

/-! ## The field that a name belongs to -/

theorem word_injective {f g : Field} (h : f.word = g.word) : f = g := by
  have hread := isFaithful f
  rw [show Vocabulary.word f = Vocabulary.word g from h, isFaithful g] at hread
  exact (Option.some.inj hread).symm

theorem ofWord?_eq_some_iff {s : String} {f : Field} : ofWord? s = some f ↔ s = f.word := by
  constructor
  · intro h
    have hword := List.find?_some h
    exact (beq_iff_eq.mp hword).symm
  · rintro rfl
    exact isFaithful f

theorem ofSpelling?_eq_some_iff {s : String} {f : Field} :
    ofSpelling? s = some f ↔ s ∈ f.spellings := by
  constructor
  · intro h
    have hspelling := List.find?_some h
    exact List.contains_iff_mem.mp hspelling
  · intro h
    have hall : ∀ s ∈ f.spellings, ofSpelling? s = some f := by cases f <;> decide +kernel
    exact hall s h

theorem denotes_iff {key : String} {f : Field} :
    Denotes key f ↔ (Blank.trim key = f.word ∨ Blank.trim key ∈ f.spellings) ∨
      Case.lowerText (Blank.trim key) ∈ f.spellings := by
  simp only [Denotes, mem_spellings_iff, or_assoc]

/-- No two fields share a name. -/
theorem eq_of_name {f g : Field} {s : String} (hf : s = f.word ∨ s ∈ f.spellings)
    (hg : s = g.word ∨ s ∈ g.spellings) : f = g := by
  have hall (f : Field) : ∀ s ∈ f.word :: f.spellings,
      (all.find? fun g ↦ (g.word :: g.spellings).contains s) = some f := by
    cases f <;> decide +kernel
  have hfound := hall f s (List.mem_cons.mpr hf)
  rw [hall g s (List.mem_cons.mpr hg)] at hfound
  exact (Option.some.inj hfound).symm

/-- Names of two fields do not come together in small letters. -/
theorem eq_of_lowerText_mem {f g : Field} {s : String} (hf : s = f.word ∨ s ∈ f.spellings)
    (hg : Case.lowerText s ∈ g.spellings) : f = g := by
  have hall : ∀ s ∈ f.word :: f.spellings,
      ofSpelling? (Case.lowerText s) = some f ∨ ofSpelling? (Case.lowerText s) = none := by
    cases f <;> decide +kernel
  have hfound := hall s (List.mem_cons.mpr hf)
  rw [ofSpelling?_eq_some_iff.mpr hg] at hfound
  rcases hfound with hsame | hnone
  · exact (Option.some.inj hsame).symm
  · cases hnone

/-- A key denotes one field at most. -/
theorem Denotes.unique {key : String} {f g : Field} (hf : Denotes key f) (hg : Denotes key g) :
    f = g := by
  rcases denotes_iff.mp hf with hf | hf <;> rcases denotes_iff.mp hg with hg | hg
  · exact eq_of_name hf hg
  · exact eq_of_lowerText_mem hf hg
  · exact (eq_of_lowerText_mem hg hf).symm
  · exact eq_of_name (.inr hf) (.inr hg)

/-- A key is read as the field that it denotes. -/
theorem ofKey?_eq_some_iff {key : String} {f : Field} : ofKey? key = some f ↔ Denotes key f := by
  have hdenotes {g : Field} (h : ofKey? key = some g) : Denotes key g := by
    simp only [ofKey?, Option.or_eq_some_iff, ofWord?_eq_some_iff, ofSpelling?_eq_some_iff] at h
    rcases h with hword | ⟨-, hspelling | ⟨-, hlower⟩⟩
    · exact denotes_iff.mpr (.inl (.inl hword))
    · exact denotes_iff.mpr (.inl (.inr hspelling))
    · exact denotes_iff.mpr (.inr hlower)
  refine ⟨hdenotes, fun h ↦ ?_⟩
  -- Some field is found, and it cannot be another one.
  cases hfound : ofKey? key with
  | some g => rw [h.unique (hdenotes hfound)]
  | none =>
    simp only [ofKey?, Option.or_eq_none_iff] at hfound
    obtain ⟨hword, hspelling, hlower⟩ := hfound
    rcases denotes_iff.mp h with (h | h) | h
    · rw [ofWord?_eq_some_iff.mpr h] at hword
      cases hword
    · rw [ofSpelling?_eq_some_iff.mpr h] at hspelling
      cases hspelling
    · rw [ofSpelling?_eq_some_iff.mpr h] at hlower
      cases hlower

/-! ## The keys that receipts keep -/

theorem canonicalKey_of_denotes {key : String} {f : Field} (h : Denotes key f) :
    canonicalKey key = f.word := by
  rw [canonicalKey, ofKey?_eq_some_iff.mpr h]

theorem canonicalKey_of_forall {key : String} (h : ∀ f, ¬ Denotes key f) :
    canonicalKey key = key := by
  have hnone : ofKey? key = none :=
    Option.eq_none_iff_forall_ne_some.mpr fun f hf ↦ h f (ofKey?_eq_some_iff.mp hf)
  rw [canonicalKey, hnone]

theorem keptAs_canonicalKey (key : String) : KeptAs key (canonicalKey key) := by
  by_cases hkey : ∃ f, Denotes key f
  · obtain ⟨f, hf⟩ := hkey
    rw [canonicalKey_of_denotes hf]
    exact .word hf
  · rw [canonicalKey_of_forall (not_exists.mp hkey)]
    exact .verbatim (not_exists.mp hkey)

theorem denotes_word (f : Field) : Denotes f.word f := by
  have htrim : Blank.trim f.word = f.word := by cases f <;> decide +kernel
  exact .inl htrim

theorem canonicalKey_eq_word_iff {key : String} {f : Field} :
    canonicalKey key = f.word ↔ Denotes key f := by
  refine ⟨fun h ↦ ?_, canonicalKey_of_denotes⟩
  by_cases hkey : ∃ g, Denotes key g
  · obtain ⟨g, hg⟩ := hkey
    rw [canonicalKey_of_denotes hg] at h
    rw [← word_injective h]
    exact hg
  · rw [canonicalKey_of_forall (not_exists.mp hkey)] at h
    rw [h]
    exact denotes_word f

/-- A key that denotes no field takes the place of no other key. -/
theorem canonicalKey_eq_iff {key key' : String} (h : ∀ f, ¬ Denotes key f) :
    canonicalKey key' = key ↔ key' = key := by
  refine ⟨fun heq ↦ ?_, fun heq ↦ by rw [heq, canonicalKey_of_forall h]⟩
  by_cases hkey : ∃ g, Denotes key' g
  · obtain ⟨g, hg⟩ := hkey
    rw [canonicalKey_of_denotes hg] at heq
    exact absurd (denotes_word g) (heq ▸ h g)
  · rw [canonicalKey_of_forall (not_exists.mp hkey)] at heq
    exact heq

theorem canonicalKey_canonicalKey (key : String) :
    canonicalKey (canonicalKey key) = canonicalKey key := by
  by_cases hkey : ∃ f, Denotes key f
  · obtain ⟨f, hf⟩ := hkey
    rw [canonicalKey_of_denotes hf, canonicalKey_of_denotes (denotes_word f)]
  · rw [canonicalKey_of_forall (not_exists.mp hkey), canonicalKey_of_forall (not_exists.mp hkey)]

end ReceiptRules.Field
