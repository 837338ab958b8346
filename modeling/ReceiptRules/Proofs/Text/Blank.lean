import Mathlib.Data.List.Basic
import Mathlib.Data.List.TakeWhile
import ReceiptRules.Text.Search

/-!
# Blanks around texts

Trimming takes away the blanks at both ends of a text and nothing else. So blanks around a text make
no difference to whatever trims it first.
-/

namespace ReceiptRules.Text.Blank

variable {front back cs text : List Char} {c : Char}

/-! ## Blanks at the ends -/

theorem trimChars_cons (h : isBlank c = true) (cs : List Char) :
    trimChars (c :: cs) = trimChars cs := by
  rw [trimChars, trimStart, List.dropWhile_cons_of_pos h]
  rfl

theorem trimChars_append_left (h : ∀ c ∈ front, isBlank c = true) :
    trimChars (front ++ cs) = trimChars cs := by
  induction front with
  | nil => rfl
  | cons c front ih =>
    obtain ⟨hc, hfront⟩ := List.forall_mem_cons.mp h
    rw [List.cons_append, trimChars_cons hc, ih hfront]

theorem trimEnd_append (h : ∀ c ∈ back, isBlank c = true) : trimEnd (cs ++ back) = trimEnd cs := by
  rw [trimEnd, List.reverse_append, List.dropWhile_append_of_pos]
  · rfl
  · simpa using h

theorem trimChars_append_right (h : ∀ c ∈ back, isBlank c = true) :
    trimChars (cs ++ back) = trimChars cs := by
  rw [trimChars, trimStart, List.dropWhile_append]
  split
  · next hempty =>
    -- Nothing but blanks on both sides.
    have hback : back.dropWhile isBlank = [] := by simpa [List.dropWhile_eq_nil_iff] using h
    rw [hback, trimChars, trimStart, List.isEmpty_iff.mp hempty]
  · rw [trimEnd_append h]
    rfl

/-- The second text is the first one with blanks around it. -/
def Around (cs text : List Char) : Prop :=
  ∃ front back, text = front ++ (cs ++ back) ∧ (∀ c ∈ front, isBlank c = true) ∧
    ∀ c ∈ back, isBlank c = true

theorem around_of_all (front back : List Char) (h : text = front ++ (cs ++ back))
    (hfront : front.all isBlank = true) (hback : back.all isBlank = true) : Around cs text :=
  ⟨front, back, h, List.all_eq_true.mp hfront, List.all_eq_true.mp hback⟩

theorem trimChars_of_around (h : Around cs text) : trimChars text = trimChars cs := by
  obtain ⟨front, back, rfl, hfront, hback⟩ := h
  rw [trimChars_append_left hfront, trimChars_append_right hback]

/-- Trimming takes blanks away at both ends. -/
theorem around_trimChars (cs : List Char) : Around (trimChars cs) cs := by
  refine ⟨cs.takeWhile isBlank, ((trimStart cs).reverse.takeWhile isBlank).reverse, ?_, ?_, ?_⟩
  · rw [trimChars, trimEnd, ← List.reverse_append, List.takeWhile_append_dropWhile,
      List.reverse_reverse, trimStart, List.takeWhile_append_dropWhile]
  · exact fun c hc ↦ List.mem_takeWhile_imp hc
  · exact fun c hc ↦ List.mem_takeWhile_imp (List.mem_reverse.mp hc)

/-! ## Characters that are no blanks -/

theorem ne_of_isBlank {sep : Char} (hsep : isBlank sep = false) (hc : isBlank c = true) :
    c ≠ sep := by
  rintro rfl
  rw [hsep] at hc
  cases hc

theorem mem_dropWhile_isBlank (hc : c ∈ cs) (h : isBlank c = false) :
    c ∈ cs.dropWhile isBlank := by
  rw [← List.takeWhile_append_dropWhile (p := isBlank) (l := cs), List.mem_append] at hc
  rcases hc with hc | hc
  · rw [List.mem_takeWhile_imp hc] at h
    cases h
  · exact hc

/-- Trimming takes away nothing but blanks. -/
theorem mem_trimChars (hc : c ∈ cs) (h : isBlank c = false) : c ∈ trimChars cs := by
  rw [trimChars, trimEnd, List.mem_reverse]
  exact mem_dropWhile_isBlank (List.mem_reverse.mpr (mem_dropWhile_isBlank hc h)) h

theorem trimEnd_cons (h : isBlank c = false) (cs : List Char) :
    trimEnd (c :: cs) = c :: trimEnd cs := by
  rw [trimEnd, List.reverse_cons, List.dropWhile_append]
  split
  · next hempty => simp [h, trimEnd, List.isEmpty_iff.mp hempty]
  · simp [trimEnd]

theorem trimEnd_append_of_forall (h : ∀ c ∈ front, isBlank c = false) (cs : List Char) :
    trimEnd (front ++ cs) = front ++ trimEnd cs := by
  induction front with
  | nil => rfl
  | cons c front ih =>
    obtain ⟨hc, hfront⟩ := List.forall_mem_cons.mp h
    rw [List.cons_append, trimEnd_cons hc, ih hfront, List.cons_append]

/-- Trimming keeps characters in front that are no blanks. -/
theorem trimChars_append_of_forall (hne : front ≠ []) (h : ∀ c ∈ front, isBlank c = false)
    (cs : List Char) : trimChars (front ++ cs) = front ++ trimEnd cs := by
  obtain ⟨c, front, rfl⟩ := List.exists_cons_of_ne_nil hne
  rw [trimChars, trimStart, List.cons_append, List.dropWhile_cons_of_neg (by simp [h c]),
    ← List.cons_append, trimEnd_append_of_forall h]

/-- A text that neither begins nor ends with a blank is not changed by trimming. -/
theorem trimChars_of_ends {first last : Char} (hfirst : cs.head? = some first)
    (hlast : cs.getLast? = some last) (h : isBlank first = false) (h' : isBlank last = false) :
    trimChars cs = cs := by
  have hstart : trimStart cs = cs := by
    cases cs with
    | nil => rfl
    | cons c rest =>
      cases hfirst
      simp [trimStart, h]
  have hend : trimEnd cs = cs := by
    rw [← List.head?_reverse] at hlast
    cases hrev : cs.reverse with
    | nil =>
      rw [hrev] at hlast
      cases hlast
    | cons c rest =>
      rw [hrev] at hlast
      cases hlast
      rw [trimEnd, hrev, List.dropWhile_cons_of_neg (by simp [h']), ← hrev, List.reverse_reverse]
  rw [trimChars, hstart, hend]

theorem trimChars_of_forall (h : ∀ c ∈ cs, isBlank c = false) : trimChars cs = cs := by
  cases cs with
  | nil => rfl
  | cons c rest =>
    have hlast := List.getLast?_eq_some_getLast (List.cons_ne_nil c rest)
    exact trimChars_of_ends rfl hlast (h c List.mem_cons_self) (h _ (List.getLast_mem _))

end ReceiptRules.Text.Blank
