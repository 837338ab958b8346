import Mathlib.Data.List.Forall2
import ReceiptRules.Date.Reader

/-!
# Matching a text with the items of a format

What a matcher takes from a text is matched by the items one after the other, and holds only
characters that one of them admits. In the other direction, a field takes a text that its first
fitting alternative fills, where what follows cannot become a part of the field.
-/

namespace ReceiptRules.Date

open Text Format

/-! ## What the items match -/

/-- The text fills an alternative of the field. -/
def Fills (d : Format.Directive) (text : List Char) : Prop :=
  ∃ places ∈ alternatives d, List.Forall₂ (fun p c ↦ Place.admits p c = true) places text

/-- The items match the whole text, and the fields among them find the texts given. -/
def Matches : List Item → List Found → List Char → Prop
  | [], found, cs => found = [] ∧ cs = []
  | .literal l :: items, found, cs =>
    ∃ c rest, cs = c :: rest ∧ Case.same l c = true ∧ Matches items found rest
  | .blanks :: items, found, cs =>
    ∃ front rest, cs = front ++ rest ∧ (∀ c ∈ front, Blank.isBlank c = true) ∧
      Matches items found rest
  | .field d :: items, found, cs =>
    ∃ text rest others, cs = text ++ rest ∧ found = (d, text) :: others ∧ Fills d text ∧
      Matches items others rest

theorem append_of_fill {places : List Place} {cs taken rest : List Char}
    (h : fill places cs = some (taken, rest)) :
    cs = taken ++ rest ∧ List.Forall₂ (fun p c ↦ Place.admits p c = true) places taken := by
  induction places generalizing cs taken rest with
  | nil =>
    cases h
    exact ⟨rfl, .nil⟩
  | cons p ps ih =>
    cases cs with
    | nil => cases h
    | cons c cs =>
      rw [fill] at h
      split at h
      · next hc =>
        obtain ⟨⟨taken', rest'⟩, hfill, heq⟩ := Option.map_eq_some_iff.mp h
        cases heq
        obtain ⟨rfl, hadmits⟩ := ih hfill
        exact ⟨rfl, .cons hc hadmits⟩
      · cases h

theorem append_of_mem_blankRuns {cs rest : List Char} (h : rest ∈ blankRuns cs) :
    ∃ taken, cs = taken ++ rest ∧ ∀ c ∈ taken, Blank.isBlank c = true := by
  induction cs with
  | nil => cases h
  | cons c cs ih =>
    rw [blankRuns] at h
    split at h
    · next hc =>
      rcases List.mem_append.mp h with h | h
      · obtain ⟨taken, rfl, htaken⟩ := ih h
        exact ⟨c :: taken, rfl, List.forall_mem_cons.mpr ⟨hc, htaken⟩⟩
      · cases List.mem_singleton.mp h
        exact ⟨[c], rfl, List.forall_mem_cons.mpr ⟨hc, by simp⟩⟩
    · cases h

/-- What the items take from a text is what they match. -/
theorem exists_matches_of_matchItems {items : List Item} {cs left : List Char} {found : List Found}
    (h : matchItems items cs = some (found, left)) :
    ∃ taken, cs = taken ++ left ∧ Matches items found taken := by
  induction items generalizing cs found with
  | nil =>
    cases h
    exact ⟨[], rfl, rfl, rfl⟩
  | cons item items ih =>
    cases item with
    | literal l =>
      cases cs with
      | nil => cases h
      | cons c cs =>
        rw [matchItems] at h
        split at h
        · next hc =>
          obtain ⟨taken, rfl, hmatches⟩ := ih h
          exact ⟨c :: taken, rfl, c, taken, rfl, hc, hmatches⟩
        · cases h
    | blanks =>
      obtain ⟨rest, hrest, hmatch⟩ := List.exists_of_findSome?_eq_some h
      obtain ⟨front, rfl, hfront⟩ := append_of_mem_blankRuns hrest
      obtain ⟨taken, rfl, hmatches⟩ := ih hmatch
      exact ⟨front ++ taken, (List.append_assoc ..).symm, front, taken, rfl, hfront, hmatches⟩
    | field d =>
      obtain ⟨places, hplaces, htaken⟩ := List.exists_of_findSome?_eq_some h
      obtain ⟨⟨text, rest⟩, hfill, hothers⟩ := Option.bind_eq_some_iff.mp htaken
      obtain ⟨⟨others, left'⟩, hmatch, heq⟩ := Option.map_eq_some_iff.mp hothers
      cases heq
      obtain ⟨rfl, hadmits⟩ := append_of_fill hfill
      obtain ⟨taken, rfl, hmatches⟩ := ih hmatch
      exact ⟨text ++ taken, (List.append_assoc ..).symm, text, taken, others, rfl, rfl,
        ⟨places, hplaces, hadmits⟩, hmatches⟩

/-! ## Characters that the items admit -/

/-- Whether a character can stand somewhere in what an item matches. -/
def admits : Item → Char → Bool
  | .literal l, c => Case.same l c
  | .blanks, c => Blank.isBlank c
  | .field d, c => (alternatives d).any fun places ↦ places.any fun p ↦ p.admits c

theorem Fills.admits {d : Format.Directive} {text : List Char} (h : Fills d text) :
    ∀ c ∈ text, admits (.field d) c = true := by
  obtain ⟨places, hplaces, hall⟩ := h
  intro c hc
  obtain ⟨p, hp, hadmits⟩ : ∃ p ∈ places, p.admits c = true := by
    clear hplaces
    induction hall with
    | nil => cases hc
    | cons hfirst _ ih =>
      rcases List.mem_cons.mp hc with rfl | hc
      · exact ⟨_, List.mem_cons_self, hfirst⟩
      · obtain ⟨p, hp, hadmits⟩ := ih hc
        exact ⟨p, List.mem_cons_of_mem _ hp, hadmits⟩
  exact List.any_eq_true.mpr ⟨places, hplaces, List.any_eq_true.mpr ⟨p, hp, hadmits⟩⟩

/-- Each character of a text that items match is admitted by one of them. -/
theorem Matches.exists_admits {items : List Item} {found : List Found} {cs : List Char}
    (h : Matches items found cs) : ∀ c ∈ cs, ∃ item ∈ items, admits item c = true := by
  induction items generalizing found cs with
  | nil =>
    obtain ⟨-, rfl⟩ := h
    simp
  | cons item items ih =>
    have join {front rest : List Char} {others : List Found}
        (hfront : ∀ c ∈ front, admits item c = true) (hrest : Matches items others rest) :
        ∀ c ∈ front ++ rest, ∃ i ∈ item :: items, admits i c = true := by
      intro c hc
      rcases List.mem_append.mp hc with hc | hc
      · exact ⟨item, List.mem_cons_self, hfront c hc⟩
      · obtain ⟨i, hi, hc⟩ := ih hrest c hc
        exact ⟨i, List.mem_cons_of_mem item hi, hc⟩
    cases item with
    | literal l =>
      obtain ⟨c, rest, rfl, hc, hrest⟩ := h
      have hfront : ∀ c' ∈ [c], admits (.literal l) c' = true := by simpa [admits] using hc
      exact join hfront hrest
    | blanks =>
      obtain ⟨front, rest, rfl, hfront, hrest⟩ := h
      exact join hfront hrest
    | field d =>
      obtain ⟨text, rest, others, rfl, -, htext, hrest⟩ := h
      exact join htext.admits hrest

/-- A character that the format demands is there, in some case. -/
theorem Matches.exists_same {items : List Item} {found : List Found} {cs : List Char}
    (h : Matches items found cs) {l : Char} (hl : .literal l ∈ items) :
    ∃ c ∈ cs, Case.same l c = true := by
  induction items generalizing found cs with
  | nil => cases hl
  | cons item items ih =>
    have later (front : List Char) {rest : List Char} {others : List Found}
        (hne : .literal l ≠ item) (hrest : Matches items others rest) :
        ∃ c ∈ front ++ rest, Case.same l c = true := by
      obtain ⟨c, hc, hsame⟩ := ih hrest (List.mem_of_ne_of_mem hne hl)
      exact ⟨c, List.mem_append_right front hc, hsame⟩
    cases item with
    | literal l' =>
      obtain ⟨c, rest, rfl, hc, hrest⟩ := h
      by_cases heq : l = l'
      · subst heq
        exact ⟨c, List.mem_cons_self, hc⟩
      · exact later [c] (by simpa using heq) hrest
    | blanks =>
      obtain ⟨front, rest, rfl, -, hrest⟩ := h
      exact later front nofun hrest
    | field d =>
      obtain ⟨text, rest, others, rfl, -, -, hrest⟩ := h
      exact later text nofun hrest

theorem Fills.length_eq {d : Format.Directive} {text : List Char} (h : Fills d text) :
    ∃ places ∈ alternatives d, text.length = places.length := by
  obtain ⟨places, hplaces, hall⟩ := h
  exact ⟨places, hplaces, hall.length_eq.symm⟩

/-! ## What ends a field -/

theorem fill_append {places : List Place} {cs taken left : List Char} (rest : List Char)
    (h : fill places cs = some (taken, left)) :
    fill places (cs ++ rest) = some (taken, left ++ rest) := by
  induction places generalizing cs taken left with
  | nil =>
    cases h
    rfl
  | cons p ps ih =>
    cases cs with
    | nil => cases h
    | cons c cs =>
      rw [fill] at h
      split at h
      · next hc =>
        obtain ⟨⟨taken', left'⟩, hfill, heq⟩ := Option.map_eq_some_iff.mp h
        cases heq
        rw [List.cons_append, fill, if_pos hc, ih hfill]
        rfl
      · cases h

/-- What follows the text cannot become a part of the field: the text is as long as the field can be,
or the next character has no place in it. -/
def Ends (d : Format.Directive) (text rest : List Char) : Prop :=
  (∀ places ∈ alternatives d, places.length ≤ text.length) ∨
    ∀ c ∈ rest.head?, admits (.field d) c = false

/-- Places that a text does not fill are not filled by the longer text. -/
theorem fill_append_eq_none {places : List Place} {cs rest : List Char}
    (hend : places.length ≤ cs.length ∨ ∀ c ∈ rest.head?, ∀ p ∈ places, p.admits c = false)
    (h : fill places cs = none) : fill places (cs ++ rest) = none := by
  induction places generalizing cs with
  | nil => cases h
  | cons p ps ih =>
    cases cs with
    | nil =>
      rcases hend with hlength | hforeign
      · simp at hlength
      · cases rest with
        | nil => rfl
        | cons c rest => simp [fill, hforeign c rfl p List.mem_cons_self]
    | cons c cs =>
      rw [List.cons_append, fill]
      rw [fill] at h
      split
      · next hc =>
        rw [if_pos hc, Option.map_eq_none_iff] at h
        have hend' : ps.length ≤ cs.length ∨ ∀ c ∈ rest.head?, ∀ p ∈ ps, p.admits c = false :=
          hend.imp Nat.le_of_succ_le_succ fun hforeign c hc p hp ↦
            hforeign c hc p (List.mem_cons_of_mem _ hp)
        rw [ih hend' h]
        rfl
      · rfl

theorem Ends.fill_append_eq_none {d : Format.Directive} {text rest : List Char}
    (h : Ends d text rest) {places : List Place} (hplaces : places ∈ alternatives d)
    (hnone : fill places text = none) : fill places (text ++ rest) = none := by
  refine Date.fill_append_eq_none (h.imp (fun hlength ↦ hlength places hplaces) ?_) hnone
  intro hforeign c hc p hp
  have hall := hforeign c hc
  simp only [admits, List.any_eq_false, Bool.not_eq_true] at hall
  exact hall places hplaces p hp

/-- A field takes a text that its first fitting alternative fills, if the rest then matches. -/
theorem matchItems_field {d : Format.Directive} {items : List Item} {text rest left : List Char}
    {found : List Found} (hend : Ends d text rest)
    (hfit : (alternatives d).findSome? (fill · text) = some (text, []))
    (hrest : matchItems items rest = some (found, left)) :
    matchItems (.field d :: items) (text ++ rest) = some ((d, text) :: found, left) := by
  obtain ⟨before, places, behind, hsplit, hfill, hbefore⟩ := List.findSome?_eq_some_iff.mp hfit
  rw [matchItems, List.findSome?_eq_some_iff]
  refine ⟨before, places, behind, hsplit, ?_, fun earlier hearlier ↦ ?_⟩
  · rw [fill_append rest hfill]
    change (matchItems items rest).map _ = _
    rw [hrest]
    rfl
  · have hmem : earlier ∈ alternatives d := by
      rw [hsplit]
      exact List.mem_append_left _ hearlier
    rw [hend.fill_append_eq_none hmem (hbefore earlier hearlier)]
    rfl

@[simp] theorem matchItems_literal (c : Char) (items : List Item) (rest : List Char) :
    matchItems (.literal c :: items) (c :: rest) = matchItems items rest := by
  have hsame : Case.same c c = true := by simp [Case.same]
  rw [matchItems, if_pos hsame]

theorem fill_digits {cs : List Char} (h : ∀ c ∈ cs, Digit.isDigit c = true) :
    fill (List.replicate cs.length .digit) cs = some (cs, []) := by
  induction cs with
  | nil => rfl
  | cons c cs ih =>
    have hc : Place.digit.admits c = true := h c List.mem_cons_self
    rw [List.length_cons, List.replicate_succ, fill, if_pos hc,
      ih fun x hx ↦ h x (List.mem_cons_of_mem c hx)]
    rfl

end ReceiptRules.Date
