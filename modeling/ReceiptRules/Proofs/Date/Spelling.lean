import ReceiptRules.Proofs.Date.Reading
import ReceiptRules.Proofs.Text.Digit

/-!
# Dates written in a layout

A year of four digits, a month and a day are written with or without signs between them, as the
default formats lay them out. The format reads its own text in one way only, and the other default
formats read nothing from it. Month and day may be written without a zero in front where signs stand
between the numbers; without signs, a number of one digit could not be told from the next one.
-/

namespace ReceiptRules.Date

open Text Format

/-! ## Written numbers -/

/-- The bounds of the parts of a date. -/
theorem bounds_of_isDay {year month day : Nat} (h : isDay year month day = true) :
    year < 10000 ∧ month ≠ 0 ∧ month < 13 ∧ day ≠ 0 ∧ day < 32 := by
  have hdays : daysInMonth year month ≤ 31 := by
    unfold daysInMonth
    split
    · split <;> decide
    all_goals decide
  simp only [isDay, Bool.and_eq_true, decide_eq_true_eq] at h
  omega

/-- A year of at most four digits, a month and a day, and whether month and day are filled with a
zero. They need not make up a date. -/
structure Spelling where
  year : Nat
  month : Nat
  day : Nat
  monthPadded : Bool := true
  dayPadded : Bool := true
  year_lt : year < 10000 := by decide

namespace Spelling

/-- Digits that a number has at least. -/
def width (padded : Bool) : Nat := if padded then 2 else 1

def yearChars (s : Spelling) : List Char := Digit.padded 4 s.year

def monthChars (s : Spelling) : List Char := Digit.padded (width s.monthPadded) s.month

def dayChars (s : Spelling) : List Char := Digit.padded (width s.dayPadded) s.day

def itemChars (s : Spelling) : Item → List Char
  | .field .year => s.yearChars
  | .field .month => s.monthChars
  | .field .day => s.dayChars
  | .literal c => [c]
  | _ => []

/-- The text in a format of years, months, days and signs. -/
def text (s : Spelling) (items : List Item) : List Char := items.flatMap s.itemChars

/-- Where no sign tells the numbers apart, both are padded. -/
def Suits (s : Spelling) (items : List Item) : Prop :=
  (∃ c, .literal c ∈ items) ∨ s.monthPadded = true ∧ s.dayPadded = true

/-- What the fields of a format find in the text. -/
def found (s : Spelling) : List Found :=
  [(.year, s.yearChars), (.month, s.monthChars), (.day, s.dayChars)]

end Spelling

theorem numberOf_padded (width n : Nat) : numberOf (Digit.padded width n) = n := by
  have hvalues : (Digit.filled width n).filterMap (Digit.value? ∘ Digit.char) =
      (Digit.filled width n).filterMap some :=
    List.filterMap_congr fun d hd ↦ Digit.value?_char (Digit.lt_ten_of_mem_filled hd)
  rw [numberOf, Digit.padded_eq_map_filled, List.filterMap_map, hvalues, List.filterMap_some,
    Digit.number_filled]

/-- The numbers that the fields find are put together again. -/
theorem date?_found (s : Spelling) :
    (s.found.foldlM Parts.add {}).bind Parts.date? = of? s.year s.month s.day := by
  have hparts : s.found.foldlM Parts.add {} =
      some { year := some s.year, month := s.month, day := s.day } := by
    simp [Spelling.found, Parts.add, Spelling.yearChars, Spelling.monthChars, Spelling.dayChars,
      numberOf_padded]
  rw [hparts]
  simp [Parts.date?, Parts.consistent, Parts.yearDay]

/-- Signs apart, a written date holds digits only. -/
theorem Spelling.mem_text {s : Spelling} {items : List Item} {c : Char} (h : c ∈ s.text items) :
    (∃ d < 10, Digit.char d = c) ∨ .literal c ∈ items := by
  have hdigit {width n : Nat} (hc : c ∈ Digit.padded width n) : ∃ d < 10, Digit.char d = c := by
    rw [Digit.padded_eq_map_filled, List.mem_map] at hc
    obtain ⟨d, hd, hchar⟩ := hc
    exact ⟨d, Digit.lt_ten_of_mem_filled hd, hchar⟩
  obtain ⟨item, hitem, hc⟩ := List.mem_flatMap.mp h
  unfold itemChars at hc
  split at hc
  · exact .inl (hdigit hc)
  · exact .inl (hdigit hc)
  · exact .inl (hdigit hc)
  · cases List.mem_singleton.mp hc
    exact .inr hitem
  · cases hc

/-! ## Numbers that fit a field -/

namespace Spelling

theorem length_yearChars (s : Spelling) : s.yearChars.length = 4 :=
  Digit.length_padded (by decide) s.year_lt

theorem year_fits (s : Spelling) :
    (alternatives .year).findSome? (fill · s.yearChars) = some (s.yearChars, []) := by
  have hfill := fill_digits fun c (hc : c ∈ s.yearChars) ↦ Digit.isDigit_of_mem_padded hc
  rw [s.length_yearChars] at hfill
  simpa [alternatives] using hfill

theorem month_fits (padded : Bool) : ∀ month < 13, month ≠ 0 →
    (alternatives .month).findSome? (fill · (Digit.padded (width padded) month)) =
      some (Digit.padded (width padded) month, []) := by
  revert padded
  decide +kernel

theorem day_fits (padded : Bool) : ∀ day < 32, day ≠ 0 →
    (alternatives .day).findSome? (fill · (Digit.padded (width padded) day)) =
      some (Digit.padded (width padded) day, []) := by
  revert padded
  decide +kernel

end Spelling

/-! ## Layouts of the default formats -/

/-- The signs of the default formats. -/
def signs : List Char := ['-', '/', '年', '月', '日']

-- What all signs or some sign has is decided on the list, not on the characters as a finite type.
instance (p : Char → Prop) [DecidablePred p] : Decidable (∀ c ∈ signs, p c) :=
  List.decidableBAll p signs

instance (p : Char → Prop) [DecidablePred p] : Decidable (∃ c ∈ signs, p c) :=
  List.decidableBEx p signs

/-- Numbers with a sign after the year, a sign after the month and signs behind the day. -/
def separated (afterYear afterMonth : Char) (behind : List Char) : List Item :=
  .field .year :: .literal afterYear :: .field .month :: .literal afterMonth :: .field .day ::
    behind.map .literal

/-- Numbers without any sign. -/
def joined : List Item := [.field .year, .field .month, .field .day]

def defaultLayouts : List (List Item) :=
  [separated '-' '-' [], separated '/' '/' [], joined, separated '年' '月' ['日']]

theorem map_read_defaultFormats : defaultFormats.map Format.read = defaultLayouts.map .ok := rfl

theorem not_same_char_of_sign : ∀ sign ∈ signs, ∀ d < 10, Case.same sign (Digit.char d) = false := by
  decide +kernel

theorem not_admits_sign : ∀ sign ∈ signs, ∀ d ∈ [Format.Directive.month, .day],
    admits (.field d) sign = false := by
  decide +kernel

theorem isBlank_sign : ∀ sign ∈ signs, Blank.isBlank sign = false := by decide

section Layout

variable {afterYear afterMonth : Char} {behind : List Char} (s : Spelling)

theorem text_separated : s.text (separated afterYear afterMonth behind) =
    s.yearChars ++ afterYear :: (s.monthChars ++ afterMonth :: (s.dayChars ++ behind)) := by
  have hbehind : (behind.map Item.literal).flatMap s.itemChars = behind := by
    rw [List.flatMap_map]
    exact List.flatMap_singleton' behind
  simp [Spelling.text, separated, Spelling.itemChars, hbehind]

theorem text_joined : s.text joined = s.yearChars ++ (s.monthChars ++ s.dayChars) := by
  simp [Spelling.text, joined, Spelling.itemChars]

/-! ## Written dates are taken apart -/

theorem matchItems_signs (behind : List Char) :
    matchItems (behind.map .literal) behind = some ([], []) := by
  induction behind with
  | nil => rfl
  | cons c rest ih => rw [List.map_cons, matchItems_literal, ih]

theorem ends_sign {d : Format.Directive} {text rest : List Char} (hd : d ∈ [Format.Directive.month, .day])
    (h : ∀ c ∈ rest.head?, c ∈ signs) : Ends d text rest :=
  .inr fun c hc ↦ not_admits_sign c (h c hc) d hd

theorem matchItems_separated (hmonth : afterMonth ∈ signs) (hbehind : behind ⊆ signs)
    (hday : isDay s.year s.month s.day = true) :
    matchItems (separated afterYear afterMonth behind)
      (s.text (separated afterYear afterMonth behind)) = some (s.found, []) := by
  obtain ⟨-, hmonth0, hmonth13, hday0, hday32⟩ := bounds_of_isDay hday
  have ofDay : matchItems (.field .day :: behind.map .literal) (s.dayChars ++ behind) =
      some ([(.day, s.dayChars)], []) :=
    matchItems_field (ends_sign (by simp) fun c hc ↦ hbehind (List.mem_of_head? hc))
      (Spelling.day_fits _ s.day hday32 hday0) (matchItems_signs behind)
  have ofMonth : matchItems (.field .month :: .literal afterMonth :: .field .day ::
      behind.map .literal) (s.monthChars ++ afterMonth :: (s.dayChars ++ behind)) =
      some ([(.month, s.monthChars), (.day, s.dayChars)], []) :=
    matchItems_field (ends_sign (by simp) (by simpa using hmonth))
      (Spelling.month_fits _ s.month hmonth13 hmonth0) (by rw [matchItems_literal, ofDay])
  rw [text_separated]
  refine matchItems_field (.inl ?_) s.year_fits (by rw [matchItems_literal, ofMonth])
  rw [s.length_yearChars]
  decide

theorem matchItems_joined (hpadded : s.monthPadded = true ∧ s.dayPadded = true)
    (hday : isDay s.year s.month s.day = true) :
    matchItems joined (s.text joined) = some (s.found, []) := by
  obtain ⟨-, hmonth0, hmonth13, hday0, hday32⟩ := bounds_of_isDay hday
  have hlength {n : Nat} (h : n < 100) : (Digit.padded 2 n).length = 2 :=
    Digit.length_padded (by decide) h
  have ofDay : matchItems [.field .day] (s.dayChars ++ []) = some ([(.day, s.dayChars)], []) :=
    matchItems_field (.inr (by simp)) (Spelling.day_fits _ s.day hday32 hday0) rfl
  have ofMonth : matchItems [.field .month, .field .day] (s.monthChars ++ s.dayChars) =
      some ([(.month, s.monthChars), (.day, s.dayChars)], []) := by
    refine matchItems_field (.inl ?_) (Spelling.month_fits _ s.month hmonth13 hmonth0)
      (by rw [← ofDay, List.append_nil])
    rw [Spelling.monthChars, hpadded.1, Spelling.width, if_pos rfl, hlength (by omega)]
    decide
  rw [text_joined]
  refine matchItems_field (.inl ?_) s.year_fits ofMonth
  rw [s.length_yearChars]
  decide

/-! ## Written dates are taken apart in no other way -/

theorem matches_year {items : List Item} {rest : List Char} {found : List Found}
    (h : Matches (.field .year :: items) found (s.yearChars ++ rest)) :
    ∃ others, found = (.year, s.yearChars) :: others ∧ Matches items others rest := by
  obtain ⟨text, rest', others, htext, rfl, hfills, hrest⟩ := h
  obtain ⟨places, hplaces, hlength⟩ := hfills.length_eq
  have hfour : ∀ places ∈ alternatives .year, places.length = 4 := by decide
  obtain ⟨rfl, rfl⟩ := List.append_inj htext
    (by rw [s.length_yearChars, hlength, hfour places hplaces])
  exact ⟨others, rfl, hrest⟩

/-- Two texts up to a sign that neither of them holds are the same. -/
theorem append_sign_inj {front front' back back' : List Char} {c c' : Char}
    (h : front ++ c :: back = front' ++ c' :: back') (hc : c ∉ front') (hc' : c' ∉ front) :
    front = front' ∧ back = back' := by
  rcases List.append_eq_append_iff.mp h with ⟨between, rfl, hback⟩ | ⟨between, rfl, hback⟩
  · cases between with
    | nil => exact ⟨(List.append_nil _).symm, (List.cons.inj hback).2⟩
    | cons x rest => cases hback; simp at hc
  · cases between with
    | nil => exact ⟨List.append_nil _, (List.cons.inj hback).2.symm⟩
    | cons x rest => cases hback; simp at hc'

/-- A number of a date ends at the sign. -/
theorem matches_sign {d : Format.Directive} {sign : Char} {items : List Item} {rest : List Char}
    {found : List Found} {width n : Nat} (hd : d ∈ [Format.Directive.month, .day])
    (hsign : sign ∈ signs) (h : Matches (.field d :: .literal sign :: items) found
      (Digit.padded width n ++ sign :: rest)) :
    ∃ others, found = (d, Digit.padded width n) :: others ∧ Matches items others rest := by
  obtain ⟨text, rest', others, htext, rfl, hfills, c, rest'', rfl, hc, hrest⟩ := h
  have hdigits : c ∉ Digit.padded width n := by
    intro hmem
    rw [Digit.padded_eq_map_filled, List.mem_map] at hmem
    obtain ⟨digit, hdigit, rfl⟩ := hmem
    rw [not_same_char_of_sign sign hsign digit (Digit.lt_ten_of_mem_filled hdigit)] at hc
    cases hc
  have hforeign : sign ∉ text := by
    intro hmem
    have hadmits := hfills.admits sign hmem
    rw [not_admits_sign sign hsign d hd] at hadmits
    cases hadmits
  obtain ⟨rfl, rfl⟩ := append_sign_inj htext hforeign hdigits
  exact ⟨others, rfl, hrest⟩

theorem matches_signs {cs : List Char} {found : List Found}
    (h : Matches (behind.map .literal) found cs) : found = [] ∧ cs.length = behind.length := by
  induction behind generalizing cs with
  | nil =>
    obtain ⟨rfl, rfl⟩ := h
    exact ⟨rfl, rfl⟩
  | cons c behind ih =>
    obtain ⟨c', rest, rfl, -, hrest⟩ := h
    obtain ⟨rfl, hlength⟩ := ih hrest
    exact ⟨rfl, congrArg Nat.succ hlength⟩

theorem found_eq_of_matches_separated {found : List Found} (hmonth : afterMonth ∈ signs)
    (h : Matches (separated afterYear afterMonth behind) found
      (s.text (separated afterYear afterMonth behind))) : found = s.found := by
  rw [text_separated] at h
  obtain ⟨others, rfl, c, rest, hrest, -, h⟩ := matches_year s h
  cases hrest
  obtain ⟨others, rfl, text, rest, others', htext, rfl, -, h⟩ := matches_sign (by simp) hmonth h
  obtain ⟨rfl, hlength⟩ := matches_signs h
  obtain ⟨rfl, -⟩ := List.append_inj' htext hlength.symm
  rfl

theorem found_eq_of_matches_joined {found : List Found}
    (hpadded : s.monthPadded = true ∧ s.dayPadded = true)
    (h : Matches joined found (s.text joined)) : found = s.found := by
  have hfields : ∀ d ∈ [Format.Directive.month, .day], ∀ places ∈ alternatives d,
      places.length ≤ 2 := by
    decide
  have hshort {d : Format.Directive} {text : List Char} (hd : d ∈ [Format.Directive.month, .day])
      (hfills : Fills d text) : text.length ≤ 2 := by
    obtain ⟨places, hplaces, hlength⟩ := hfills.length_eq
    rw [hlength]
    exact hfields d hd places hplaces
  have hlong (n : Nat) : 2 ≤ (Digit.padded (Spelling.width true) n).length := by
    rw [Digit.padded_eq_map_filled, List.length_map, Digit.length_filled]
    exact Nat.le_max_left _ _
  rw [text_joined] at h
  obtain ⟨others, rfl, month, rest, others', htext, rfl, hmonth, day, rest', others, rfl, rfl, hday,
    rfl, rfl⟩ := matches_year s h
  rw [List.append_nil] at htext
  -- The fields cannot take more than the two numbers have, and together they take all of it.
  have hsame : month.length = s.monthChars.length := by
    have hall := congrArg List.length htext
    have hmonthChars := hlong s.month
    have hdayChars := hlong s.day
    rw [← hpadded.1] at hmonthChars
    rw [← hpadded.2] at hdayChars
    have hmonth2 := hshort (by simp) hmonth
    have hday2 := hshort (by simp) hday
    rw [List.length_append, List.length_append] at hall
    simp only [Spelling.monthChars, Spelling.dayChars] at hall ⊢
    omega
  obtain ⟨rfl, rfl⟩ := List.append_inj htext.symm hsame
  rfl

/-! ## What a default format reads -/

variable {items other : List Item}

theorem layout_cases (h : items ∈ defaultLayouts) :
    items = joined ∨ ∃ afterYear afterMonth behind,
      items = separated afterYear afterMonth behind ∧ afterMonth ∈ signs ∧ behind ⊆ signs := by
  simp only [defaultLayouts, List.mem_cons, List.not_mem_nil, or_false] at h
  rcases h with rfl | rfl | rfl | rfl
  · exact .inr ⟨'-', '-', [], rfl, by decide, by decide⟩
  · exact .inr ⟨'/', '/', [], rfl, by decide, by decide⟩
  · exact .inl rfl
  · exact .inr ⟨'年', '月', ['日'], rfl, by decide, by decide⟩

variable {s}

theorem Spelling.Suits.padded (h : s.Suits joined) :
    s.monthPadded = true ∧ s.dayPadded = true := by
  rcases h with ⟨c, hc⟩ | hpadded
  · simp [joined] at hc
  · exact hpadded

theorem matchItems_text (hitems : items ∈ defaultLayouts) (hsuits : s.Suits items)
    (hday : isDay s.year s.month s.day = true) :
    matchItems items (s.text items) = some (s.found, []) := by
  rcases layout_cases hitems with rfl | ⟨afterYear, afterMonth, behind, rfl, hmonth, hbehind⟩
  · exact matchItems_joined s hsuits.padded hday
  · exact matchItems_separated s hmonth hbehind hday

theorem found_eq_of_matches (hitems : items ∈ defaultLayouts) (hsuits : s.Suits items)
    {found : List Found} (h : Matches items found (s.text items)) : found = s.found := by
  rcases layout_cases hitems with rfl | ⟨afterYear, afterMonth, behind, rfl, hmonth, -⟩
  · exact found_eq_of_matches_joined s hsuits.padded h
  · exact found_eq_of_matches_separated s hmonth h

/-- A format reads from its own text the date that the numbers make up, if there is one. -/
theorem readItems?_text (hitems : items ∈ defaultLayouts) (hsuits : s.Suits items) :
    readItems? items (s.text items) = of? s.year s.month s.day := by
  by_cases hday : isDay s.year s.month s.day = true
  · rw [readItems?, matchItems_text hitems hsuits hday]
    exact date?_found s
  · have hnone : of? s.year s.month s.day = none := dif_neg hday
    rw [hnone, Option.eq_none_iff_forall_ne_some]
    intro d hd
    obtain ⟨found, hmatches, hfound⟩ := exists_matches_of_readItems? hd
    rw [found_eq_of_matches hitems hsuits hmatches, date?_found, hnone] at hfound
    cases hfound

/-! ## What the other formats read -/

theorem mem_signs_of_mem (hitems : items ∈ defaultLayouts) {c : Char} (h : .literal c ∈ items) :
    c ∈ signs := by
  have hall : ∀ items ∈ defaultLayouts, ∀ item ∈ items, item ∈ defaultItems := by decide
  simpa [defaultItems, signs] using hall items hitems _ h

/-- A sign that is not in the layout is like no character of the text. -/
theorem not_same_of_mem_text (hitems : items ∈ defaultLayouts) {sign c : Char}
    (hsign : sign ∈ signs) (hmissing : .literal sign ∉ items) (hc : c ∈ s.text items) :
    Case.same sign c = false := by
  have hdistinct : ∀ sign ∈ signs, ∀ sign' ∈ signs, sign ≠ sign' → Case.same sign sign' = false := by
    decide +kernel
  rcases Spelling.mem_text hc with ⟨d, hd, rfl⟩ | hliteral
  · exact not_same_char_of_sign sign hsign d hd
  · refine hdistinct sign hsign c (mem_signs_of_mem hitems hliteral) ?_
    rintro rfl
    exact hmissing hliteral

/-- Either the other layout wants a sign that the text does not have, or the text has a sign that the
other layout has no place for. -/
theorem layouts_apart : ∀ items ∈ defaultLayouts, ∀ other ∈ defaultLayouts, other ≠ items →
    (∃ sign ∈ signs, .literal sign ∈ other ∧ .literal sign ∉ items) ∨
      ∃ sign ∈ signs, .literal sign ∈ items ∧ ∀ item ∈ other, admits item sign = false := by
  decide +kernel

theorem readItems?_text_of_ne (hitems : items ∈ defaultLayouts) (hother : other ∈ defaultLayouts)
    (hne : other ≠ items) : readItems? other (s.text items) = none := by
  rw [Option.eq_none_iff_forall_ne_some]
  intro d hd
  obtain ⟨found, hmatches, -⟩ := exists_matches_of_readItems? hd
  rcases layouts_apart items hitems other hother hne with
    ⟨sign, hsign, hwanted, hmissing⟩ | ⟨sign, -, hliteral, hforeign⟩
  · obtain ⟨c, hc, hsame⟩ := hmatches.exists_same hwanted
    rw [not_same_of_mem_text hitems hsign hmissing hc] at hsame
    cases hsame
  · have hmem : sign ∈ s.text items := List.mem_flatMap.mpr ⟨_, hliteral, List.mem_cons_self⟩
    obtain ⟨item, hitem, hadmits⟩ := hmatches.exists_admits sign hmem
    rw [hforeign item hitem] at hadmits
    cases hadmits

end Layout

end ReceiptRules.Date
