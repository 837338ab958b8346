import Mathlib.Data.List.Forall2
import ReceiptRules.Proofs.Json.WrittenText
import ReceiptRules.Proofs.Text.Digit
import ReceiptRules.Proofs.Value.Entries

/-!
# Reading written values

Values of the kinds that JSON has are read back from what is written for them, on one line or with
indentation, escaped in full or not. Whole numbers have to be short enough to be written, and the
keys of objects have to differ.
-/

namespace ReceiptRules.Json

open Text

/-- Values of the kinds that JSON has, apart from fractions. -/
inductive Plain : Value → Prop
  | null : Plain .null
  | bool (b : Bool) : Plain (.bool b)
  | int (n : Int) (h : WholeNumber.writable n = true) : Plain (.int n)
  | text (s : String) : Plain (.text s)
  | list (items : List Value) (h : ∀ v ∈ items, Plain v) : Plain (.list items)
  | object (entries : List (String × Value)) (hkeys : (entries.map Prod.fst).Nodup)
      (h : ∀ entry ∈ entries, Plain entry.2) : Plain (.object entries)

/-! ## What may follow -/

/-- What follows a number is not taken for a part of it. -/
def Ends (rest : List Char) : Prop :=
  ∀ c ∈ rest.head?, c.isDigit = false ∧ c ≠ '.' ∧ c ≠ 'e' ∧ c ≠ 'E'

/-- What stands between items: line feeds and spaces. -/
def IsGap (cs : List Char) : Prop := ∀ c ∈ cs, c = '\n' ∨ c = ' '

theorem skipSpace_append {gap : List Char} (h : IsGap gap) (cs : List Char) :
    skipSpace (gap ++ cs) = skipSpace cs := by
  apply List.dropWhile_append_of_pos
  intro c hc
  rcases h c hc with rfl | rfl <;> rfl

theorem skipSpace_cons {c : Char} (h : isSpace c = false) (cs : List Char) :
    skipSpace (c :: cs) = c :: cs := List.dropWhile_cons_of_neg (by simp [h])

theorem ends_cons {c : Char} {rest : List Char}
    (h : c.isDigit = false ∧ c ≠ '.' ∧ c ≠ 'e' ∧ c ≠ 'E') : Ends (c :: rest) := by
  intro d hd
  cases hd
  exact h

theorem Ends.of_gap {gap rest : List Char} (hgap : IsGap gap) (hrest : Ends rest) :
    Ends (gap ++ rest) := by
  cases gap with
  | nil => exact hrest
  | cons c gap =>
    apply ends_cons
    rcases hgap c List.mem_cons_self with rfl | rfl <;> decide

/-! ## Numbers -/

theorem isDigit_of_mem_text {n : Nat} {c : Char} (h : c ∈ Digit.text n) : c.isDigit = true :=
  Digit.isDigit_of_mem_map_char (fun _ ↦ Digit.lt_ten_of_mem_digits) c h

theorem digitValues_text (n : Nat) : Decimal.digitValues (Digit.text n) = Digit.digits n :=
  Digit.map_toNat_sub_map_char fun _ ↦ Digit.lt_ten_of_mem_digits

theorem wholePart_text (n : Nat) {rest : List Char} (h : Ends rest) :
    wholePart (Digit.text n ++ rest) = some (Digit.text n, rest) := by
  by_cases hn : n = 0
  · subst hn
    rw [Digit.text, Digit.digits_of_lt (by decide)]
    rfl
  · have hdigits : ∀ c ∈ Digit.text n, c.isDigit = true := fun c hc ↦ isDigit_of_mem_text hc
    cases htext : Digit.digits n with
    | nil => exact absurd htext (Digit.digits_ne_nil n)
    | cons d ds =>
      have hd : d ≠ 0 := Digit.head_digits_ne_zero hn htext
      have hlt : d < 10 := Digit.lt_ten_of_mem_digits (by rw [htext]; exact List.mem_cons_self)
      have hzero : Digit.char d ≠ '0' := by
        have hall : ∀ d < 10, d ≠ 0 → Digit.char d ≠ '0' := by decide
        exact hall d hlt hd
      rw [Digit.text, htext, List.map_cons] at hdigits ⊢
      obtain ⟨hfirst, hothers⟩ := List.forall_mem_cons.mp hdigits
      have hend : ∀ c ∈ rest.head?, c.isDigit = false := fun c hc ↦ (h c hc).1
      rw [List.cons_append, wholePart, if_pos hfirst, Digit.takeWhile_isDigit hothers hend,
        Digit.dropWhile_isDigit hothers hend]
      exact hzero

theorem fractionPart_of_ends {rest : List Char} (h : Ends rest) :
    fractionPart rest = ([], rest) := by
  cases rest with
  | nil => rfl
  | cons c rest =>
    have hc : c ≠ '.' := (h c rfl).2.1
    rw [fractionPart]
    simp [hc]

theorem exponentPart_of_ends {rest : List Char} (h : Ends rest) :
    exponentPart rest = ([], rest) := by
  cases rest with
  | nil => rfl
  | cons c rest =>
    obtain ⟨-, -, hlower, hupper⟩ := h c rfl
    rw [exponentPart]
    simp [hlower, hupper]

theorem length_text_le_of_writable {n : Int} (h : WholeNumber.writable n = true) :
    (Digit.text n.natAbs).length ≤ WholeNumber.digitLimit := by
  rw [Digit.text, List.length_map]
  exact WholeNumber.length_digits_le_of_writable h

theorem ofDigits_text {m : Nat} (h : (Digit.text m).length ≤ WholeNumber.digitLimit)
    (negative : Bool) :
    ofDigits negative (Digit.text m) [] [] = .ok (.int (if negative then -(m : Int) else m)) := by
  have hshort : ¬ (Digit.text m).length > WholeNumber.digitLimit := Nat.not_lt.mpr h
  simp [ofDigits, hshort, digitValues_text, Digit.number_digits]

/-- The text of a whole number: its digits, behind a sign if it is below zero. -/
theorem toList_intText (n : Int) :
    (Value.intText n).toList = (if n < 0 then ['-'] else []) ++ Digit.text n.natAbs := by
  simp [Value.intText, Decimal.signText]

theorem text_eq_cons (m : Nat) : ∃ c cs, Digit.text m = c :: cs ∧ c.isDigit = true := by
  cases htext : Digit.text m with
  | nil => exact absurd (List.map_eq_nil_iff.mp htext) (Digit.digits_ne_nil m)
  | cons c cs => exact ⟨c, cs, rfl, isDigit_of_mem_text (by rw [htext]; exact List.mem_cons_self)⟩

theorem number?_intText {n : Int} (hn : WholeNumber.writable n = true) {rest : List Char}
    (h : Ends rest) :
    number? ((Value.intText n).toList ++ rest) = some (.ok (.int n, rest)) := by
  have hlength := length_text_le_of_writable hn
  rw [toList_intText]
  by_cases hneg : n < 0
  · rw [if_pos hneg, List.singleton_append, List.cons_append]
    simp only [number?, wholePart_text n.natAbs h, fractionPart_of_ends h, exponentPart_of_ends h,
      ofDigits_text hlength, Option.map_some, Except.map, if_true]
    rw [show -(n.natAbs : Int) = n by omega]
  · rw [if_neg hneg, List.nil_append, number?]
    · simp only [wholePart_text n.natAbs h, fractionPart_of_ends h, exponentPart_of_ends h,
        ofDigits_text hlength, Option.map_some, Except.map, Bool.false_eq_true, if_false]
      rw [show (n.natAbs : Int) = n by omega]
    · obtain ⟨c, cs, htext, hdigit⟩ := text_eq_cons n.natAbs
      intro rest' hminus
      rw [htext, List.cons_append] at hminus
      cases hminus
      cases hdigit

/-! ## Values that stand alone -/

/-- The characters with which a whole number starts. -/
theorem intText_eq_cons (n : Int) :
    ∃ c cs, (Value.intText n).toList = c :: cs ∧
      (c.isDigit = true ∨ c = '-' ∧ ∃ d ds, cs = d :: ds ∧ d.isDigit = true) := by
  obtain ⟨d, ds, htext, hdigit⟩ := text_eq_cons n.natAbs
  rw [toList_intText]
  by_cases hneg : n < 0
  · rw [if_pos hneg]
    exact ⟨'-', _, rfl, .inr ⟨rfl, d, ds, htext, hdigit⟩⟩
  · rw [if_neg hneg]
    exact ⟨d, ds, htext, .inl hdigit⟩

/-- No bare word starts like a number: neither of its first two characters is a digit. -/
theorem word?_intText (n : Int) (rest : List Char) :
    word? ((Value.intText n).toList ++ rest) = none := by
  have hwords : ∀ w ∈ words, 2 ≤ w.1.toList.length ∧
      (w.1.toList.take 2).all (fun c ↦ !c.isDigit) = true := by decide
  rw [word?, Option.map_eq_none_iff, List.find?_eq_none]
  intro w hw hprefix
  obtain ⟨tail, htail⟩ := List.isPrefixOf_iff_prefix.mp hprefix
  obtain ⟨hlength, hletters⟩ := hwords w hw
  match hw' : w.1.toList, hlength with
  | a :: b :: more, _ =>
    simp only [hw', List.take_succ_cons, List.all_cons, Bool.and_eq_true, Bool.not_eq_true']
      at hletters
    obtain ⟨ha, hb, -⟩ := hletters
    obtain ⟨c, cs, htext, hdigit | ⟨-, d, ds, rfl, hdigit⟩⟩ := intText_eq_cons n
    · simp only [hw', htext, List.cons_append, List.cons.injEq] at htail
      rw [← htail.1, ha] at hdigit
      cases hdigit
    · simp only [hw', htext, List.cons_append, List.cons.injEq] at htail
      rw [← htail.2.1, hb] at hdigit
      cases hdigit

/-- The character is neither skipped nor taken for an end of something when a value is due. -/
def Starts (c : Char) : Prop := isSpace c = false ∧ c ≠ ']' ∧ c ≠ '\ufeff'

instance (c : Char) : Decidable (Starts c) := inferInstanceAs (Decidable (_ ∧ _))

/-- Something that is read back from what is written for it, whatever follows. -/
structure ReadsBack (style : Style) (v : Value) : Prop where
  start : ∀ level, ∃ c cs, chars style level v = c :: cs ∧ Starts c
  back : ∀ level rest bound, Ends rest → (chars style level v).length ≤ bound →
    value bound (chars style level v ++ rest) = .ok (v, rest)

variable {style : Style}

theorem ReadsBack.of_succ {v : Value}
    (hstart : ∀ level, ∃ c cs, chars style level v = c :: cs ∧ Starts c)
    (hback : ∀ level rest bound, Ends rest → (chars style level v).length ≤ bound + 1 →
      value (bound + 1) (chars style level v ++ rest) = .ok (v, rest)) : ReadsBack style v := by
  refine ⟨hstart, fun level rest bound hends hbound ↦ ?_⟩
  cases bound with
  | zero =>
    obtain ⟨c, cs, hchars, -⟩ := hstart level
    rw [hchars, List.length_cons] at hbound
    omega
  | succ bound => exact hback level rest bound hends hbound

theorem readsBack_null : ReadsBack style .null :=
  .of_succ (fun _ ↦ ⟨'n', _, rfl, by decide⟩) fun _ _ _ _ _ ↦ rfl

theorem readsBack_bool (b : Bool) : ReadsBack style (.bool b) := by
  cases b with
  | false => exact .of_succ (fun _ ↦ ⟨'f', _, rfl, by decide⟩) fun _ _ _ _ _ ↦ rfl
  | true => exact .of_succ (fun _ ↦ ⟨'t', _, rfl, by decide⟩) fun _ _ _ _ _ ↦ rfl

theorem readsBack_text (s : String) : ReadsBack style (.text s) := by
  refine .of_succ (fun level ↦ ⟨'"', _, rfl, by decide⟩) fun level rest bound _ _ ↦ ?_
  have hchars : chars style level (.text s) ++ rest =
      '"' :: (s.toList.flatMap (escapeChar style.escapeAll) ++ '"' :: rest) := by
    simp [chars, textChars, Value.asText]
  rw [hchars, value]
  simp [textBody_flatMap_escapeChar, bind, Except.bind, pure, Except.pure]

theorem starts_of_isDigit {c : Char} (h : c.isDigit = true ∨ c = '-') :
    (c == '"') = false ∧ (c == '[') = false ∧ (c == '\x7b') = false ∧ Starts c := by
  rcases h with h | rfl
  · have hne : ∀ d : Char, d.isDigit = false → c ≠ d := by
      rintro d hd rfl
      rw [h] at hd
      cases hd
    have hbeq : ∀ d : Char, d.isDigit = false → (c == d) = false :=
      fun d hd ↦ beq_eq_false_iff_ne.mpr (hne d hd)
    refine ⟨hbeq _ rfl, hbeq _ rfl, hbeq _ rfl, ?_, hne _ rfl, hne _ rfl⟩
    simp only [isSpace, hbeq ' ' rfl, hbeq '\t' rfl, hbeq '\n' rfl, hbeq '\r' rfl, Bool.or_self]
  · decide

theorem readsBack_int {n : Int} (h : WholeNumber.writable n = true) : ReadsBack style (.int n) := by
  obtain ⟨c, cs, htext, hfirst⟩ := intText_eq_cons n
  obtain ⟨hquote, hlist, hobject, hstarts⟩ := starts_of_isDigit (hfirst.imp_right And.left)
  refine .of_succ (fun level ↦ ⟨c, cs, htext, hstarts⟩) fun level rest bound hends _ ↦ ?_
  have hword := word?_intText n rest
  have hnumber := number?_intText h hends
  rw [htext, List.cons_append] at hword hnumber
  rw [chars, htext, List.cons_append, value, hword, hnumber]
  simp [hquote, hlist, hobject]

/-! ## Values made of others -/

theorem itemChars_eq_map (level : Nat) (items : List Value) :
    itemChars style level items = items.map (chars style level) := by
  induction items with
  | nil => rfl
  | cons v rest ih => rw [itemChars, ih, List.map_cons]

/-- A key and what is written between it and its value. -/
def keyChars (style : Style) (key : String) : List Char :=
  textChars style.escapeAll key ++ [':', ' ']

theorem entryChars_eq_map (level : Nat) (entries : List (String × Value)) :
    entryChars style level entries =
      entries.map fun (key, v) ↦ keyChars style key ++ chars style level v := by
  induction entries with
  | nil => rfl
  | cons entry rest ih =>
    obtain ⟨key, v⟩ := entry
    rw [entryChars, ih, List.map_cons]
    simp [keyChars]

/-- What stands between brackets: gaps in front, behind each comma and at the end. -/
theorem bracketed_eq (style : Style) (level : Nat) (opening closing : Char)
    {items : List (List Char)} (h : items ≠ []) :
    ∃ gap gap' gap'', IsGap gap ∧ IsGap gap' ∧ IsGap gap'' ∧
      bracketed style level opening closing items =
        opening :: (gap ++ ((',' :: gap').intercalate items ++ (gap'' ++ [closing]))) := by
  have hbreak : ∀ level, IsGap (lineBreak level) := by
    intro level c hc
    rcases List.mem_cons.mp hc with hc | hc
    · exact .inl hc
    · exact .inr (List.mem_replicate.mp hc).2
  rw [bracketed, if_neg (by simpa using h)]
  split
  · exact ⟨_, _, _, hbreak (level + 1), hbreak (level + 1), hbreak level, by simp⟩
  · refine ⟨[], [' '], [], ?_, ?_, ?_, by simp⟩ <;> simp [IsGap]

/-- A text that a reader of items takes for one item, be it the last one or not. -/
structure ItemOf {α : Type} (closing : Char)
    (readItems : Nat → List Char → Except Stop (List α × List Char)) (text : List Char) (a : α) :
    Prop where
  start : ∃ c cs, text = c :: cs ∧ isSpace c = false ∧ c ≠ closing
  last : ∀ bound rest rest', text.length ≤ bound → Ends rest →
    skipSpace rest = closing :: rest' → readItems (bound + 1) (text ++ rest) = .ok ([a], rest')
  next : ∀ bound rest rest' others rest'', text.length ≤ bound → Ends rest →
    skipSpace rest = ',' :: rest' → readItems bound (skipSpace rest') = .ok (others, rest'') →
    readItems (bound + 1) (text ++ rest) = .ok (a :: others, rest'')

section Items

variable {α : Type} {closing : Char}
  {readItems : Nat → List Char → Except Stop (List α × List Char)} {gap gap' : List Char}

theorem skipSpace_intercalate (hgap : IsGap gap) {text : List Char} {a : α}
    (h : ItemOf closing readItems text a) (separator : List Char) (texts : List (List Char))
    (rest : List Char) :
    skipSpace (gap ++ (separator.intercalate (text :: texts) ++ rest)) =
      separator.intercalate (text :: texts) ++ rest := by
  obtain ⟨c, cs, rfl, hc, -⟩ := h.start
  rw [skipSpace_append hgap, List.intercalate_cons_cons_left, List.cons_append, skipSpace_cons hc]

theorem readItems_intercalate (hclosing : closing = ']' ∨ closing = '\x7d') (hgap : IsGap gap)
    (hgap' : IsGap gap') {texts : List (List Char)} {items : List α} (hne : texts ≠ [])
    (h : List.Forall₂ (ItemOf closing readItems) texts items) (rest : List Char) {bound : Nat}
    (hbound : ((',' :: gap).intercalate texts).length < bound) :
    readItems bound ((',' :: gap).intercalate texts ++ (gap' ++ closing :: rest)) =
      .ok (items, rest) := by
  have hend : Ends (gap' ++ closing :: rest) ∧
      skipSpace (gap' ++ closing :: rest) = closing :: rest := by
    rw [skipSpace_append hgap']
    rcases hclosing with rfl | rfl
    · exact ⟨.of_gap hgap' (ends_cons (by decide)), skipSpace_cons rfl _⟩
    · exact ⟨.of_gap hgap' (ends_cons (by decide)), skipSpace_cons rfl _⟩
  induction h generalizing bound with
  | nil => exact absurd rfl hne
  | @cons text a texts others htext hothers ih =>
    obtain ⟨bound, rfl⟩ : ∃ k, bound = k + 1 := ⟨bound - 1, by omega⟩
    cases hothers with
    | nil =>
      rw [List.intercalate_singleton] at *
      exact htext.last bound _ rest (by omega) hend.1 hend.2
    | @cons text' a' texts others htext' hothers =>
      rw [List.intercalate_cons_cons] at *
      simp only [List.length_append, List.length_cons] at hbound
      rw [List.append_assoc, List.append_assoc]
      refine htext.next bound _ (gap ++ _) (a' :: others) rest (by omega) (ends_cons (by decide))
        (skipSpace_cons rfl _) ?_
      rw [skipSpace_intercalate hgap htext']
      exact ih (List.cons_ne_nil _ _) (by omega)

/-- What is written between brackets, behind the opening one. -/
theorem readItems_bracketed (hclosing : closing = ']' ∨ closing = '\x7d')
    {texts : List (List Char)} {items : List α} (hne : texts ≠ [])
    (h : List.Forall₂ (ItemOf closing readItems) texts items) (style : Style) (level : Nat)
    (opening : Char) :
    ∃ cs, bracketed style level opening closing texts = opening :: cs ∧
      ∀ rest bound, cs.length ≤ bound →
        readItems bound (skipSpace (cs ++ rest)) = .ok (items, rest) ∧
        (skipSpace (cs ++ rest)).head? ≠ some closing := by
  obtain ⟨gap, gap', gap'', hgap, hgap', hgap'', heq⟩ :=
    bracketed_eq style level opening closing hne
  refine ⟨_, heq, fun rest bound hbound ↦ ?_⟩
  simp only [List.length_append, List.length_singleton] at hbound
  have hread : readItems bound _ = .ok (items, rest) :=
    readItems_intercalate hclosing hgap' hgap'' hne h rest (by omega)
  cases h with
  | nil => exact absurd rfl hne
  | @cons text a texts others htext hothers =>
    rw [List.append_assoc, List.append_assoc, List.append_assoc, List.singleton_append,
      skipSpace_intercalate hgap htext]
    refine ⟨hread, ?_⟩
    obtain ⟨c, cs, rfl, -, hc⟩ := htext.start
    rw [List.intercalate_cons_cons_left, List.cons_append, List.head?_cons]
    exact fun hclose ↦ hc (Option.some.inj hclose)

end Items

theorem ReadsBack.itemOf {v : Value} (h : ReadsBack style v) (level : Nat) :
    ItemOf ']' elements (chars style level v) v where
  start := by
    obtain ⟨c, cs, hchars, hspace, hclose, -⟩ := h.start level
    exact ⟨c, cs, hchars, hspace, hclose⟩
  last bound rest rest' hbound hends hrest := by
    rw [elements, h.back level rest bound hends hbound]
    simp only [bind, Except.bind, hrest]
    rfl
  next bound rest rest' others rest'' hbound hends hrest hothers := by
    rw [elements, h.back level rest bound hends hbound]
    simp only [bind, Except.bind, hrest, hothers]
    rfl

theorem ReadsBack.entryOf {v : Value} (h : ReadsBack style v) (level : Nat) (key : String) :
    ItemOf '\x7d' members (keyChars style key ++ chars style level v) (key, v) := by
  obtain ⟨c, cs, hchars, hc, -⟩ := h.start level
  have htext (rest : List Char) : keyChars style key ++ chars style level v ++ rest =
      '"' :: (key.toList.flatMap (escapeChar style.escapeAll) ++
        '"' :: ':' :: ' ' :: (chars style level v ++ rest)) := by
    simp [keyChars, textChars]
  have hskip (rest : List Char) : skipSpace (' ' :: (chars style level v ++ rest)) =
      chars style level v ++ rest := by
    rw [hchars, List.cons_append]
    exact skipSpace_cons hc _
  have hcolon (rest : List Char) : skipSpace (':' :: rest) = ':' :: rest := skipSpace_cons rfl rest
  refine ⟨⟨'"', _, rfl, rfl, by decide⟩, ?_, ?_⟩
  · intro bound rest rest' hbound hends hrest
    rw [List.length_append] at hbound
    rw [htext, members]
    simp only [textBody_flatMap_escapeChar, bind, Except.bind, hcolon, hskip,
      h.back level rest bound hends (by omega), hrest, String.ofList_toList]
    rfl
  · intro bound rest rest' others rest'' hbound hends hrest hothers
    rw [List.length_append] at hbound
    rw [htext, members]
    simp only [textBody_flatMap_escapeChar, bind, Except.bind, hcolon, hskip,
      h.back level rest bound hends (by omega), hrest, hothers, String.ofList_toList]
    rfl

theorem value_list {bound : Nat} {cs rest : List Char} {items : List Value}
    (h : elements bound (skipSpace cs) = .ok (items, rest))
    (hne : (skipSpace cs).head? ≠ some ']') :
    value (bound + 1) ('[' :: cs) = .ok (.list items, rest) := by
  rw [value]
  generalize skipSpace cs = cs' at *
  simp only [Char.reduceBEq, Bool.false_eq_true, if_false, BEq.rfl, if_true]
  split
  · exact absurd rfl hne
  · simp only [h, bind, Except.bind]
    rfl

theorem value_object {bound : Nat} {cs rest : List Char} {entries : List (String × Value)}
    (h : members bound (skipSpace cs) = .ok (entries, rest))
    (hne : (skipSpace cs).head? ≠ some '\x7d') :
    value (bound + 1) ('\x7b' :: cs) = .ok (.object (Value.distinct entries), rest) := by
  rw [value]
  generalize skipSpace cs = cs' at *
  simp only [Char.reduceBEq, Bool.false_eq_true, if_false, BEq.rfl, if_true]
  split
  · exact absurd rfl hne
  · simp only [h, bind, Except.bind]
    rfl

theorem readsBack_list {items : List Value} (h : ∀ v ∈ items, ReadsBack style v) :
    ReadsBack style (.list items) := by
  by_cases hne : items = []
  · subst hne
    exact .of_succ (fun _ ↦ ⟨'[', _, rfl, by decide⟩) fun _ _ _ _ _ ↦ rfl
  have hforall (level : Nat) :
      List.Forall₂ (ItemOf ']' elements) (items.map (chars style level)) items := by
    rw [List.forall₂_map_left_iff, List.forall₂_same]
    exact fun v hv ↦ (h v hv).itemOf level
  have hread (level : Nat) := readItems_bracketed (.inl rfl) (by simpa using hne)
    (hforall (level + 1)) style level '['
  refine .of_succ (fun level ↦ ?_) fun level rest bound _ hbound ↦ ?_
  · obtain ⟨cs, heq, -⟩ := hread level
    rw [chars, itemChars_eq_map, heq]
    exact ⟨'[', cs, rfl, by decide⟩
  · obtain ⟨cs, heq, hcs⟩ := hread level
    rw [chars, itemChars_eq_map, heq] at hbound ⊢
    obtain ⟨hitems, hopen⟩ := hcs rest bound (Nat.le_of_succ_le_succ hbound)
    exact value_list hitems hopen

theorem readsBack_object {entries : List (String × Value)} (hkeys : (entries.map Prod.fst).Nodup)
    (h : ∀ entry ∈ entries, ReadsBack style entry.2) : ReadsBack style (.object entries) := by
  by_cases hne : entries = []
  · subst hne
    exact .of_succ (fun _ ↦ ⟨'\x7b', _, rfl, by decide⟩) fun _ _ _ _ _ ↦ rfl
  have hforall (level : Nat) : List.Forall₂ (ItemOf '\x7d' members)
      (entries.map fun (key, v) ↦ keyChars style key ++ chars style level v) entries := by
    rw [List.forall₂_map_left_iff, List.forall₂_same]
    exact fun entry hentry ↦ (h entry hentry).entryOf level entry.1
  have hread (level : Nat) := readItems_bracketed (.inr rfl) (by simpa using hne)
    (hforall (level + 1)) style level '\x7b'
  refine .of_succ (fun level ↦ ?_) fun level rest bound _ hbound ↦ ?_
  · obtain ⟨cs, heq, -⟩ := hread level
    rw [chars, entryChars_eq_map, heq]
    exact ⟨'\x7b', cs, rfl, by decide⟩
  · obtain ⟨cs, heq, hcs⟩ := hread level
    rw [chars, entryChars_eq_map, heq] at hbound ⊢
    obtain ⟨hentries, hopen⟩ := hcs rest bound (Nat.le_of_succ_le_succ hbound)
    rw [List.cons_append, value_object hentries hopen, Value.distinct_of_nodup hkeys]

theorem Plain.readsBack {v : Value} (h : Plain v) (style : Style) : ReadsBack style v := by
  induction h with
  | null => exact readsBack_null
  | bool b => exact readsBack_bool b
  | int n h => exact readsBack_int h
  | text s => exact readsBack_text s
  | list items h ih => exact readsBack_list ih
  | object entries hkeys h ih => exact readsBack_object hkeys ih

/-- What is written for a value is read back as that value. -/
theorem read_write (style : Style) {v : Value} (h : Plain v) : read (write style v) = .ok v := by
  obtain ⟨c, cs, hchars, hspace, -, hmark⟩ := (h.readsBack style).start 0
  have hback := (h.readsBack style).back 0 [] ((chars style 0 v).length + 1) nofun (by omega)
  have hskip : skipSpace (chars style 0 v) = chars style 0 v := by
    rw [hchars, skipSpace_cons hspace]
  have hhead : ((chars style 0 v).head? == some '\ufeff') = false := by
    rw [hchars]
    simpa using hmark
  rw [List.append_nil] at hback
  rw [read, write, String.toList_ofList, readAll, hskip, hback, hhead]
  rfl

end ReceiptRules.Json
