import ReceiptRules.Pattern
import ReceiptRules.Proofs.Pattern.Matching
import ReceiptRules.Proofs.Text.Pieces

/-!
# Reading words and bars

Words that are free of signs, put one after the other with bars between them, are read as
alternatives that spell these words. Each step of the reader takes one character off the pattern, so
that what is left is followed from one character to the next, from one word to the next, and to the
end. Flags never change on the way. The empty word is a word too: its alternative matches anywhere.
-/

namespace ReceiptRules.Pattern

namespace Reader

/-- Characters that have a meaning outside of sets. A closing bracket or brace of a set or a
repetition has none by itself. -/
def signs : List Char := ['\\', '.', '^', '$', '*', '+', '?', '\x7b', '[', '(', ')', '|']

/-- The item of a character that stands for itself. -/
def Item.ofChar (mode : Mode) (c : Char) : Item := .other (.code mode false c.toNat)

/-- Goes past a number of characters of the pattern. -/
def State.past (n : Nat) (s : State) : State :=
  { s with rest := s.rest.drop n, position := s.position + n }

variable {scope : Scope} {items : List Item} {s : State} {c : Char} {rest w back : List Char}
  {words : List (List Char)} {bound : Nat}

theorem State.past_past (m n : Nat) : (s.past m).past n = s.past (m + n) := by
  simp [past, Nat.add_assoc]

theorem State.not_mem_rest_past (hplain : '\\' ∉ s.rest) (n : Nat) : '\\' ∉ (s.past n).rest :=
  fun h ↦ hplain (List.mem_of_mem_drop h)

/-! ## Tokens -/

theorem tokenOf_cons (hc : c ≠ '\\') : tokenOf (c :: rest) = some (.plain c) := by
  rw [tokenOf]
  exact fun _ _ h _ ↦ hc h

theorem run_peek (s : State) : peek.run s = pure (tokenOf s.rest, s) := rfl

theorem run_next (hrest : s.rest = c :: rest) (hplain : '\\' ∉ s.rest) :
    next.run s = pure (some (.plain c), s.past 1) := by
  rw [hrest, List.mem_cons, not_or] at hplain
  have htoken : tokenOf s.rest = some (.plain c) := by rw [hrest, tokenOf_cons (Ne.symm hplain.1)]
  have hpast : s.rest.tail ≠ ['\\'] := by
    rw [hrest]
    rintro (rfl : rest = _)
    exact hplain.2 (List.mem_singleton_self _)
  simp [next, htoken, checkLonely, Token.length, Token.chars, hpast, State.past]

theorem run_take_bar (hrest : s.rest = '|' :: rest) (hplain : '\\' ∉ s.rest) :
    (take '|').run s = pure (true, s.past 1) := by
  simp [take, peekIs, run_peek, hrest, tokenOf, run_next hrest hplain]

theorem run_take_nil (hrest : s.rest = []) : (take '|').run s = pure (false, s) := by
  simp [take, peekIs, run_peek, hrest, tokenOf]

/-! ## Words -/

theorem run_sequence_of_stop (hback : s.rest.head?.all (· == '|')) :
    (sequence (bound + 1) scope items).run s = pure (items, s) := by
  cases hrest : s.rest with
  | nil => simp [sequence, run_peek, hrest, tokenOf]
  | cons c rest =>
    obtain rfl : c = '|' := by simpa [hrest] using hback
    simp [sequence, run_peek, hrest, tokenOf]

theorem run_sequence_cons (hc : c ∉ signs) (hrest : s.rest = c :: rest) (hplain : '\\' ∉ s.rest)
    (hscope : scope.verbose = false) :
    (sequence (bound + 1) scope items).run s =
      (sequence bound scope (.ofChar scope.mode c :: items)).run (s.past 1) := by
  have hno {d : Char} (hd : d ∈ signs) : c ≠ d := fun h ↦ hc (h ▸ hd)
  have htoken : tokenOf s.rest = some (.plain c) := by rw [hrest, tokenOf_cons (hno (by decide))]
  rw [sequence]
  simp only [StateT.run_bind, run_peek, htoken, hscope, StateT.run_get, pure_bind]
  split
  · next h => cases h
  · next h => exact absurd (Token.plain.inj (Option.some.inj h)) (hno (by decide))
  · next h => exact absurd (Token.plain.inj (Option.some.inj h)) (hno (by decide))
  · next t _ _ h =>
    obtain rfl : t = .plain c := (Option.some.inj h).symm
    simp only [StateT.run_bind, run_next hrest hplain, pure_bind, Bool.false_and,
      Bool.false_eq_true, if_false]
    split
    all_goals first | rfl | exact absurd rfl (hno (by decide))

/-- A word is read as the item of each of its characters. -/
theorem run_sequence_word (hw : ∀ c ∈ w, c ∉ signs) (hrest : s.rest = w ++ back)
    (hback : back.head?.all (· == '|')) (hplain : '\\' ∉ s.rest) (hscope : scope.verbose = false)
    (hbound : w.length < bound) :
    (sequence bound scope items).run s =
      pure ((w.map (.ofChar scope.mode)).reverse ++ items, s.past w.length) := by
  induction w generalizing s items bound with
  | nil =>
    obtain ⟨bound, rfl⟩ := Nat.exists_eq_add_one.mpr hbound
    exact run_sequence_of_stop (by rwa [hrest])
  | cons c w ih =>
    obtain ⟨bound, rfl⟩ := Nat.exists_eq_add_one.mpr (Nat.zero_lt_of_lt hbound)
    obtain ⟨hc, hw⟩ := List.forall_mem_cons.mp hw
    have hpast : (s.past 1).rest = w ++ back := by simp [State.past, hrest]
    rw [run_sequence_cons hc hrest hplain hscope,
      ih hw hpast (State.not_mem_rest_past hplain 1) (Nat.lt_of_succ_lt_succ hbound),
      State.past_past]
    simp [Nat.add_comm]

/-! ## Alternatives -/

theorem sequence_map_ofChar (w : List Char) :
    Node.sequence (((w.map (Item.ofChar {})).reverse ++ []).reverse.map Item.node) = .ofWord w := by
  rw [List.append_nil, List.reverse_reverse, List.map_map]
  rfl

/-- The word that ends the pattern. -/
theorem run_alternatives_of_end (hw : ∀ c ∈ w, c ∉ signs) (hrest : s.rest = w)
    (hplain : '\\' ∉ s.rest) (hbound : w.length < bound) :
    (alternatives (bound + 1) (scope.underFlags {})).run s =
      pure ([.ofWord w], s.past w.length) := by
  have hword : (sequence bound (scope.underFlags {}) []).run s =
      pure ((w.map (.ofChar {})).reverse ++ [], s.past w.length) :=
    run_sequence_word hw (by rw [hrest, List.append_nil]) rfl hplain rfl hbound
  have hend : (s.past w.length).rest = [] := by simp [State.past, hrest]
  rw [alternatives, StateT.run_bind, hword, pure_bind]
  simp only [sequence_map_ofChar, StateT.run_bind, run_take_nil hend, pure_bind]
  rfl

/-- A word in front of a bar. What follows is read under the same flags. -/
theorem run_alternatives_of_bar (hw : ∀ c ∈ w, c ∉ signs) (hrest : s.rest = w ++ '|' :: rest)
    (hplain : '\\' ∉ s.rest) (hflags : s.flags = {}) (hbound : w.length < bound) :
    (alternatives (bound + 1) (scope.underFlags {})).run s =
      (alternatives bound ({ scope with first := false }.underFlags {})).run
        (s.past (w.length + 1)) >>= fun p ↦ pure (.ofWord w :: p.1, p.2) := by
  have hword : (sequence bound (scope.underFlags {}) []).run s =
      pure ((w.map (.ofChar {})).reverse ++ [], s.past w.length) :=
    run_sequence_word hw hrest rfl hplain rfl hbound
  have hafter : (s.past w.length).rest = '|' :: rest := by simp [State.past, hrest]
  have hbar : (take '|').run (s.past w.length) = pure (true, s.past (w.length + 1)) := by
    rw [run_take_bar hafter (State.not_mem_rest_past hplain _), State.past_past]
  have hscope : (if (scope.underFlags {}).outermost then
      (scope.underFlags {}).underFlags (s.past (w.length + 1)).flags else scope.underFlags {}) =
      scope.underFlags {} := by
    simp [State.past, hflags, Scope.underFlags]
  rw [alternatives, StateT.run_bind, hword, pure_bind]
  simp only [sequence_map_ofChar, StateT.run_bind, hbar, pure_bind, if_true, StateT.run_get, hscope]
  rfl

/-- Words with bars between them are read as these words, to the end of the pattern. -/
theorem run_alternatives (hne : words ≠ [])
    (hwords : ∀ w ∈ words, ∀ c ∈ w, c ∉ signs) (hrest : s.rest = ['|'].intercalate words)
    (hplain : '\\' ∉ s.rest) (hflags : s.flags = {}) (hbound : s.rest.length + 2 ≤ bound) :
    (alternatives bound (scope.underFlags {})).run s =
      pure (words.map .ofWord, s.past s.rest.length) := by
  induction words generalizing s scope bound with
  | nil => exact absurd rfl hne
  | cons w words ih =>
    obtain ⟨bound, rfl⟩ := Nat.exists_eq_add_one.mpr (Nat.zero_lt_of_lt hbound)
    obtain ⟨hw, hwords⟩ := List.forall_mem_cons.mp hwords
    cases words with
    | nil =>
      rw [List.intercalate_singleton] at hrest
      rw [run_alternatives_of_end hw hrest hplain (by rw [← hrest]; omega), hrest]
      rfl
    | cons w' words =>
      rw [List.intercalate_cons_cons, List.append_assoc, List.singleton_append] at hrest
      have hlength : s.rest.length = w.length + 1 + (['|'].intercalate (w' :: words)).length := by
        rw [hrest, List.length_append, List.length_cons]
        omega
      have hpast : (s.past (w.length + 1)).rest = ['|'].intercalate (w' :: words) := by
        simp [State.past, hrest]
      rw [run_alternatives_of_bar hw hrest hplain hflags (by omega),
        ih (List.cons_ne_nil _ _) hwords hpast (State.not_mem_rest_past hplain _) hflags
          (by rw [hpast]; omega), pure_bind, State.past_past, hpast, hlength]
      rfl

/-! ## Patterns -/

theorem read_intercalate (hne : words ≠ [])
    (hwords : ∀ w ∈ words, ∀ c ∈ w, c ∉ signs) :
    read (['|'].intercalate words) = .ok (.alternatives (words.map .ofWord), {}) := by
  have hsigns : ∀ c ∈ ['|'].intercalate words, c ≠ '\\' :=
    Text.Search.forall_mem_intercalate (by simp) fun w hw c hc h ↦
      hwords w hw c hc (h ▸ (by decide : '\\' ∈ signs))
  have hplain : '\\' ∉ ['|'].intercalate words := fun h ↦ hsigns _ h rfl
  have hlonely : ['|'].intercalate words ≠ ['\\'] :=
    fun h ↦ hplain (h ▸ List.mem_singleton_self _)
  have hscope : Scope.underFlags ⟨{}, false, true, true⟩ {} = ⟨{}, false, true, true⟩ := rfl
  have halternatives : (alternatives (4 * (['|'].intercalate words).length + 8)
      (Scope.underFlags ⟨{}, false, true, true⟩ {})).run
      ⟨['|'].intercalate words, 0, {}, 1, [], [], none, []⟩ = _ :=
    run_alternatives hne hwords rfl hplain rfl (by simp only; omega)
  rw [hscope] at halternatives
  simp [read, whole, checkLonely, hlonely, halternatives, State.past]
  rfl

end Reader

theorem fault?_ofWord (template : Bool) (w : List Char) :
    (Node.ofWord w).fault? template = none := by
  induction w with
  | nil => rfl
  | cons c w ih => exact ih

theorem fault?_alternatives (template : Bool) (words : List (List Char)) :
    (Node.alternatives (words.map .ofWord)).fault? template = none := by
  induction words with
  | nil => rfl
  | cons w words ih =>
    cases words with
    | nil => exact fault?_ofWord template w
    | cons w' words =>
      have hsplit : (Node.alternatives ((w :: w' :: words).map .ofWord)).fault? template =
          ((Node.ofWord w).fault? template).or
            ((Node.alternatives ((w' :: words).map .ofWord)).fault? template) := rfl
      rw [hsplit, fault?_ofWord, ih, Option.none_or]

/-- Such a text is a pattern, and its tree spells the words. -/
theorem ofText_intercalate {words : List String} (hne : words ≠ [])
    (hwords : ∀ w ∈ words, ∀ c ∈ w.toList, c ∉ Reader.signs) :
    ofText ("|".intercalate words) =
      .ok ⟨.alternatives ((words.map String.toList).map .ofWord)⟩ := by
  have hread : Reader.read ("|".intercalate words).toList =
      .ok (.alternatives ((words.map String.toList).map .ofWord), {}) := by
    rw [String.toList_intercalate]
    exact Reader.read_intercalate (by simpa using hne) (by simpa using hwords)
  rw [ofText, hread]
  simp only [fault?_alternatives]

end ReceiptRules.Pattern
