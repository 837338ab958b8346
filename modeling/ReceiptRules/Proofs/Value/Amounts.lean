import ReceiptRules.Proofs.Decimal.Reading
import ReceiptRules.Proofs.Value.Days

/-!
# Amounts that values and their texts stand for

A value that stands for no amount has a text that is read as none: the name of a truth value, of an
infinity or of an undefined number, a standard date, or a text in brackets. What such a text begins
with, or what stands behind its first digits, has no place in an amount. Floats are read by way of
their text in the first place.
-/

namespace ReceiptRules

open Text

namespace Decimal

variable {front text cs : List Char} {c : Char} {negative : Bool}

/-- Neither trimming nor filtering takes the character away, and it has no other spelling. -/
@[mk_iff]
structure Kept (c : Char) : Prop where
  notBlank : Blank.isBlank c = false
  ne_comma : c ≠ ','
  ne_underscore : c ≠ '_'
  notMem_currencyMarks : c ∉ currencyMarks
  isAscii : c.toNat < 128

instance (c : Char) : Decidable (Kept c) := decidable_of_iff _ (kept_iff c).symm

theorem isPrefix_of_mapM {α : Type} {f : α → Option α} {xs ys zs : List α}
    (hxs : ∀ x ∈ xs, f x = some x) (h : (xs ++ ys).mapM f = some zs) : xs <+: zs := by
  rw [List.mapM_append, mapM_eq_some_self hxs, Option.bind_eq_bind, Option.bind_some] at h
  obtain ⟨ys', -, h⟩ := Option.bind_eq_some_iff.mp h
  exact ⟨ys', Option.some.inj h⟩

theorem isPrefix_of_normalised? (hne : front ≠ []) (hfront : ∀ c ∈ front, Kept c)
    (h : normalised? (front ++ cs) = some text) : front <+: text := by
  have hfilter : front.filter (· != '_') = front :=
    List.filter_eq_self.mpr fun c hc ↦ bne_iff_ne.mpr (hfront c hc).ne_underscore
  rw [normalised?, Blank.trimChars_append_of_forall hne fun c hc ↦ (hfront c hc).notBlank,
    List.filter_append, hfilter] at h
  refine isPrefix_of_mapM (fun c hc ↦ ?_) h
  rw [plainCharacter?, if_pos (hfront c hc).isAscii]

/-- Characters that are kept stay in front when a text is read as an amount. -/
theorem amountOfChars?_append (hne : front ≠ []) (hfront : ∀ c ∈ front, Kept c) (cs : List Char) :
    amountOfChars? (front ++ cs) =
      (Extended.readChars? (front ++ (Blank.trimEnd cs).filter (· != ','))).bind
        Extended.finite? := by
  obtain ⟨c, rest, rfl⟩ := List.exists_cons_of_ne_nil hne
  have hmark := (hfront c List.mem_cons_self).notMem_currencyMarks
  rw [amountOfChars?, Blank.trimChars_append_of_forall hne fun c hc ↦ (hfront c hc).notBlank,
    List.filter_append, List.filter_eq_self.mpr fun c hc ↦ bne_iff_ne.mpr (hfront c hc).ne_comma,
    List.cons_append, dropCurrency, if_neg (by simpa using hmark)]

/-- A text of such characters is read as an amount like a decimal. -/
theorem amountOfChars?_of_forall (hne : cs ≠ []) (h : ∀ c ∈ cs, Kept c) :
    amountOfChars? cs = (Extended.readChars? cs).bind Extended.finite? := by
  have hread := amountOfChars?_append hne h []
  rwa [List.append_nil, Blank.trimEnd, List.reverse_nil, List.dropWhile_nil, List.reverse_nil,
    List.filter_nil, List.append_nil] at hread

/-! ## Texts that are no amounts -/

/-- Behind digits there may only be a point or an exponent. -/
theorem unsigned?_append_eq_none (hfront : ∀ c ∈ front, c.isDigit = true)
    (hdigit : c.isDigit = false) (hpoint : c ≠ '.') (hexponent : c.toLower ≠ 'e') (cs : List Char) :
    unsigned? negative (front ++ c :: cs) = none := by
  have hhead : ∀ x ∈ (c :: cs).head?, x.isDigit = false := by
    rintro _ ⟨⟩
    exact hdigit
  have htake : (front ++ c :: cs).takeWhile isPlainDigit = front :=
    Digit.takeWhile_isDigit hfront hhead
  have hdrop : (front ++ c :: cs).dropWhile isPlainDigit = c :: cs :=
    Digit.dropWhile_isDigit hfront hhead
  have hsplit : fractionOf (c :: cs) = ([], c :: cs) := by
    rw [fractionOf]
    exact fun _ hcs ↦ hpoint (List.cons.inj hcs).1
  simp [unsigned?_eq, htake, hdrop, hsplit, exponent?, hexponent]

/-- Characters that no amount begins with, its sign apart. -/
def strangers : List Char := ['N', 'T', 'F', 'I', 's', 'i', 'n', '[', '\x7b']

theorem amountOfChars?_of_stranger (hc : c ∈ strangers) (negative : Bool) (cs : List Char) :
    amountOfChars? (signText negative ++ c :: cs) = none := by
  have hstrangers : ∀ c ∈ strangers, Kept c ∧ c.isDigit = false ∧ c ≠ '.' ∧ c.toLower ≠ 'e' ∧
      c ≠ '-' ∧ c ≠ '+' := List.all_iff_forall_prop.mp (by decide)
  obtain ⟨hkept, hdigit, hpoint, hexponent, hminus, hplus⟩ := hstrangers c hc
  have hfront : ∀ x ∈ signText negative ++ [c], Kept x := by
    cases negative with
    | true => simp [signText, hkept, (by decide : Kept '-')]
    | false => simp [signText, hkept]
  have hne : signText negative ++ [c] ≠ [] := by simp
  rw [← List.singleton_append, ← List.append_assoc, amountOfChars?_append hne hfront,
    finite?_readChars?, Option.bind_eq_none_iff]
  intro text htext
  obtain ⟨more, rfl⟩ := isPrefix_of_normalised? hne hfront htext
  have hsign : splitSign (signText negative ++ [c] ++ more) = (negative, c :: more) := by
    cases negative with
    | true => rfl
    | false => exact splitSign_cons hminus hplus more
  have hnone : unsigned? negative ([] ++ c :: more) = none :=
    unsigned?_append_eq_none (List.forall_mem_nil _) hdigit hpoint hexponent more
  rw [hsign]
  exact hnone

theorem kept_of_subset (h : cs ⊆ plainCharacters) : ∀ c ∈ cs, Kept c := by
  have hall : ∀ c ∈ plainCharacters, Kept c := List.all_iff_forall_prop.mp (by decide)
  exact fun c hc ↦ hall c (h hc)

theorem padded_subset (width n : Nat) : Digit.padded width n ⊆ plainCharacters := by
  rw [Digit.padded_eq_map_filled]
  exact map_char_subset fun _ hx ↦ Digit.lt_ten_of_mem_filled hx

theorem text_subset (n : Nat) : Digit.text n ⊆ plainCharacters :=
  map_char_subset fun _ hx ↦ Digit.lt_ten_of_mem_digits hx

/-- The standard text of a date is no amount. -/
theorem amountOfChars?_isoChars (d : Date) : amountOfChars? d.isoChars = none := by
  have hsubset : d.isoChars ⊆ plainCharacters := by
    simp only [Date.isoChars, List.append_subset, List.cons_subset]
    exact ⟨⟨padded_subset 4 d.year, by decide, padded_subset 2 d.month⟩, by decide,
      padded_subset 2 d.day⟩
  obtain ⟨x, rest, hyear⟩ := List.exists_cons_of_ne_nil (Digit.padded_ne_nil 4 d.year)
  have hdigits : ∀ c ∈ Digit.padded 4 d.year, c.isDigit = true := by
    rw [Digit.padded_eq_map_filled]
    exact Digit.isDigit_of_mem_map_char fun _ ↦ Digit.lt_ten_of_mem_filled
  have hsign : splitSign d.isoChars = (false, d.isoChars) := by
    have hx : x.isDigit = true := hdigits x (by rw [hyear]; exact List.mem_cons_self)
    rw [Date.isoChars, hyear]
    refine splitSign_cons ?_ ?_ _ <;>
    · rintro rfl
      cases hx
  have hne : d.isoChars ≠ [] := by rw [Date.isoChars, hyear]; exact List.cons_ne_nil _ _
  rw [amountOfChars?_of_forall hne (kept_of_subset hsubset), finite?_readChars?,
    normalised?_of_subset hsubset, Option.bind_some, hsign, Date.isoChars, List.append_assoc,
    List.cons_append]
  exact unsigned?_append_eq_none hdigits rfl (by decide) (by decide) _

end Decimal

namespace Binary64

open Decimal

theorem kept_marks : ∀ c ∈ ['0', '.', 'e', '-', '+'], Kept c :=
  List.all_iff_forall_prop.mp (by decide)

theorem kept_withExponent {digits : List Char} (h : ∀ c ∈ digits, Kept c) (power : Int) :
    ∀ c ∈ withExponent digits power, Kept c := by
  have hpower := kept_of_subset (padded_subset 2 power.natAbs)
  simp only [withExponent, List.forall_mem_append, List.forall_mem_cons]
  refine ⟨?_, kept_marks 'e' (by decide), ?_, hpower⟩
  · split
    · next first second rest =>
      simp only [List.forall_mem_cons] at h ⊢
      exact ⟨h.1, kept_marks '.' (by decide), h.2⟩
    · exact h
  · split
    · exact kept_marks '-' (by decide)
    · exact kept_marks '+' (by decide)

theorem kept_finiteText (m : Nat) (q : Int) : ∀ c ∈ finiteText m q, Kept c := by
  have hzeros (n : Nat) : ∀ c ∈ List.replicate n '0', Kept c := by
    intro c hc
    rw [(List.mem_replicate.mp hc).2]
    exact kept_marks '0' (by decide)
  have hzero := kept_marks '0' (by decide)
  have hpoint := kept_marks '.' (by decide)
  unfold finiteText
  split
  · exact List.all_iff_forall_prop.mp (by decide)
  · generalize shortestDigits m q = found
    obtain ⟨n, e⟩ := found
    dsimp only
    have hdigits : ∀ c ∈ ((Digit.text n).reverse.dropWhile (· == '0')).reverse, Kept c := by
      intro c hc
      have hmem := (List.dropWhile_sublist _).subset (List.mem_reverse.mp hc)
      exact kept_of_subset (text_subset n) c (List.mem_reverse.mp hmem)
    generalize ((Digit.text n).reverse.dropWhile (· == '0')).reverse = digits at hdigits
    split
    · exact kept_withExponent hdigits _
    · split
      · simp only [List.cons_append, List.forall_mem_append, List.forall_mem_cons]
        exact ⟨hzero, hpoint, hzeros _, hdigits⟩
      · split
        · simp only [List.forall_mem_append, List.forall_mem_cons]
          exact ⟨⟨hdigits, hzeros _⟩, hpoint, hzero, List.forall_mem_nil _⟩
        · simp only [List.forall_mem_append, List.forall_mem_cons]
          exact ⟨fun c hc ↦ hdigits c (List.mem_of_mem_take hc), hpoint,
            fun c hc ↦ hdigits c (List.mem_of_mem_drop hc)⟩

theorem kept_text (x : Binary64) : ∀ c ∈ x.text.toList, Kept c := by
  cases x with
  | finite negative m q =>
    rw [text, String.toList_ofList, List.forall_mem_append]
    refine ⟨?_, kept_finiteText m q⟩
    cases negative <;> exact List.all_iff_forall_prop.mp (by decide)
  | infinite negative => cases negative <;> exact List.all_iff_forall_prop.mp (by decide)
  | undefined => exact List.all_iff_forall_prop.mp (by decide)

theorem text_ne_nil (x : Binary64) : x.text.toList ≠ [] := by
  obtain ⟨c, hc, -⟩ := x.exists_mem_text
  exact List.ne_nil_of_mem hc

/-- The text of a float is read as an amount like the float itself. -/
theorem amountOfText?_text (x : Binary64) :
    amountOfText? x.text = (Extended.read? x.text).bind Extended.finite? :=
  amountOfChars?_of_forall (text_ne_nil x) (kept_text x)

end Binary64

namespace Value

open Decimal

theorem amountOfText?_special {d : Extended} (h : d.finite? = none) :
    amountOfText? d.plain = none := by
  cases d with
  | finite d => cases h
  | infinite negative =>
    have htext : (Extended.infinite negative).plain.toList =
        signText negative ++ 'I' :: "nfinity".toList := String.toList_ofList
    rw [amountOfText?, htext]
    exact amountOfChars?_of_stranger (by decide) negative _
  | undefined negative signalling payload =>
    have htext : (Extended.undefined negative signalling payload).plain.toList =
        signText negative ++ (if signalling then ['s'] else []) ++ "NaN".toList ++
          payload.map Digit.char := String.toList_ofList
    rw [amountOfText?, htext, List.append_assoc, List.append_assoc]
    cases signalling with
    | true => exact amountOfChars?_of_stranger (by decide : 's' ∈ strangers) negative _
    | false => exact amountOfChars?_of_stranger (by decide : 'N' ∈ strangers) negative _

/-- The text of a value that stands for no amount stands for none either. -/
theorem amountOfText?_asText {v : Value} (h : v.amount? = none) :
    amountOfText? v.asText = none := by
  have hdate (d : Date) : amountOfText? d.iso = none := by
    rw [amountOfText?, Date.iso, String.toList_ofList, amountOfChars?_isoChars]
  have hbracket {c : Char} (hc : c ∈ strangers) {s : String} (rest : List Char)
      (hs : s.toList = c :: rest) : amountOfText? s = none := by
    rw [amountOfText?, hs]
    exact amountOfChars?_of_stranger hc false rest
  cases v with
  | null => decide +kernel
  | bool b => cases b <;> decide +kernel
  | int n => cases h
  | float x => exact x.amountOfText?_text.trans h
  | decimal d => exact amountOfText?_special h
  | text s => exact h
  | receiptType name => exact h
  | date d => exact hdate d
  | timestamp t => exact hdate t.date
  | list items =>
    have htext : (list items).asText.toList =
        '[' :: ((commaSeparated (shownItems items)).toList ++ [']']) := by
      simp [asText_list, toString]
    exact hbracket (by decide) _ htext
  | object entries =>
    have htext : (object entries).asText.toList =
        '\x7b' :: ((commaSeparated (shownEntries entries)).toList ++ ['\x7d']) := by
      simp [asText_object]
    exact hbracket (by decide) _ htext

end Value

end ReceiptRules
