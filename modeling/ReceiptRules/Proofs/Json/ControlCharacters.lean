import ReceiptRules.Proofs.Json.RoundTrip
import ReceiptRules.Proofs.Text.Pieces

/-!
# Control characters in written values

What is written for a value holds no control characters but the line feeds of the indentation, so it
is not changed where line ends of all kinds become line feeds.
-/

namespace ReceiptRules.Json

open Text

/-- Characters that reading a file leaves alone. -/
def Kept (c : Char) : Prop := c = '\n' ∨ 0x20 ≤ c.toNat

instance (c : Char) : Decidable (Kept c) := inferInstanceAs (Decidable (_ ∨ _))

theorem kept_of_all {cs : List Char} (h : cs.all (fun c ↦ decide (Kept c)) = true) :
    ∀ c ∈ cs, Kept c := fun c hc ↦ of_decide_eq_true (List.all_eq_true.mp h c hc)

/-! ## Texts -/

theorem kept_hexDigit {d : Nat} (h : d < 16) : Kept (Quoted.hexDigit d) := by
  have hall : ∀ d < 16, Kept (Quoted.hexDigit d) := by decide
  exact hall d h

theorem kept_unitEscape (n : Nat) : ∀ c ∈ unitEscape n, Kept c := by
  have hdigit (m : Nat) : Kept (Quoted.hexDigit (m % 16)) := kept_hexDigit (Nat.mod_lt m (by decide))
  simp only [unitEscape, hex_four, List.forall_mem_cons]
  exact ⟨by decide, by decide, hdigit _, hdigit _, hdigit _, hdigit _, by simp⟩

theorem kept_of_simpleEscape? {e c : Char} (h : simpleEscape? e = some c) : Kept e := by
  unfold simpleEscape? at h
  split at h
  -- All cases but the last name the character.
  any_goals decide
  cases h

theorem kept_escapeChar (all : Bool) (c : Char) : ∀ d ∈ escapeChar all c, Kept d := by
  have hwritten := written_escapeChar all c
  generalize escapeChar all c = cs at *
  cases hwritten with
  | @simple e h =>
    simp only [List.forall_mem_cons]
    exact ⟨by decide, kept_of_simpleEscape? h, by simp⟩
  | units =>
    rw [unitEscapes]
    split
    · exact kept_unitEscape _
    · intro d hd
      rcases List.mem_append.mp hd with hd | hd
      · exact kept_unitEscape _ d hd
      · exact kept_unitEscape _ d hd
  | plain hquote hslash hcontrol => exact List.forall_mem_singleton.mpr (.inr hcontrol)

theorem kept_textChars (all : Bool) (s : String) : ∀ c ∈ textChars all s, Kept c := by
  simp only [textChars, List.cons_append, List.forall_mem_cons, List.forall_mem_append,
    List.forall_mem_flatMap]
  exact ⟨by decide, fun c _ ↦ kept_escapeChar all c, by decide, by simp⟩

/-! ## Values -/

theorem kept_intText (n : Int) : ∀ c ∈ (Value.intText n).toList, Kept c := by
  intro c hc
  rw [toList_intText] at hc
  rcases List.mem_append.mp hc with hc | hc
  · split at hc
    · rw [List.mem_singleton.mp hc]
      decide
    · cases hc
  · have hdigit := isDigit_of_mem_text hc
    simp only [Char.isDigit, Bool.and_eq_true, decide_eq_true_eq] at hdigit
    have hlow : 48 ≤ c.toNat := hdigit.1
    exact .inr (by omega)

theorem IsGap.kept {gap : List Char} (h : IsGap gap) : ∀ c ∈ gap, Kept c := by
  intro c hc
  rcases h c hc with rfl | rfl <;> decide

theorem kept_bracketed (style : Style) (level : Nat) {opening closing : Char}
    (hopening : Kept opening) (hclosing : Kept closing) {texts : List (List Char)}
    (h : ∀ text ∈ texts, ∀ c ∈ text, Kept c) :
    ∀ c ∈ bracketed style level opening closing texts, Kept c := by
  by_cases hne : texts = []
  · subst hne
    simp only [bracketed, List.isEmpty_nil, if_true, List.forall_mem_cons]
    exact ⟨hopening, hclosing, by simp⟩
  · obtain ⟨gap, gap', gap'', hgap, hgap', hgap'', heq⟩ :=
      bracketed_eq style level opening closing hne
    have hseparator : ∀ c ∈ ',' :: gap', Kept c :=
      List.forall_mem_cons.mpr ⟨by decide, hgap'.kept⟩
    rw [heq]
    simp only [List.forall_mem_cons, List.forall_mem_append]
    exact ⟨hopening, hgap.kept, Search.forall_mem_intercalate hseparator h, hgap''.kept, hclosing, by simp⟩

theorem Plain.kept {v : Value} (h : Plain v) (style : Style) (level : Nat) :
    ∀ c ∈ chars style level v, Kept c := by
  induction h generalizing level with
  | null =>
    rw [chars]
    exact kept_of_all (by decide)
  | bool b => cases b <;> rw [chars] <;> exact kept_of_all (by decide)
  | int n => exact kept_intText n
  | text s => exact kept_textChars style.escapeAll s
  | list items h ih =>
    rw [chars, itemChars_eq_map]
    apply kept_bracketed style level (by decide) (by decide)
    rw [List.forall_mem_map]
    exact fun v hv ↦ ih v hv (level + 1)
  | object entries hkeys h ih =>
    rw [chars, entryChars_eq_map]
    apply kept_bracketed style level (by decide) (by decide)
    rw [List.forall_mem_map]
    intro entry hentry
    simp only [keyChars, List.forall_mem_append]
    exact ⟨⟨kept_textChars _ _, kept_of_all (by decide)⟩, ih entry hentry (level + 1)⟩

end ReceiptRules.Json
