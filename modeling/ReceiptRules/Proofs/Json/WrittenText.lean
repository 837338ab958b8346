import Mathlib.Tactic.SplitIfs
import ReceiptRules.Json.Reader
import ReceiptRules.Json.Writer

/-!
# Reading written texts

Every text is read back from its written form, whether all characters outside the printable first 128
are escaped or only those that have to be. Characters beyond the first 65536 are written as two
escapes and read as one character again.
-/

namespace ReceiptRules.Json

open Text

/-! ## Escapes of units -/

theorem hexValue?_hexDigit {d : Nat} (h : d < 16) : hexValue? (Quoted.hexDigit d) = some d := by
  have hall : ∀ d < 16, hexValue? (Quoted.hexDigit d) = some d := by decide
  exact hall d h

theorem hex_four (n : Nat) :
    Quoted.hex 4 n = [Quoted.hexDigit (n / 4096 % 16), Quoted.hexDigit (n / 256 % 16),
      Quoted.hexDigit (n / 16 % 16), Quoted.hexDigit (n % 16)] := by
  simp only [Quoted.hex, Nat.div_div_eq_div_mul, List.nil_append, List.cons_append]

theorem unit?_hex {n : Nat} (h : n < 0x10000) :
    unit? (Quoted.hexDigit (n / 4096 % 16)) (Quoted.hexDigit (n / 256 % 16))
      (Quoted.hexDigit (n / 16 % 16)) (Quoted.hexDigit (n % 16)) = some n := by
  simp only [unit?, hexValue?_hexDigit (Nat.mod_lt _ (by decide : 16 > 0)), Option.bind_eq_bind,
    Option.bind_some, Option.pure_def, Option.some.injEq]
  omega

/-! ## Single steps of the reader -/

variable (opening : Nat)

/-- An escaped unit that is no high half stands for itself, even if another escape follows. -/
theorem textBody_unit {a b c d : Char} {n : Nat} (hunit : unit? a b c d = some n)
    (hhigh : isHighHalf n = false) (next : Char) (rest : List Char) :
    textBody opening ('\\' :: 'u' :: a :: b :: c :: d :: next :: rest) =
      prepend (ofUnit n) (textBody opening (next :: rest)) := by
  by_cases hescape : ∃ e f g h next' rest',
      next :: rest = '\\' :: 'u' :: e :: f :: g :: h :: next' :: rest'
  · obtain ⟨e, f, g, h, next', rest', heq⟩ := hescape
    rw [heq, textBody, hunit]
    cases lowHalf? e f g h with
    | none => rfl
    | some low => simp only [hhigh, Bool.false_eq_true, if_false]
  · rw [textBody, hunit]
    rintro e f g h next' rest' rfl rfl
    exact hescape ⟨e, f, g, h, next', rest', rfl⟩

theorem textBody_pair {a b c d e f g h : Char} {high low : Nat} (hhigh : unit? a b c d = some high)
    (hlow : unit? e f g h = some low) (hishigh : isHighHalf high = true)
    (hislow : isLowHalf low = true) (next : Char) (rest : List Char) :
    textBody opening
        ('\\' :: 'u' :: a :: b :: c :: d :: '\\' :: 'u' :: e :: f :: g :: h :: next :: rest) =
      prepend (joinHalves high low) (textBody opening (next :: rest)) := by
  have hlowHalf : lowHalf? e f g h = some low := by simp [lowHalf?, hlow, hislow]
  rw [textBody, hhigh, hlowHalf]
  simp only [hishigh, if_true]

theorem textBody_simple {e c : Char} (h : simpleEscape? e = some c) (rest : List Char) :
    textBody opening ('\\' :: e :: rest) = prepend c (textBody opening rest) := by
  have hne : e ≠ 'u' := by
    rintro rfl
    cases h
  rw [textBody, h] <;> simp [hne]

theorem textBody_plain {c : Char} (hquote : c ≠ '"') (hslash : c ≠ '\\') (hc : 0x20 ≤ c.toNat)
    (rest : List Char) : textBody opening (c :: rest) = prepend c (textBody opening rest) := by
  rw [textBody, if_neg (Nat.not_lt.mpr hc)] <;> simp [hquote, hslash]

/-! ## Characters -/

theorem isHighHalf_toNat (c : Char) : isHighHalf c.toNat = false := by
  have hvalid : c.toNat < 0xd800 ∨ 0xdfff < c.toNat ∧ c.toNat < 0x110000 := c.valid
  simp only [isHighHalf, Bool.and_eq_false_iff, decide_eq_false_iff_not]
  omega

theorem ofUnit_toNat (c : Char) : ofUnit c.toNat = c := by
  have hvalid : c.toNat < 0xd800 ∨ 0xdfff < c.toNat ∧ c.toNat < 0x110000 := c.valid
  rw [ofUnit, if_neg (by simp; omega), Char.ofNat_toNat]

/-- The halves of a character beyond the first 65536 units, and what they join to. -/
theorem halves {c : Char} (h : ¬ c.toNat < 0x10000) {high low : Nat}
    (hhigh : high = 0xd800 + (c.toNat - 0x10000) / 1024)
    (hlow : low = 0xdc00 + (c.toNat - 0x10000) % 1024) :
    (high < 0x10000 ∧ isHighHalf high = true) ∧ (low < 0x10000 ∧ isLowHalf low = true) ∧
      joinHalves high low = c := by
  have hvalid : c.toNat < 0xd800 ∨ 0xdfff < c.toNat ∧ c.toNat < 0x110000 := c.valid
  refine ⟨⟨by omega, ?_⟩, ⟨by omega, ?_⟩, ?_⟩
  · simp only [isHighHalf, Bool.and_eq_true, decide_eq_true_eq]
    omega
  · simp only [isLowHalf, Bool.and_eq_true, decide_eq_true_eq]
    omega
  · rw [joinHalves, show 0x10000 + 1024 * (high - 0xd800) + (low - 0xdc00) = c.toNat by omega,
      Char.ofNat_toNat]

theorem textBody_unitEscapes (c next : Char) (rest : List Char) :
    textBody opening (unitEscapes c ++ next :: rest) =
      prepend c (textBody opening (next :: rest)) := by
  simp only [unitEscapes, unitEscape, hex_four]
  by_cases h : c.toNat < 0x10000
  · rw [if_pos h]
    simp only [List.cons_append, List.nil_append]
    rw [textBody_unit opening (unit?_hex h) (isHighHalf_toNat c), ofUnit_toNat]
  · rw [if_neg h]
    obtain ⟨⟨hhigh, hishigh⟩, ⟨hlow, hislow⟩, hjoin⟩ := halves h rfl rfl
    simp only [List.cons_append, List.nil_append]
    rw [textBody_pair opening (unit?_hex hhigh) (unit?_hex hlow) hishigh hislow, hjoin]

/-- The three ways to write a character inside a text. -/
inductive Written (c : Char) : List Char → Prop
  | simple {e : Char} (h : simpleEscape? e = some c) : Written c ['\\', e]
  | units : Written c (unitEscapes c)
  | plain (hquote : c ≠ '"') (hslash : c ≠ '\\') (hcontrol : 0x20 ≤ c.toNat) : Written c [c]

theorem written_escapeChar (all : Bool) (c : Char) : Written c (escapeChar all c) := by
  simp only [escapeChar, beq_iff_eq]
  split_ifs with h₁ h₂ h₃ h₄ h₅ h₆ h₇ h₈
  · exact .simple (by rw [h₁]; rfl)
  · exact .simple (by rw [h₂]; rfl)
  · exact .simple (by rw [h₃]; rfl)
  · exact .simple (by rw [h₄]; rfl)
  · exact .simple (by rw [h₅]; rfl)
  · exact .simple (by rw [h₆]; rfl)
  · exact .simple (by rw [h₇]; rfl)
  · exact .units
  · simp only [Bool.or_eq_true, decide_eq_true_eq, not_or] at h₈
    exact .plain h₁ h₂ (Nat.not_lt.mp h₈.1)

theorem textBody_escapeChar (all : Bool) (c next : Char) (rest : List Char) :
    textBody opening (escapeChar all c ++ next :: rest) =
      prepend c (textBody opening (next :: rest)) := by
  have hwritten := written_escapeChar all c
  generalize escapeChar all c = cs at *
  cases hwritten with
  | simple h => exact textBody_simple opening h _
  | units => exact textBody_unitEscapes opening c next rest
  | plain hquote hslash hcontrol => exact textBody_plain opening hquote hslash hcontrol _

/-! ## Texts -/

/-- A written text, behind its opening quote and before whatever follows. -/
theorem textBody_flatMap_escapeChar (all : Bool) (cs rest : List Char) :
    textBody opening (cs.flatMap (escapeChar all) ++ '"' :: rest) = .ok (cs, rest) := by
  induction cs with
  | nil => rw [List.flatMap_nil, List.nil_append, textBody]
  | cons c cs ih =>
    -- The reader looks one character ahead, so what follows has to be known not to be empty.
    obtain ⟨next, tail, htail⟩ : ∃ next tail,
        cs.flatMap (escapeChar all) ++ '"' :: rest = next :: tail := by
      cases cs.flatMap (escapeChar all) with
      | nil => exact ⟨_, _, rfl⟩
      | cons d ds => exact ⟨_, _, rfl⟩
    calc textBody opening ((c :: cs).flatMap (escapeChar all) ++ '"' :: rest)
        = textBody opening (escapeChar all c ++ next :: tail) := by
          rw [List.flatMap_cons, List.append_assoc, htail]
      _ = prepend c (textBody opening (next :: tail)) := textBody_escapeChar opening all c next tail
      _ = prepend c (.ok (cs, rest)) := by rw [← htail, ih]
      _ = .ok (c :: cs, rest) := rfl

end ReceiptRules.Json
