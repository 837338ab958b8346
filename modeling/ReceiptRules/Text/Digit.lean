import ReceiptRules.Text.Search

/-!
# Decimal digits and whole numbers

Decimal digits of every script: each script's ten digits stand in a row, so the table lists the zeros
alone. A whole number is written with an optional sign and digits of any script; single underscores
may stand between digits and blanks around the number. Texts of more digits than the limit are refused
apart from texts that are no numbers, and numbers beyond it have no text.
-/

namespace ReceiptRules.Text.Digit

/-- The digit zero of each script of Unicode 14. -/
def zeros : List Nat := [
  48, 1632, 1776, 1984, 2406, 2534, 2662, 2790, 2918, 3046, 3174, 3302, 3430, 3558, 3664, 3792,
  3872, 4160, 4240, 6112, 6160, 6470, 6608, 6784, 6800, 6992, 7088, 7232, 7248, 42528, 43216,
  43264, 43472, 43504, 43600, 44016, 65296, 66720, 68912, 69734, 69872, 69942, 70096, 70384,
  70736, 70864, 71248, 71360, 71472, 71904, 72016, 72784, 73040, 73120, 92768, 92864, 93008,
  120782, 120792, 120802, 120812, 120822, 123200, 123632, 125264, 130032]

/-- The value of a decimal digit of any script. -/
def value? (c : Char) : Option Nat :=
  (zeros.find? fun start ↦ start ≤ c.toNat && c.toNat < start + 10).map fun start ↦ c.toNat - start

def isDigit (c : Char) : Bool := (value? c).isSome

/-- The number that a row of digits writes in base ten, most significant digit first. -/
def number (digits : List Nat) : Nat := digits.foldl (fun n d ↦ 10 * n + d) 0

/-- The digit character of a value below ten. -/
def char (d : Nat) : Char := Char.ofNat ('0'.toNat + d)

/-- Base-ten digits of a number, most significant first; zero has one digit. -/
def digits (n : Nat) : List Nat :=
  if n < 10 then [n] else digits (n / 10) ++ [n % 10]
termination_by n

/-- Base-ten text of a number. -/
def text (n : Nat) : List Char := (digits n).map char

/-- Base-ten text of a number, filled with zeros on the left to at least the given width. -/
def padded (width n : Nat) : List Char :=
  List.replicate (width - (text n).length) '0' ++ text n

theorem digits_of_lt {n : Nat} (h : n < 10) : digits n = [n] := by
  rw [digits, if_pos h]

theorem digits_of_ge {n : Nat} (h : 10 ≤ n) : digits n = digits (n / 10) ++ [n % 10] := by
  rw [digits, if_neg (Nat.not_lt.mpr h)]

@[simp] theorem number_nil : number [] = 0 := rfl

theorem number_append_singleton (ds : List Nat) (d : Nat) :
    number (ds ++ [d]) = 10 * number ds + d := by
  simp [number, List.foldl_append]

theorem number_digits (n : Nat) : number (digits n) = n := by
  induction n using Nat.strongRecOn with
  | ind n ih =>
    rcases Nat.lt_or_ge n 10 with h | h
    · simp [digits_of_lt h, number]
    · rw [digits_of_ge h, number_append_singleton, ih (n / 10) (by omega)]
      omega

theorem lt_ten_of_mem_digits {n d : Nat} (h : d ∈ digits n) : d < 10 := by
  induction n using Nat.strongRecOn with
  | ind n ih =>
    rcases Nat.lt_or_ge n 10 with hn | hn
    · simp [digits_of_lt hn] at h
      omega
    · rw [digits_of_ge hn, List.mem_append] at h
      rcases h with h | h
      · exact ih (n / 10) (by omega) h
      · simp at h
        omega

end ReceiptRules.Text.Digit

/-! ## Whole numbers in text -/

namespace ReceiptRules.Text.WholeNumber

def digitLimit : Nat := 4300

inductive Fault where
  | notANumber
  | tooManyDigits (digits : Nat)
deriving DecidableEq, Repr

/-- The digits of a text in which single underscores may stand between digits. -/
def digits? : List Char → Option (List Nat)
  | [] => none
  | [c] => (Digit.value? c).map fun d ↦ [d]
  | c :: '_' :: rest => do return (← Digit.value? c) :: (← digits? rest)
  | c :: rest => do return (← Digit.value? c) :: (← digits? rest)

def splitSign : List Char → Bool × List Char
  | '-' :: rest => (true, rest)
  | '+' :: rest => (false, rest)
  | cs => (false, cs)

def read (s : String) : Except Fault Int :=
  let (negative, body) := splitSign (Blank.trimChars s.toList)
  match digits? body with
  | none => .error .notANumber
  | some ds =>
    if ds.length > digitLimit then .error (.tooManyDigits ds.length)
    else
      let n : Int := Digit.number ds
      .ok (if negative then -n else n)

/-- Whether a number is small enough to be written. -/
def writable (n : Int) : Bool := n.natAbs < Nat.pow 10 digitLimit

def tooLongToRead (digits : Nat) : String :=
  s!"Exceeds the limit ({digitLimit} digits) for integer string conversion: value has {digits}" ++
    " digits; use sys.set_int_max_str_digits() to increase the limit"

def tooLongToWrite : String :=
  s!"Exceeds the limit ({digitLimit} digits) for integer string conversion; " ++
    "use sys.set_int_max_str_digits() to increase the limit"

end ReceiptRules.Text.WholeNumber
