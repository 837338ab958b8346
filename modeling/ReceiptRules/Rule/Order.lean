import ReceiptRules.Rule

/-!
# Evaluation order

Rules are put in order by priority, highest first, then by sequence, lowest first; rules that agree
in both keep the order of the list.
-/

namespace ReceiptRules.Rule

/-- Whether the first rule may come before the second one. -/
def mayPrecede (a b : Rule) : Bool :=
  b.priority < a.priority || (a.priority == b.priority && a.sequence ≤ b.sequence)

/-- Puts a rule into an ordered list, in front of the rules that it ties with. -/
def place (r : Rule) : List Rule → List Rule
  | [] => [r]
  | x :: rest => if mayPrecede r x then r :: x :: rest else x :: place r rest

/-- The rules in evaluation order. -/
def ordered (rules : List Rule) : List Rule := rules.foldr place []

@[simp] theorem ordered_nil : ordered [] = [] := rfl

@[simp] theorem ordered_cons (r : Rule) (rules : List Rule) :
    ordered (r :: rules) = place r (ordered rules) := rfl

theorem place_perm (r : Rule) (rules : List Rule) : (place r rules).Perm (r :: rules) := by
  induction rules with
  | nil => exact .refl _
  | cons x rest ih =>
    simp only [place]
    split
    · exact .refl _
    · exact (ih.cons x).trans (.swap r x rest)

theorem ordered_perm (rules : List Rule) : (ordered rules).Perm rules := by
  induction rules with
  | nil => exact .refl _
  | cons r rest ih => exact (place_perm r _).trans (ih.cons r)

@[simp] theorem mem_ordered {r : Rule} {rules : List Rule} : r ∈ ordered rules ↔ r ∈ rules :=
  (ordered_perm rules).mem_iff

end ReceiptRules.Rule
