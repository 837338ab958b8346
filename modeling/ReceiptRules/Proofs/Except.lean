import Mathlib.Data.List.Forall2

/-!
# Results that may fail

When a chain of steps that may fail succeeds, so does each step of it, and when it fails, then by
the failure of one step behind steps that succeed. The statements about the library open its chains
of steps with these equivalences alone. A pass through a list likewise stops at one item behind items
that it gets by.
-/

namespace Except

variable {ε α β : Type}

theorem bind_eq_ok_iff {x : Except ε α} {f : α → Except ε β} {b : β} :
    x >>= f = .ok b ↔ ∃ a, x = .ok a ∧ f a = .ok b := by
  cases x <;> simp [bind, Except.bind]

theorem bind_eq_error_iff {x : Except ε α} {f : α → Except ε β} {e : ε} :
    x >>= f = .error e ↔ x = .error e ∨ ∃ a, x = .ok a ∧ f a = .error e := by
  cases x <;> simp [bind, Except.bind]

theorem map_eq_ok_iff {x : Except ε α} {f : α → β} {b : β} :
    x.map f = .ok b ↔ ∃ a, x = .ok a ∧ f a = b := by
  cases x <;> simp [Except.map]

theorem map_eq_error_iff {x : Except ε α} {f : α → β} {e : ε} :
    x.map f = .error e ↔ x = .error e := by
  cases x <;> simp [Except.map]

theorem mapM_eq_ok_iff {f : α → Except ε β} {xs : List α} {ys : List β} :
    xs.mapM f = .ok ys ↔ List.Forall₂ (fun x y ↦ f x = .ok y) xs ys := by
  induction xs generalizing ys with
  | nil => cases ys <;> simp [pure, Except.pure]
  | cons x rest ih =>
    rw [List.mapM_cons, bind_eq_ok_iff, List.forall₂_cons_left_iff]
    constructor
    · rintro ⟨y, hy, h⟩
      obtain ⟨others, hothers, h⟩ := bind_eq_ok_iff.mp h
      exact ⟨y, others, hy, ih.mp hothers, (Except.ok.inj h).symm⟩
    · rintro ⟨y, others, hy, hothers, rfl⟩
      exact ⟨y, hy, bind_eq_ok_iff.mpr ⟨others, ih.mpr hothers, rfl⟩⟩

end Except

namespace List

variable {α : Type} {passes stops : α → Prop}

/-- An item of the list stops a pass through it, and the pass gets by all items before it. -/
def Halts (passes stops : α → Prop) (xs : List α) : Prop :=
  ∃ front x back, xs = front ++ x :: back ∧ (∀ y ∈ front, passes y) ∧ stops x

theorem not_halts_nil : ¬ Halts passes stops [] := by
  rintro ⟨front, x, back, h, -⟩
  cases front <;> cases h

theorem halts_cons_iff {x : α} {rest : List α} :
    Halts passes stops (x :: rest) ↔ stops x ∨ passes x ∧ Halts passes stops rest := by
  constructor
  · rintro ⟨_ | ⟨first, front⟩, y, back, hsplit, hfront, hstops⟩
    · cases hsplit
      exact .inl hstops
    · cases hsplit
      obtain ⟨hfirst, hfront⟩ := forall_mem_cons.mp hfront
      exact .inr ⟨hfirst, front, y, back, rfl, hfront, hstops⟩
  · rintro (hstops | ⟨hpasses, front, y, back, rfl, hfront, hstops⟩)
    · exact ⟨[], x, rest, rfl, by simp, hstops⟩
    · exact ⟨x :: front, y, back, rfl, forall_mem_cons.mpr ⟨hpasses, hfront⟩, hstops⟩

end List
