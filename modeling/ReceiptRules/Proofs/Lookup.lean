/-!
# Looking up keys

Looking up a key in a list of entries, by equality of keys. Whatever places a value under a key by
going through the entries up to the key, and behind the last one where there is none, changes what is
found under that key and nothing else.
-/

namespace List

variable {α β : Type} [DecidableEq α]

theorem lookup_cons_ite (key k : α) (v : β) (rest : List (α × β)) :
    lookup key ((k, v) :: rest) = if key = k then some v else lookup key rest := by
  rw [lookup_cons]
  by_cases h : key = k
  · simp [h]
  · simp [beq_eq_false_iff_ne.mpr h, h]

/-- The hypotheses are the equations of a function that places a value under a key. -/
theorem lookup_place (place : List (α × β) → List (α × β)) {key : α} {value : β}
    (hnil : place [] = [(key, value)])
    (hcons : ∀ k v rest, place ((k, v) :: rest) =
      if k = key then (k, value) :: rest else (k, v) :: place rest)
    (key' : α) (entries : List (α × β)) :
    lookup key' (place entries) = if key' = key then some value else lookup key' entries := by
  induction entries with
  | nil => rw [hnil, lookup_cons_ite]
  | cons entry rest ih =>
    obtain ⟨k, v⟩ := entry
    rw [hcons, lookup_cons_ite]
    by_cases hk : k = key
    · subst hk
      rw [if_pos rfl, lookup_cons_ite]
      split <;> rfl
    · rw [if_neg hk, lookup_cons_ite, ih]
      by_cases h : key' = k
      · have hne : ¬ key' = key := fun heq ↦ hk (h ▸ heq)
        rw [if_pos h, if_neg hne, if_pos h]
      · simp only [if_neg h]

/-- Where keys are apart, what is listed under a key is its own number, zeros not being listed. -/
theorem getD_lookup_filter {γ : Type} [DecidableEq γ] {key : γ → α}
    (hkey : ∀ x y, key x = key y → x = y) (number : γ → Nat) (xs : List γ) (x : γ) :
    (((xs.map fun y ↦ (key y, number y)).filter fun e ↦ e.2 != 0).lookup (key x)).getD 0 =
      if x ∈ xs then number x else 0 := by
  induction xs with
  | nil => rfl
  | cons y rest ih =>
    by_cases hzero : number y = 0
    · rw [map_cons, filter_cons_of_neg (by simp [hzero]), ih]
      by_cases hx : x = y
      · subst hx
        simp [hzero]
      · simp [hx]
    · rw [map_cons, filter_cons_of_pos (by simp [hzero]), lookup_cons_ite]
      by_cases hx : x = y
      · subst hx
        simp
      · have hne : key x ≠ key y := fun heq ↦ hx (hkey x y heq)
        simp [hx, hne, ih]

end List
