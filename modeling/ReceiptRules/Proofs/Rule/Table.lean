import Mathlib.Data.List.Dedup
import ReceiptRules.Rule.Table

/-!
# What a rule table holds

A table is looked at by membership: each operation has one equivalence for the rules that are in the
table after it. Tables that hold the same rules in different order answer alike and stay alike.
-/

namespace ReceiptRules.Rule

/-! ## Replacing a rule in a list -/

theorem replaceIn_of_notMem {r : Rule} {rules : List Rule} (h : r.id ∉ ids rules) :
    replaceIn r rules = rules ++ [r] := by
  induction rules with
  | nil => rfl
  | cons x rest ih =>
    rw [ids_cons, List.mem_cons, not_or] at h
    rw [replaceIn, if_neg (Ne.symm h.1), ih h.2, List.cons_append]

theorem filter_of_notMem {id : String} {rules : List Rule} (h : id ∉ ids rules) :
    (rules.filter fun x ↦ x.id != id) = rules := by
  rw [List.filter_eq_self]
  intro x hx
  have hne : x.id ≠ id := fun heq ↦ h (heq ▸ List.mem_map_of_mem hx)
  simpa using hne

/-- The rule comes in; the one whose identifier it has goes out. -/
theorem replaceIn_perm {r : Rule} {rules : List Rule} (h : (ids rules).Nodup) :
    (replaceIn r rules).Perm (r :: rules.filter fun x ↦ x.id != r.id) := by
  induction rules with
  | nil => exact .refl _
  | cons x rest ih =>
    obtain ⟨hx, hrest⟩ := List.nodup_cons.mp h
    by_cases hid : x.id = r.id
    · rw [replaceIn, if_pos hid, List.filter_cons_of_neg (by simp [hid]),
        filter_of_notMem (hid ▸ hx)]
    · rw [replaceIn, if_neg hid, List.filter_cons_of_pos (by simpa using hid)]
      exact ((ih hrest).cons x).trans (.swap r x _)

/-- The rules with other identifiers stay where they are. -/
theorem filter_replaceIn (r : Rule) (rules : List Rule) :
    ((replaceIn r rules).filter fun x ↦ x.id != r.id) = rules.filter fun x ↦ x.id != r.id := by
  induction rules with
  | nil => simp [replaceIn]
  | cons x rest ih =>
    rw [replaceIn]
    split
    · next hid => rw [List.filter_cons_of_neg (by simp), List.filter_cons_of_neg (by simp [hid])]
    · rw [List.filter_cons, ih, List.filter_cons]

/-- Two functions that agree on the other rules, and on a rule with the one that it replaces, agree
on the whole list. -/
theorem map_replaceIn_eq {α : Type} {f g : Rule → α} {r current : Rule} {rules : List Rule}
    (hdistinct : (ids rules).Nodup) (hcurrent : current ∈ rules) (hid : current.id = r.id)
    (hr : f r = g current) (hothers : ∀ x : Rule, x.id ≠ r.id → f x = g x) :
    (replaceIn r rules).map f = rules.map g := by
  induction rules with
  | nil => cases hcurrent
  | cons x rest ih =>
    obtain ⟨hx, hrest⟩ := List.nodup_cons.mp hdistinct
    rcases List.mem_cons.mp hcurrent with rfl | hcurrent
    · have hbehind : rest.map f = rest.map g := by
        apply List.map_congr_left
        intro y hy
        refine hothers y fun heq ↦ ?_
        have hmem : current.id ∈ ids rest := (hid.trans heq.symm) ▸ List.mem_map_of_mem hy
        exact hx hmem
      rw [replaceIn, if_pos hid, List.map_cons, List.map_cons, hr, hbehind]
    · have hne : x.id ≠ r.id := by
        intro heq
        have hmem : x.id ∈ ids rest := (hid.trans heq.symm) ▸ List.mem_map_of_mem hcurrent
        exact hx hmem
      rw [replaceIn, if_neg hne, List.map_cons, List.map_cons, hothers x hne, ih hrest hcurrent]

/-- What a rule has in common with the one that it replaces stays as it is in the whole list. -/
theorem map_replaceIn {α : Type} {f : Rule → α} {r current : Rule} {rules : List Rule}
    (hdistinct : (ids rules).Nodup) (hcurrent : current ∈ rules) (hid : current.id = r.id)
    (hf : f r = f current) : (replaceIn r rules).map f = rules.map f :=
  map_replaceIn_eq hdistinct hcurrent hid hf fun _ _ ↦ rfl

/-- Of two rules that are put into the same place the later one stays. -/
theorem replaceIn_replaceIn {r r' : Rule} (h : r'.id = r.id) (rules : List Rule) :
    replaceIn r (replaceIn r' rules) = replaceIn r rules := by
  induction rules with
  | nil => exact if_pos h
  | cons x rest ih =>
    by_cases hx : x.id = r.id
    · rw [replaceIn, if_pos (hx.trans h.symm), replaceIn, if_pos h, replaceIn, if_pos hx]
    · have hx' : x.id ≠ r'.id := fun heq ↦ hx (heq.trans h)
      rw [replaceIn, if_neg hx', replaceIn, if_neg hx, ih, replaceIn, if_neg hx]

/-! ## The last rule with an identifier -/

/-- The rule stands in the list, and none behind it has its identifier. -/
def IsLatest (rules : List Rule) (r : Rule) : Prop :=
  ∃ front back, rules = front ++ r :: back ∧ r.id ∉ ids back

theorem isLatest_nil (r : Rule) : ¬ IsLatest [] r := by
  rintro ⟨front, back, h, -⟩
  exact List.append_ne_nil_of_right_ne_nil front (List.cons_ne_nil r back) h.symm

theorem isLatest_cons {r x : Rule} {rest : List Rule} :
    IsLatest (x :: rest) r ↔ IsLatest rest r ∨ r = x ∧ r.id ∉ ids rest := by
  constructor
  · rintro ⟨front, back, h, hback⟩
    cases front with
    | nil =>
      cases h
      exact .inr ⟨rfl, hback⟩
    | cons y front =>
      cases h
      exact .inl ⟨front, back, rfl, hback⟩
  · rintro (⟨front, back, rfl, hback⟩ | ⟨rfl, hrest⟩)
    · exact ⟨x :: front, back, rfl, hback⟩
    · exact ⟨[], rest, rfl, hrest⟩

theorem IsLatest.mem {rules : List Rule} {r : Rule} (h : IsLatest rules r) : r ∈ rules := by
  obtain ⟨front, back, rfl, -⟩ := h
  exact List.mem_append_right front List.mem_cons_self

namespace Table

variable {t t' : Table} {r x : Rule} {id : String}

theorem eq_of_rules (h : t.rules = t'.rules) : t = t' := by
  cases t
  cases t'
  cases h
  rfl

theorem put_put (h : x.id = r.id) : (t.put x).put r = t.put r :=
  eq_of_rules (replaceIn_replaceIn h t.rules)

theorem put_of_mem (h : r ∈ t.rules) : t.put r = t := by
  apply eq_of_rules
  have hsame : (replaceIn r t.rules).map id = t.rules.map id := map_replaceIn t.distinct h rfl rfl
  rwa [List.map_id, List.map_id] at hsame

/-! ## Looking up -/

theorem contains_iff : t.contains id = true ↔ id ∈ ids t.rules := by
  rw [contains, List.contains_iff_mem]

theorem find?_eq_some_iff : t.find? id = some r ↔ r ∈ t.rules ∧ r.id = id := by
  constructor
  · intro h
    exact ⟨List.mem_of_find?_eq_some h, by simpa using List.find?_some h⟩
  · rintro ⟨hr, hid⟩
    cases hfound : t.find? id with
    | none =>
      have hnone := List.find?_eq_none.mp hfound r hr
      simp [hid] at hnone
    | some found =>
      have hfoundId : found.id = id := by simpa using List.find?_some hfound
      have hsame : found = r := List.inj_on_of_nodup_map t.distinct
        (List.mem_of_find?_eq_some hfound) hr (hfoundId.trans hid.symm)
      rw [hsame]

/-! ## Members after a change -/

theorem mem_put : x ∈ (t.put r).rules ↔ x = r ∨ x ∈ t.rules ∧ x.id ≠ r.id := by
  have hperm : (t.put r).rules.Perm (r :: t.rules.filter fun y ↦ y.id != r.id) :=
    replaceIn_perm t.distinct
  rw [hperm.mem_iff, List.mem_cons, List.mem_filter, bne_iff_ne]

theorem mem_ids_put : id ∈ ids (t.put r).rules ↔ id ∈ ids t.rules ∨ id = r.id := by
  rw [put, ids_replaceIn]
  split
  · next h =>
    constructor
    · exact .inl
    · rintro (hid | rfl)
      · exact hid
      · exact h
  · rw [List.mem_append, List.mem_singleton]

theorem rules_put_of_notMem (h : r.id ∉ ids t.rules) : (t.put r).rules = t.rules ++ [r] :=
  replaceIn_of_notMem h

theorem mem_erase : x ∈ (t.erase id).rules ↔ x ∈ t.rules ∧ x.id ≠ id := by
  rw [erase, List.mem_filter, bne_iff_ne]

theorem mem_modify {change : Rule → Rule} :
    x ∈ (t.modify change).rules ↔ ∃ r ∈ t.rules, { change r with id := r.id } = x :=
  List.mem_map

/-! ## Tables of lists -/

theorem foldl_put {rules : List Rule} (h : (ids (t.rules ++ rules)).Nodup) :
    (rules.foldl put t).rules = t.rules ++ rules := by
  induction rules generalizing t with
  | nil => rw [List.append_nil, List.foldl_nil]
  | cons r rest ih =>
    have hsplit : (ids t.rules ++ r.id :: ids rest).Nodup := by
      simpa [ids] using h
    have hr : r.id ∉ ids t.rules := fun hmem ↦
      (List.nodup_append.mp hsplit).2.2 r.id hmem r.id List.mem_cons_self rfl
    have hput : (t.put r).rules = t.rules ++ [r] := rules_put_of_notMem hr
    rw [List.foldl_cons, ih (by simpa [hput] using h), hput, List.append_assoc,
      List.singleton_append]

/-- Rules with distinct identifiers make up their table in the order in which they come. -/
theorem rules_ofRules {rules : List Rule} (h : (ids rules).Nodup) : (ofRules rules).rules = rules :=
  foldl_put (t := empty) h

/-- Of rules that are put into a table one by one, those stay that no later one replaces. -/
theorem mem_foldl_put {rules : List Rule} :
    x ∈ (rules.foldl put t).rules ↔ IsLatest rules x ∨ x ∈ t.rules ∧ x.id ∉ ids rules := by
  induction rules generalizing t with
  | nil => simp [isLatest_nil]
  | cons r rest ih =>
    rw [List.foldl_cons, ih, mem_put, isLatest_cons, ids_cons, List.mem_cons, not_or]
    constructor
    · rintro (hlatest | ⟨rfl | ⟨hx, hne⟩, hrest⟩)
      · exact .inl (.inl hlatest)
      · exact .inl (.inr ⟨rfl, hrest⟩)
      · exact .inr ⟨hx, hne, hrest⟩
    · rintro ((hlatest | ⟨rfl, hrest⟩) | ⟨hx, hne, hrest⟩)
      · exact .inl hlatest
      · exact .inr ⟨.inl rfl, hrest⟩
      · exact .inr ⟨.inr ⟨hx, hne⟩, hrest⟩

theorem mem_ofRules {rules : List Rule} : x ∈ (ofRules rules).rules ↔ IsLatest rules x := by
  rw [ofRules, mem_foldl_put]
  exact or_iff_left fun h ↦ List.not_mem_nil h.1

theorem mem_of_mem_ofRules {rules : List Rule} (h : x ∈ (ofRules rules).rules) : x ∈ rules :=
  (mem_ofRules.mp h).mem

theorem mem_ids_foldl_put {rules : List Rule} :
    id ∈ ids (rules.foldl put t).rules ↔ id ∈ ids t.rules ∨ id ∈ ids rules := by
  induction rules generalizing t with
  | nil => simp
  | cons r rest ih => rw [List.foldl_cons, ih, mem_ids_put, ids_cons, List.mem_cons, or_assoc]

/-- The table of a list has one rule for each identifier in the list. -/
theorem ids_ofRules_perm (rules : List Rule) :
    (ids (ofRules rules).rules).Perm (ids rules).dedup := by
  rw [List.perm_ext_iff_of_nodup (ofRules rules).distinct (List.nodup_dedup _)]
  intro id
  rw [List.mem_dedup, ofRules, mem_ids_foldl_put]
  exact or_iff_right List.not_mem_nil

/-! ## Tables with the same rules -/

section SameRules

variable (h : t.rules.Perm t'.rules)

include h

theorem contains_of_perm (id : String) : t.contains id = t'.contains id := by
  rw [Bool.eq_iff_iff, contains_iff, contains_iff]
  exact (h.map _).mem_iff

theorem find?_of_perm (id : String) : t.find? id = t'.find? id := by
  ext r
  rw [find?_eq_some_iff, find?_eq_some_iff, h.mem_iff]

theorem put_perm (r : Rule) : (t.put r).rules.Perm (t'.put r).rules :=
  (replaceIn_perm t.distinct).trans
    (((h.filter _).cons r).trans (replaceIn_perm t'.distinct).symm)

theorem erase_perm (id : String) : (t.erase id).rules.Perm (t'.erase id).rules := h.filter _

theorem modify_perm (change : Rule → Rule) :
    (t.modify change).rules.Perm (t'.modify change).rules := h.map _

end SameRules

end Table

end ReceiptRules.Rule
