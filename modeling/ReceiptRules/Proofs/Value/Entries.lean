import Mathlib.Data.List.Induction
import ReceiptRules.Proofs.Lookup
import ReceiptRules.Value

/-!
# Entries by key

What is found under the keys of entries into which a value has been placed. Of entries in which keys
come again the last value of a key stays, in the place where the key came first. Entries whose keys
differ are kept as they are.
-/

namespace ReceiptRules.Value

theorem lookup_insert {α : Type} (key key' : String) (value : α) (entries : List (String × α)) :
    (insert key value entries).lookup key' =
      if key' = key then some value else entries.lookup key' :=
  List.lookup_place (insert key value) rfl (fun _ _ _ ↦ rfl) key' entries

theorem insert_of_notMem {α : Type} {key : String} {entries : List (String × α)}
    (h : key ∉ entries.map Prod.fst) (value : α) :
    insert key value entries = entries ++ [(key, value)] := by
  induction entries with
  | nil => rfl
  | cons entry rest ih =>
    rw [List.map_cons, List.mem_cons, not_or] at h
    rw [insert, if_neg (Ne.symm h.1), ih h.2, List.cons_append]

theorem mem_keys_insert {α : Type} {key key' : String} {value : α} {entries : List (String × α)} :
    key' ∈ (insert key value entries).map Prod.fst ↔
      key' = key ∨ key' ∈ entries.map Prod.fst := by
  induction entries with
  | nil => simp [insert]
  | cons entry rest ih =>
    rw [insert]
    split
    · next h => simp [h]
    · rw [List.map_cons, List.mem_cons, ih, List.map_cons, List.mem_cons]
      exact or_left_comm

theorem nodup_keys_insert {α : Type} {entries : List (String × α)}
    (h : (entries.map Prod.fst).Nodup) (key : String) (value : α) :
    ((insert key value entries).map Prod.fst).Nodup := by
  induction entries with
  | nil => simp [insert]
  | cons entry rest ih =>
    obtain ⟨hentry, hrest⟩ := List.nodup_cons.mp h
    rw [insert]
    split
    · exact h
    · next hne =>
      refine List.nodup_cons.mpr ⟨?_, ih hrest⟩
      rw [mem_keys_insert, not_or]
      exact ⟨hne, hentry⟩

/-- Among entries whose keys differ, an entry is what is found under its key. -/
theorem mem_iff_lookup {α : Type} {key : String} {value : α} {entries : List (String × α)}
    (h : (entries.map Prod.fst).Nodup) :
    (key, value) ∈ entries ↔ entries.lookup key = some value := by
  induction entries with
  | nil => simp
  | cons entry rest ih =>
    obtain ⟨k, v⟩ := entry
    obtain ⟨hk, hrest⟩ := List.nodup_cons.mp h
    rw [List.lookup_cons_ite, List.mem_cons, Prod.mk.injEq, ih hrest]
    by_cases hkey : key = k
    · subst hkey
      have hnone : rest.lookup key ≠ some value := fun hfound ↦
        hk (List.mem_map.mpr ⟨(key, value), (ih hrest).mpr hfound, rfl⟩)
      simp [hnone, eq_comm]
    · simp [hkey]

theorem distinct_of_nodup {α : Type} {entries : List (String × α)}
    (h : (entries.map Prod.fst).Nodup) : distinct entries = entries := by
  have hfold : ∀ known : List (String × α), ((known ++ entries).map Prod.fst).Nodup →
      entries.foldl (fun known entry ↦ insert entry.1 entry.2 known) known = known ++ entries := by
    clear h
    induction entries with
    | nil => simp
    | cons entry rest ih =>
      obtain ⟨key, value⟩ := entry
      intro known hknown
      have hkey : key ∉ known.map Prod.fst := by
        rw [List.map_append, List.map_cons] at hknown
        intro hmem
        exact (List.nodup_append.mp hknown).2.2 key hmem key List.mem_cons_self rfl
      rw [List.foldl_cons]
      simp only [insert_of_notMem hkey]
      rw [ih]
      · simp
      · simpa using hknown
  exact hfold [] h

/-! ## Keys that come again -/

theorem distinct_concat {α : Type} (entries : List (String × α)) (entry : String × α) :
    distinct (entries ++ [entry]) = insert entry.1 entry.2 (distinct entries) := by
  simp only [distinct, List.foldl_append, List.foldl_cons, List.foldl_nil]

/-- The last value of a key is found under it. -/
theorem lookup_distinct {α : Type} (key : String) (entries : List (String × α)) :
    (distinct entries).lookup key = entries.reverse.lookup key := by
  induction entries using List.reverseRecOn with
  | nil => rfl
  | append_singleton entries entry ih =>
    obtain ⟨k, v⟩ := entry
    rw [distinct_concat, lookup_insert, ih, List.reverse_concat, List.lookup_cons_ite]

theorem keys_insert {α : Type} (key : String) (value : α) (entries : List (String × α)) :
    (insert key value entries).map Prod.fst =
      if key ∈ entries.map Prod.fst then entries.map Prod.fst else entries.map Prod.fst ++ [key] := by
  induction entries with
  | nil => rfl
  | cons entry rest ih =>
    obtain ⟨k, v⟩ := entry
    rw [insert]
    by_cases h : k = key
    · simp [h]
    · rw [if_neg h, List.map_cons, ih]
      by_cases hmem : key ∈ rest.map Prod.fst
      · have hlater : key ∈ ((k, v) :: rest).map Prod.fst := List.mem_cons_of_mem k hmem
        rw [if_pos hmem, if_pos hlater]
        rfl
      · have hnot : key ∉ ((k, v) :: rest).map Prod.fst := by
          rw [List.map_cons, List.mem_cons, not_or]
          exact ⟨Ne.symm h, hmem⟩
        rw [if_neg hmem, if_neg hnot]
        rfl

/-- Each key stays in the place where it came first. -/
theorem keys_distinct {α : Type} (entries : List (String × α)) :
    (distinct entries).map Prod.fst = (entries.map Prod.fst).eraseDups := by
  induction entries using List.reverseRecOn with
  | nil => rfl
  | append_singleton entries entry ih =>
    rw [distinct_concat, keys_insert, ih, List.map_append, List.eraseDups_append]
    simp only [List.mem_eraseDups, List.map_singleton, List.removeAll, List.filter_cons,
      List.filter_nil, List.elem_eq_mem]
    split
    · next hmem => simp [hmem]
    · next hmem => simp [hmem, List.eraseDups_cons]

theorem nodup_keys_distinct {α : Type} (entries : List (String × α)) :
    ((distinct entries).map Prod.fst).Nodup := by
  induction entries using List.reverseRecOn with
  | nil => exact .nil
  | append_singleton entries entry ih =>
    rw [distinct_concat]
    exact nodup_keys_insert ih entry.1 entry.2

end ReceiptRules.Value
