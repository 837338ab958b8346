import Mathlib.Data.List.Forall2
import Mathlib.Data.List.Nodup
import ReceiptRules.Proofs.Field.Keys
import ReceiptRules.Proofs.Value.Entries

/-!
# Receipts keep what they are given

A receipt that is read from entries under any keys has for each field the value of the last entry
whose key denotes the field, and the other entries as they are. Reading the kept entries changes
nothing.

Entries are those of an object, so no key comes again as it is written. Several keys may denote one
field all the same.
-/

namespace ReceiptRules

namespace Receipt

/-- What a receipt has kept of entries: of each field the last value, the entries of no field as they
are, and the keys in the order in which they came first. -/
structure Keeps (entries : List (String × Value)) (r : Receipt) : Prop where
  last : ∀ {front back : List (String × Value)} {key : String} {value : Value} {f : Field},
    entries = front ++ (key, value) :: back → Field.Denotes key f →
    (∀ e ∈ back, ¬ Field.Denotes e.1 f) → r.get f = value
  absent : ∀ {f : Field}, (∀ e ∈ entries, ¬ Field.Denotes e.1 f) → r.get f = .null
  others : ∀ {key : String}, (∀ f, ¬ Field.Denotes key f) →
    ∀ value, (key, value) ∈ r.values ↔ (key, value) ∈ entries
  order : ∃ kept : List String, List.Forall₂ (fun e key ↦ Field.KeptAs e.1 key) entries kept ∧
    r.values.map Prod.fst = kept.eraseDups

/-- Entries under the keys that receipts keep. -/
def canonical (entries : List (String × Value)) : List (String × Value) :=
  entries.map fun e ↦ (Field.canonicalKey e.1, e.2)

@[simp] theorem canonical_cons (entry : String × Value) (rest : List (String × Value)) :
    canonical (entry :: rest) = (Field.canonicalKey entry.1, entry.2) :: canonical rest := rfl

@[simp] theorem canonical_append (front back : List (String × Value)) :
    canonical (front ++ back) = canonical front ++ canonical back := List.map_append

@[simp] theorem canonical_reverse (entries : List (String × Value)) :
    canonical entries.reverse = (canonical entries).reverse := List.map_reverse

theorem ofEntries_values (id : Option String) (entries : List (String × Value)) :
    (ofEntries id entries).values = Value.distinct (canonical entries) := rfl

theorem keys_canonical (entries : List (String × Value)) :
    (canonical entries).map Prod.fst = entries.map fun e ↦ Field.canonicalKey e.1 := by
  induction entries with
  | nil => rfl
  | cons entry rest ih => rw [canonical_cons, List.map_cons, List.map_cons, ih]

theorem canonical_of_forall {entries : List (String × Value)}
    (h : ∀ e ∈ entries, Field.canonicalKey e.1 = e.1) : canonical entries = entries := by
  induction entries with
  | nil => rfl
  | cons entry rest ih =>
    obtain ⟨hentry, hrest⟩ := List.forall_mem_cons.mp h
    rw [canonical_cons, hentry, ih hrest]

theorem lookup_values (id : Option String) (entries : List (String × Value)) (key : String) :
    (ofEntries id entries).values.lookup key = (canonical entries.reverse).lookup key := by
  rw [ofEntries_values, Value.lookup_distinct, canonical_reverse]

/-! ## Fields -/

theorem lookup_canonical_word_eq_none {entries : List (String × Value)} {f : Field}
    (h : ∀ e ∈ entries, ¬ Field.Denotes e.1 f) :
    (canonical entries).lookup f.word = none := by
  induction entries with
  | nil => rfl
  | cons entry rest ih =>
    obtain ⟨hentry, hrest⟩ := List.forall_mem_cons.mp h
    have hne : ¬ f.word = Field.canonicalKey entry.1 := fun heq ↦
      hentry (Field.canonicalKey_eq_word_iff.mp heq.symm)
    rw [canonical_cons, List.lookup_cons_ite, if_neg hne, ih hrest]

/-- The last entry of a field decides. -/
theorem get_of_last {front back : List (String × Value)} {key : String} {f : Field}
    (hkey : Field.Denotes key f) (hback : ∀ e ∈ back, ¬ Field.Denotes e.1 f)
    (id : Option String) (value : Value) :
    (ofEntries id (front ++ (key, value) :: back)).get f = value := by
  have hnone : (canonical back.reverse).lookup f.word = none :=
    lookup_canonical_word_eq_none fun e he ↦ hback e (List.mem_reverse.mp he)
  have hfound : (canonical (front ++ (key, value) :: back).reverse).lookup f.word = some value := by
    rw [List.reverse_append, List.reverse_cons, List.append_assoc, canonical_append,
      List.lookup_append, hnone, Option.none_or, List.singleton_append, canonical_cons,
      List.lookup_cons_ite, Field.canonicalKey_of_denotes hkey, if_pos rfl]
  rw [get, lookup_values, hfound]
  rfl

theorem get_of_forall {entries : List (String × Value)} {f : Field}
    (h : ∀ e ∈ entries, ¬ Field.Denotes e.1 f) (id : Option String) :
    (ofEntries id entries).get f = .null := by
  have hnone : (canonical entries.reverse).lookup f.word = none :=
    lookup_canonical_word_eq_none fun e he ↦ h e (List.mem_reverse.mp he)
  rw [get, lookup_values, hnone]
  rfl

/-! ## Keys of no field -/

theorem lookup_canonical_of_forall {key : String} (h : ∀ f, ¬ Field.Denotes key f)
    (entries : List (String × Value)) : (canonical entries).lookup key = entries.lookup key := by
  induction entries with
  | nil => rfl
  | cons entry rest ih =>
    obtain ⟨k, v⟩ := entry
    rw [canonical_cons, List.lookup_cons_ite, List.lookup_cons_ite, ih]
    simp only [eq_comm (a := key), Field.canonicalKey_eq_iff h]

theorem mem_values_iff {entries : List (String × Value)} (hkeys : (entries.map Prod.fst).Nodup)
    {key : String} (h : ∀ f, ¬ Field.Denotes key f) (id : Option String) (value : Value) :
    (key, value) ∈ (ofEntries id entries).values ↔ (key, value) ∈ entries := by
  have hreverse : (entries.reverse.map Prod.fst).Nodup := by
    rw [List.map_reverse, List.nodup_reverse]
    exact hkeys
  calc (key, value) ∈ (ofEntries id entries).values
      ↔ (ofEntries id entries).values.lookup key = some value :=
        Value.mem_iff_lookup (Value.nodup_keys_distinct (canonical entries))
    _ ↔ entries.reverse.lookup key = some value := by
        rw [lookup_values, lookup_canonical_of_forall h]
    _ ↔ (key, value) ∈ entries := by
        rw [← Value.mem_iff_lookup hreverse, List.mem_reverse]

/-! ## All entries -/

theorem keys_values (id : Option String) (entries : List (String × Value)) :
    (ofEntries id entries).values.map Prod.fst =
      ((canonical entries).map Prod.fst).eraseDups := by
  rw [ofEntries_values, Value.keys_distinct]

theorem keeps_ofEntries {entries : List (String × Value)} (hkeys : (entries.map Prod.fst).Nodup)
    (id : Option String) : Keeps entries (ofEntries id entries) where
  last := by
    rintro front back key value f rfl hkey hback
    exact get_of_last hkey hback id value
  absent := fun h ↦ get_of_forall h id
  others := fun h ↦ mem_values_iff hkeys h id
  order := by
    refine ⟨(canonical entries).map Prod.fst, ?_, keys_values id entries⟩
    rw [keys_canonical, List.forall₂_map_right_iff, List.forall₂_same]
    exact fun e _ ↦ Field.keptAs_canonicalKey e.1

theorem canonicalKey_of_mem_values {id : Option String} {entries : List (String × Value)}
    {e : String × Value} (h : e ∈ (ofEntries id entries).values) :
    Field.canonicalKey e.1 = e.1 := by
  have hkey : e.1 ∈ (ofEntries id entries).values.map Prod.fst := List.mem_map_of_mem h
  rw [keys_values, List.mem_eraseDups, keys_canonical] at hkey
  obtain ⟨given, -, hgiven⟩ := List.mem_map.mp hkey
  rw [← hgiven, Field.canonicalKey_canonicalKey]

/-- A receipt made from its own entries is the same receipt. -/
theorem ofEntries_values_ofEntries (id : Option String) (entries : List (String × Value)) :
    ofEntries id (ofEntries id entries).values = ofEntries id entries := by
  have hkeys : ((ofEntries id entries).values.map Prod.fst).Nodup :=
    Value.nodup_keys_distinct (canonical entries)
  have hsame : canonical (ofEntries id entries).values = (ofEntries id entries).values :=
    canonical_of_forall fun e he ↦ canonicalKey_of_mem_values he
  calc ofEntries id (ofEntries id entries).values
      = ⟨id, Value.distinct (canonical (ofEntries id entries).values)⟩ := rfl
    _ = ⟨id, (ofEntries id entries).values⟩ := by rw [hsame, Value.distinct_of_nodup hkeys]
    _ = ofEntries id entries := rfl

/-! ## Documents -/

/-- The document of a receipt with entries under any keys. -/
def document (id : Option String) (entries : List (String × Value)) : Value :=
  .object [("receipt_id", Value.ofOption .text id), ("values", .object entries)]

theorem ofDocument_document (id : Option String) (entries : List (String × Value)) :
    ofDocument (document id entries) = .ok (ofEntries id entries) := by
  have htext : ∀ s, Reader.text (.text s) = .ok s := fun s ↦ rfl
  have hid := Reader.optional_ofOption htext (fun s ↦ nofun) id
  have hentries : Receipt.entries (.object entries) = .ok entries := rfl
  rw [document, ofDocument, Reader.model]
  simp only [Reader.withDefault, List.lookup_cons, String.reduceBEq, hid, hentries, Checked.within]
  rfl

/-- Entries under keys that differ are read as a receipt that keeps them, and what it has kept is read
as the same receipt. -/
theorem ofDocument_keeps {entries : List (String × Value)} (hkeys : (entries.map Prod.fst).Nodup)
    (id : Option String) :
    ∃ r, ofDocument (document id entries) = .ok r ∧ r.id = id ∧ Keeps entries r ∧
      ofDocument (document id r.values) = .ok r := by
  refine ⟨ofEntries id entries, ofDocument_document id entries, rfl, keeps_ofEntries hkeys id, ?_⟩
  rw [ofDocument_document, ofEntries_values_ofEntries]

/-- Two spellings of the seller and of the amount each, and a key of no field. -/
theorem ofDocument_keeps_spellings :
    let entries : List (String × Value) := [("sellerName", .text "A"), ("buyerTaxId", .int 9133),
      (" TOTAL_AMOUNT ", .int 5), ("SELLER_NAME", .text "B"), ("amount", .int 6)]
    (entries.map Prod.fst).Nodup ∧
      ∃ r, ofDocument (document (some "r1") entries) = .ok r ∧
        r.get .sellerName = .text "B" ∧ r.get .amount = .int 6 ∧ r.get .date = .null ∧
        ("buyerTaxId", .int 9133) ∈ r.values ∧
        ofDocument (document (some "r1") r.values) = .ok r := by
  intro entries
  have hkeys : (entries.map Prod.fst).Nodup := by decide
  obtain ⟨r, hr, -, hkeeps, hagain⟩ := ofDocument_keeps hkeys (some "r1")
  have hsellers : entries = [_, _, _] ++ ("SELLER_NAME", .text "B") :: [("amount", .int 6)] := rfl
  have hamounts : entries = [_, _, _, _] ++ ("amount", .int 6) :: [] := rfl
  have hseller : r.get .sellerName = .text "B" :=
    hkeeps.last hsellers (by decide +kernel) (by decide +kernel)
  have hamount : r.get .amount = .int 6 := hkeeps.last hamounts (by decide +kernel) nofun
  have hdate : r.get .date = .null := hkeeps.absent (by decide +kernel)
  have hnone : ∀ f, ¬ Field.Denotes "buyerTaxId" f := by
    intro f
    cases f <;> decide +kernel
  have hother : ("buyerTaxId", .int 9133) ∈ r.values :=
    (hkeeps.others hnone _).mpr (List.mem_cons_of_mem _ List.mem_cons_self)
  exact ⟨hkeys, r, hr, hseller, hamount, hdate, hother, hagain⟩

end Receipt

end ReceiptRules
