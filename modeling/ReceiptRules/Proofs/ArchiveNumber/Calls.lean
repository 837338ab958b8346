import ReceiptRules.Proofs.ArchiveNumber.Counting

/-!
# Numbers for many callers

Any number of callers ask one set of counters for numbers, each call being a single step. Whatever the
order in which the calls arrive, a key gives the serials behind the highest known one without gaps and
in the order of its own calls, the calls for other keys make no difference to it, and no number is given
twice or was known before.

The counters are made from known texts. They cannot be made at all if one of the texts has a serial of
more digits than can be read, and a call gets no number where the serial has more digits than can be
written; both are part of the statement.
-/

namespace ReceiptRules.ArchiveNumber.Counters

open Text

variable {Caller : Type}

/-! ## Calls in the order of their arrival -/

/-- A caller asks for the next number of a key. -/
structure Call (Caller : Type) where
  caller : Caller
  key : NumberKey

/-- A number that a call was given. -/
structure Handout (Caller : Type) extends Call Caller where
  number : String

/-- What calls are given that reach the counters one after the other. A trace of tagged calls stands
for every way in which the calls of several callers can interleave. -/
def serve (c : Counters) : List (Call Caller) → List (Handout Caller)
  | [] => []
  | call :: rest =>
    let (number, moved) := c.next call.key
    (number.map (Handout.mk call)).toList ++ moved.serve rest

/-- The counters behind the calls. -/
def behind (c : Counters) (calls : List (Call Caller)) : Counters :=
  calls.foldl (fun c call ↦ (c.next call.key).2) c

/-- The numbers given for a key, in the order of the calls. -/
def numbersFor (key : NumberKey) (handouts : List (Handout Caller)) : List String :=
  (handouts.filter fun h ↦ h.key = key).map Handout.number

/-- How many of the calls ask for a key. -/
def callsOn (key : NumberKey) (calls : List (Call Caller)) : Nat := (calls.map Call.key).count key

/-- The greatest serial that can be written. Its power of ten is never to be computed. -/
@[irreducible]
def greatestSerial : Nat := Nat.pow 10 WholeNumber.digitLimit - 1

theorem writable_iff_le_greatestSerial {n : Nat} :
    WholeNumber.writable n = true ↔ n ≤ greatestSerial := by
  unfold WholeNumber.writable greatestSerial
  generalize WholeNumber.digitLimit = limit
  have hpos : 0 < Nat.pow 10 limit := Nat.pow_pos (by decide)
  rw [decide_eq_true_eq, Int.natAbs_natCast]
  omega

/-! ## One call -/

theorem next_of_lt {c : Counters} {key : NumberKey} (h : c.current key < greatestSerial) :
    c.next key = (some (format key (c.current key + 1 : Nat)), c.advance key) := by
  rw [next, write?, if_pos (writable_iff_le_greatestSerial.mpr h)]

theorem next_of_ge {c : Counters} {key : NumberKey} (h : greatestSerial ≤ c.current key) :
    c.next key = (none, c.advance key) := by
  have hw : ¬ WholeNumber.writable (c.current key + 1 : Nat) = true := by
    rw [writable_iff_le_greatestSerial]
    omega
  rw [next, write?, if_neg hw]

theorem serve_cons_of_lt {c : Counters} {call : Call Caller}
    (h : c.current call.key < greatestSerial) (rest : List (Call Caller)) :
    c.serve (call :: rest) = ⟨call, format call.key (c.current call.key + 1 : Nat)⟩ ::
      (c.advance call.key).serve rest := by
  rw [serve, next_of_lt h]
  rfl

theorem serve_cons_of_ge {c : Counters} {call : Call Caller}
    (h : greatestSerial ≤ c.current call.key) (rest : List (Call Caller)) :
    c.serve (call :: rest) = (c.advance call.key).serve rest := by
  rw [serve, next_of_ge h]
  rfl

/-- A call changes the counter of its own key and no other. -/
theorem current_next (c : Counters) (key key' : NumberKey) :
    (c.next key).2.current key' = if key' = key then c.current key + 1 else c.current key' :=
  current_advance c key key'

theorem current_next_of_ne (c : Counters) {key key' : NumberKey} (h : key' ≠ key) :
    (c.next key).2.current key' = c.current key' := by
  rw [current_next, if_neg h]

/-! ## All calls -/

theorem behind_eq_advanceAll (c : Counters) (calls : List (Call Caller)) :
    c.behind calls = c.advanceAll (calls.map Call.key) := by
  rw [advanceAll, List.foldl_map]
  rfl

theorem callsOn_cons_self (call : Call Caller) (rest : List (Call Caller)) :
    callsOn call.key (call :: rest) = callsOn call.key rest + 1 := by
  rw [callsOn, List.map_cons, List.count_cons_self, callsOn]

theorem callsOn_cons_of_ne {key : NumberKey} {call : Call Caller} (h : call.key ≠ key)
    (rest : List (Call Caller)) : callsOn key (call :: rest) = callsOn key rest := by
  rw [callsOn, List.map_cons, List.count_cons_of_ne h, callsOn]

theorem numbersFor_cons_self (h : Handout Caller) (rest : List (Handout Caller)) :
    numbersFor h.key (h :: rest) = h.number :: numbersFor h.key rest := by
  simp [numbersFor]

theorem numbersFor_cons_of_ne {key : NumberKey} {h : Handout Caller} (hne : h.key ≠ key)
    (rest : List (Handout Caller)) : numbersFor key (h :: rest) = numbersFor key rest := by
  simp [numbersFor, hne]

/-- The numbers of the first `count` serials behind a serial. -/
def block (key : NumberKey) (serial count : Nat) : List String :=
  (List.range count).map fun i ↦ format key (serial + i + 1 : Nat)

theorem block_succ (key : NumberKey) (serial count : Nat) :
    block key serial (count + 1) =
      format key (serial + 1 : Nat) :: block key (serial + 1) count := by
  have hshift (i : Nat) : serial + (i + 1) + 1 = serial + 1 + i + 1 := by omega
  rw [block, List.range_succ_eq_map, List.map_cons, List.map_map, block]
  simp only [Function.comp_def, Nat.succ_eq_add_one, hshift, Nat.add_zero]

/-- A key gives the block of serials behind its counter, up to the greatest one. -/
theorem numbersFor_serve (c : Counters) (calls : List (Call Caller)) (key : NumberKey) :
    numbersFor key (c.serve calls) =
      block key (c.current key) (min (callsOn key calls) (greatestSerial - c.current key)) := by
  induction calls generalizing c with
  | nil => simp [serve, numbersFor, callsOn, block]
  | cons call rest ih =>
    by_cases hkey : call.key = key
    · subst hkey
      have hrest := ih (c.advance call.key)
      rw [current_advance, if_pos rfl] at hrest
      rw [callsOn_cons_self]
      rcases Nat.lt_or_ge (c.current call.key) greatestSerial with hlt | hge
      · have hcount : min (callsOn call.key rest + 1) (greatestSerial - c.current call.key) =
            min (callsOn call.key rest) (greatestSerial - (c.current call.key + 1)) + 1 := by
          omega
        rw [serve_cons_of_lt hlt, hcount, block_succ, ← hrest]
        exact numbersFor_cons_self ⟨call, _⟩ _
      · -- The counter has passed the greatest serial, so neither side has any number left.
        have hnone (n m : Nat) (h : greatestSerial ≤ m) : min n (greatestSerial - m) = 0 := by
          omega
        rw [serve_cons_of_ge hge, hrest, hnone _ _ hge, hnone _ _ (Nat.le_succ_of_le hge)]
        rfl
    · have hrest := ih (c.advance call.key)
      rw [current_advance, if_neg (Ne.symm hkey)] at hrest
      rw [callsOn_cons_of_ne hkey, ← hrest]
      rcases Nat.lt_or_ge (c.current call.key) greatestSerial with hlt | hge
      · rw [serve_cons_of_lt hlt]
        exact numbersFor_cons_of_ne (h := ⟨call, _⟩) hkey _
      · rw [serve_cons_of_ge hge]

/-- The numbers that calls are given are among those of their keys. -/
theorem map_number_serve_sublist (c : Counters) (calls : List (Call Caller)) :
    ((c.serve calls).map Handout.number).Sublist (c.numbersOf (calls.map Call.key)) := by
  induction calls generalizing c with
  | nil => exact .slnil
  | cons call rest ih =>
    rcases Nat.lt_or_ge (c.current call.key) greatestSerial with hlt | hge
    · rw [serve_cons_of_lt hlt]
      exact (ih (c.advance call.key)).cons_cons _
    · rw [serve_cons_of_ge hge]
      exact (ih (c.advance call.key)).cons _

theorem exists_serial_of_mem_serve {c : Counters} {calls : List (Call Caller)} {h : Handout Caller}
    (hmem : h ∈ c.serve calls) :
    h.toCall ∈ calls ∧ ∃ n : Nat, c.current h.key < n ∧ WholeNumber.writable n = true ∧
      h.number = format h.key n := by
  induction calls generalizing c with
  | nil => cases hmem
  | cons call rest ih =>
    have hlater (hrest : h ∈ (c.advance call.key).serve rest) : h.toCall ∈ call :: rest ∧
        ∃ n : Nat, c.current h.key < n ∧ WholeNumber.writable n = true ∧
          h.number = format h.key n := by
      obtain ⟨hcall, n, hn, hw, hnumber⟩ := ih hrest
      refine ⟨List.mem_cons_of_mem call hcall, n, ?_, hw, hnumber⟩
      rw [current_advance] at hn
      split at hn
      · next hkey =>
        rw [hkey]
        omega
      · exact hn
    rcases Nat.lt_or_ge (c.current call.key) greatestSerial with hlt | hge
    · rw [serve_cons_of_lt hlt] at hmem
      rcases List.mem_cons.mp hmem with rfl | hrest
      · exact ⟨List.mem_cons_self, c.current call.key + 1, Nat.lt_succ_self _,
          writable_iff_le_greatestSerial.mpr hlt, rfl⟩
      · exact hlater hrest
    · rw [serve_cons_of_ge hge] at hmem
      exact hlater hmem

/-! ## Counters that go on after known texts -/

/-- The serial of a text that can be read as a number of the key. -/
def serialOf? (key : NumberKey) (s : String) : Option Nat :=
  match read s with
  | .ok (some (key', n)) => if key' = key then some n else none
  | _ => none

/-- The highest serial of a key among the texts that can be read as numbers of it, or zero. -/
def highest (texts : List String) (key : NumberKey) : Nat :=
  (texts.filterMap (serialOf? key)).foldr max 0

theorem highest_cons (s : String) (texts : List String) (key : NumberKey) :
    highest (s :: texts) key = max ((serialOf? key s).getD 0) (highest texts key) := by
  rw [highest, List.filterMap_cons]
  cases serialOf? key s with
  | none => rw [Option.getD_none, Nat.zero_max, highest]
  | some n => rfl

theorem current_seeText {c c' : Counters} {s : String} (h : seeText c s = .ok c')
    (key : NumberKey) : c'.current key = max (c.current key) ((serialOf? key s).getD 0) := by
  obtain ⟨found, hread, rfl⟩ := Except.map_eq_ok_iff.mp h
  rw [serialOf?, hread]
  rcases found with _ | ⟨key', n⟩
  · exact (Nat.max_zero _).symm
  · by_cases hkey : key' = key
    · subst hkey
      simp only [current_see, if_true, Option.getD_some]
    · simp only [current_see, if_neg hkey, if_neg (Ne.symm hkey), Option.getD_none, Nat.max_zero]

theorem current_of_foldlM {texts : List String} {c c' : Counters}
    (h : texts.foldlM seeText c = .ok c') (key : NumberKey) :
    c'.current key = max (c.current key) (highest texts key) := by
  induction texts generalizing c with
  | nil =>
    cases h
    exact (Nat.max_zero _).symm
  | cons s rest ih =>
    rw [List.foldlM_cons] at h
    obtain ⟨next, hnext, h⟩ := Except.bind_eq_ok_iff.mp h
    rw [ih h, current_seeText hnext, highest_cons, Nat.max_assoc]

theorem current_of_ofNumbers {texts : List String} {c : Counters} (h : ofNumbers texts = .ok c)
    (key : NumberKey) : c.current key = highest texts key := by
  rw [ofNumbers_eq] at h
  rw [current_of_foldlM h, current_empty, Nat.zero_max]

/-- Counters can be made from texts unless the serial of one of them is too long to be read. -/
theorem exists_ofNumbers_iff {texts : List String} :
    (∃ c, ofNumbers texts = .ok c) ↔ ∀ s ∈ texts, ∃ found, read s = .ok found := by
  rw [ofNumbers_eq]
  generalize empty = c
  induction texts generalizing c with
  | nil => exact iff_of_true ⟨c, rfl⟩ (by simp)
  | cons s rest ih =>
    rw [List.forall_mem_cons]
    simp only [List.foldlM_cons, Except.bind_eq_ok_iff]
    constructor
    · rintro ⟨last, next, hnext, hlast⟩
      obtain ⟨found, hread, -⟩ := Except.map_eq_ok_iff.mp hnext
      exact ⟨⟨found, hread⟩, (ih next).mp ⟨last, hlast⟩⟩
    · rintro ⟨⟨found, hread⟩, hrest⟩
      obtain ⟨next, hnext⟩ : ∃ next, seeText c s = .ok next := by
        rw [seeText, hread]
        exact ⟨_, rfl⟩
      obtain ⟨last, hlast⟩ := (ih next).mpr hrest
      exact ⟨last, next, hnext, hlast⟩

/-! ## What the callers get -/

/-- What calls are given by counters that go on after known texts; nothing, if these cannot be
made. -/
def handedOut (texts : List String) (calls : List (Call Caller)) : List (Handout Caller) :=
  match ofNumbers texts with
  | .ok c => c.serve calls
  | .error _ => []

/-- How counters that go on after known texts serve a sequence of calls. -/
structure Serves (texts : List String) (calls : List (Call Caller)) : Prop where
  made : (∃ c, ofNumbers texts = .ok c) ↔ ∀ s ∈ texts, ∃ found, read s = .ok found
  /-- Each key gives the serials behind the highest known one, as many as there are calls for it as
  long as they can be written. -/
  blocks : ∀ key, ∃ count, numbersFor key (handedOut texts calls) =
      block key (highest texts key) count ∧
    ((∃ c, ofNumbers texts = .ok c) →
      count = min (callsOn key calls) (greatestSerial - highest texts key))
  counter : ∀ c, ofNumbers texts = .ok c → ∀ key,
    (c.behind calls).current key = highest texts key + callsOn key calls
  apart : ∀ c, ofNumbers texts = .ok c → ∀ (call : Call Caller) (key : NumberKey), key ≠ call.key →
    (c.behind (calls ++ [call])).current key = (c.behind calls).current key
  distinct : ((handedOut texts calls).map Handout.number).Nodup
  fresh : ∀ h ∈ handedOut texts calls, h.number ∉ texts

theorem behind_append_singleton (c : Counters) (calls : List (Call Caller)) (call : Call Caller) :
    c.behind (calls ++ [call]) = ((c.behind calls).next call.key).2 := by
  rw [behind, List.foldl_append]
  rfl

/-- However the calls of any number of callers interleave, each key hands out a gapless block behind
the known numbers in the order of its calls, undisturbed by the other keys, and no number is handed
out twice or was known. -/
theorem serves_of_isKey (texts : List String) (calls : List (Call Caller))
    (hkeys : ∀ call ∈ calls, IsKey call.key) : Serves texts calls := by
  have hkeys' : ∀ key ∈ calls.map Call.key, IsPeriod key.period := by
    intro key hkey
    obtain ⟨call, hcall, rfl⟩ := List.mem_map.mp hkey
    exact (hkeys call hcall).period
  have hcounter : ∀ c, ofNumbers texts = .ok c → ∀ key,
      (c.behind calls).current key = highest texts key + callsOn key calls := by
    intro c hc key
    rw [behind_eq_advanceAll, current_advanceAll, current_of_ofNumbers hc, callsOn]
  have hapart : ∀ c, ofNumbers texts = .ok c → ∀ (call : Call Caller) (key : NumberKey),
      key ≠ call.key → (c.behind (calls ++ [call])).current key = (c.behind calls).current key := by
    intro c _ call key hkey
    rw [behind_append_singleton, current_next_of_ne _ hkey]
  cases hc : ofNumbers texts with
  | error e =>
    have hnone : handedOut texts calls = [] := by rw [handedOut, hc]
    refine ⟨exists_ofNumbers_iff, fun key ↦ ⟨0, ?_, ?_⟩, hcounter, hapart, ?_, ?_⟩
    · rw [hnone]
      rfl
    · rintro ⟨c, hmade⟩
      rw [hc] at hmade
      cases hmade
    · rw [hnone]
      exact .nil
    · rw [hnone]
      exact fun h hmem ↦ nomatch hmem
  | ok c =>
    have hserved : handedOut texts calls = c.serve calls := by rw [handedOut, hc]
    refine ⟨exists_ofNumbers_iff, fun key ↦ ⟨_, ?_, fun _ ↦ rfl⟩, hcounter, hapart, ?_, ?_⟩
    · rw [hserved, numbersFor_serve, current_of_ofNumbers hc]
    · rw [hserved]
      exact (map_number_serve_sublist c calls).nodup (nodup_numbersOf hkeys')
    · rw [hserved]
      intro h hmem
      obtain ⟨hcall, n, hn, hw, hnumber⟩ := exists_serial_of_mem_serve hmem
      rw [hnumber]
      exact format_notMem_of_ofNumbers hc (hkeys _ hcall) hw hn

/-- Numbers in no order, one of them twice and none filled up, and a text that is none. -/
def knownTexts : List String := ["2024-03-EXP-7", "about", " 2024-03-EXP-12 ", "2024-03-EXP-7"]

def march (code : String) : NumberKey := ⟨"2024-03", code⟩

/-- Two callers that take turns on two keys. -/
def twoCallers : List (Call Bool) := [
  ⟨true, march "EXP"⟩, ⟨false, march "INC"⟩, ⟨false, march "EXP"⟩, ⟨true, march "INC"⟩]

theorem isKey_march {code : String} (h : IsCode code) : IsKey (march code) :=
  ⟨⟨'2', '0', '2', '4', '0', '3', by simp [march], List.all_eq_true.mp (by decide)⟩, h⟩

theorem serves_of_isKey_twoCallers :
    (∀ call ∈ twoCallers, IsKey call.key) ∧ Serves knownTexts twoCallers ∧
      (handedOut knownTexts twoCallers).map (fun h ↦ (h.caller, h.number)) =
        [(true, "2024-03-EXP-0013"), (false, "2024-03-INC-0001"), (false, "2024-03-EXP-0014"),
          (true, "2024-03-INC-0002")] := by
  have hkeys : ∀ call ∈ twoCallers, IsKey call.key := by
    simp only [twoCallers, List.forall_mem_cons]
    exact ⟨isKey_march (by decide), isKey_march (by decide), isKey_march (by decide),
      isKey_march (by decide), by simp⟩
  exact ⟨hkeys, serves_of_isKey knownTexts twoCallers hkeys, by decide +kernel⟩

end ReceiptRules.ArchiveNumber.Counters
