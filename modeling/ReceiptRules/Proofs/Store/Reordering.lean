import Mathlib.Data.List.InsertIdx
import ReceiptRules.Proofs.Rule.Sorting
import ReceiptRules.Proofs.Store.Frame
import ReceiptRules.Proofs.Store.InPlace
import ReceiptRules.Proofs.Store.Origins

/-!
# New orders of all rules

A list that names every rule of a store once becomes its evaluation order, whatever the priorities
and sequences were: the priorities fall from place to place, so that the sequences, which may tie or
say the contrary, have no say any more. Nothing else changes about a rule but the moment of its last
change, and that only along with its priority. So a second order with the same list changes nothing.
-/

namespace ReceiptRules

theorem Rule.priority_ranked (now : Timestamp) (priority : Int) (r : Rule) :
    (r.ranked now priority).priority = priority := by
  rw [ranked]
  split
  · next h => exact h
  · rfl

namespace Store

variable {s s' : Store} {now now' : Timestamp} {ids : List String} {r x : Rule}

/-! ## Places -/

theorem placedIn_of_mem (h : r.id ∈ ids) :
    placedIn now ids r = r.ranked now (priorityAt ids (ids.idxOf r.id)) := by
  obtain ⟨place, hplace⟩ := Option.isSome_iff_exists.mp (List.isSome_idxOf?.mpr h)
  rw [placedIn, List.idxOf_eq_getD_idxOf?, hplace]
  rfl

theorem id_placedIn (now : Timestamp) (ids : List String) (r : Rule) :
    (placedIn now ids r).id = r.id := by
  obtain ⟨priority, updatedAt, hplaced⟩ := exists_placedIn now ids r
  rw [hplaced]

theorem priority_placedIn (h : r.id ∈ ids) :
    (placedIn now ids r).priority = priorityAt ids (ids.idxOf r.id) := by
  rw [placedIn_of_mem h, Rule.priority_ranked]

/-- A rule that has its place keeps it, along with the moment at which it came there. -/
theorem placedIn_placedIn : placedIn now' ids (placedIn now ids r) = placedIn now ids r := by
  by_cases h : r.id ∈ ids
  · have hmem : (placedIn now ids r).id ∈ ids := by rwa [id_placedIn]
    rw [placedIn_of_mem hmem, id_placedIn, Rule.ranked, if_pos (priority_placedIn h)]
  · rw [placedIn_of_notMem h, placedIn_of_notMem h]

theorem rules_modify_placedIn (t : Rule.Table) (now : Timestamp) (ids : List String) :
    (t.modify (placedIn now ids)).rules = t.rules.map (placedIn now ids) := by
  apply List.map_congr_left
  intro r hr
  obtain ⟨priority, updatedAt, hplaced⟩ := exists_placedIn now ids r
  rw [hplaced]

/-- Priorities counted down to zero. -/
def countdown (n : Nat) : List Int := (List.range n).reverse.map fun (k : Nat) ↦ (k : Int)

theorem map_priorityAt (hdistinct : ids.Nodup) :
    ids.map (fun id ↦ priorityAt ids (ids.idxOf id)) = countdown ids.length := by
  apply List.ext_getElem
  · simp [countdown]
  · intro place hplace _
    have hlt : place < ids.length := by simpa using hplace
    simp only [countdown, List.getElem_map, hdistinct.idxOf_getElem place hlt, priorityAt,
      List.getElem_reverse, List.getElem_range, List.length_range]
    omega

/-! ## The order of the rules -/

/-- A store in which the rules have been put into a new order. -/
structure TakesOrder (s : Store) (now : Timestamp) (ids : List String) (s' : Store) : Prop where
  order : Rule.ids s'.rules = ids
  priorities : s'.rules.map (fun r ↦ r.priority) = countdown ids.length
  /-- One by one, nothing but the priority of a rule is new, and the moment of its last change if
  the priority is another one. -/
  ranked : List.Forall₂ (fun r r' ↦ r' = r.ranked now r'.priority) s.table.rules s'.table.rules
  rest : s' = { s with table := s'.table }

theorem ids_rules_perm (s : Store) : (Rule.ids s.rules).Perm (Rule.ids s.table.rules) :=
  (Rule.ordered_perm s.table.rules).map _

theorem ids_modify_placedIn (t : Rule.Table) (now : Timestamp) (ids : List String) :
    Rule.ids (t.modify (placedIn now ids)).rules = Rule.ids t.rules := by
  rw [rules_modify_placedIn, Rule.ids, List.map_map]
  exact List.map_congr_left fun r _ ↦ id_placedIn now ids r

theorem priority_of_mem_modify {t : Rule.Table} (hids : Rule.ids t.rules ⊆ ids)
    (hx : x ∈ (t.modify (placedIn now ids)).rules) :
    x.priority = priorityAt ids (ids.idxOf x.id) := by
  rw [rules_modify_placedIn] at hx
  obtain ⟨r, hr, rfl⟩ := List.mem_map.mp hx
  rw [priority_placedIn (hids (List.mem_map_of_mem hr)), id_placedIn]

/-- Rules with the priorities of their places are evaluated in the order of the places. -/
theorem ids_ordered_modify {t : Rule.Table} (hids : ids.Perm (Rule.ids t.rules)) :
    Rule.ids (t.modify (placedIn now ids)).ordered = ids := by
  let placed := t.modify (placedIn now ids)
  have hdistinct : ids.Nodup := hids.nodup_iff.mpr t.distinct
  have hperm : (Rule.ids placed.ordered).Perm ids := by
    refine ((Rule.ordered_perm placed.rules).map _).trans ?_
    change (Rule.ids placed.rules).Perm ids
    rw [ids_modify_placedIn]
    exact hids.symm
  have hsorted : (Rule.ids placed.ordered).Pairwise fun a b ↦ ids.idxOf a ≤ ids.idxOf b := by
    refine List.pairwise_map.mpr ((Rule.sorted_ordered placed.rules).imp_of_mem ?_)
    intro a b ha hb hab
    have ha := priority_of_mem_modify hids.symm.subset (Rule.mem_ordered.mp ha)
    have hb := priority_of_mem_modify hids.symm.subset (Rule.mem_ordered.mp hb)
    -- A rule that comes first has no lower priority, so its place is not behind.
    rw [Rule.mayPrecede_iff, ha, hb, priorityAt, priorityAt] at hab
    omega
  have hplaces : ids.Pairwise fun a b ↦ ids.idxOf a ≤ ids.idxOf b := by
    rw [List.pairwise_iff_getElem]
    intro i j hi hj hij
    rw [hdistinct.idxOf_getElem i hi, hdistinct.idxOf_getElem j hj]
    exact Nat.le_of_lt hij
  refine hperm.eq_of_pairwise ?_ hsorted hplaces
  intro a b _ hb hab hba
  exact ((List.idxOf_inj hb).mp (Nat.le_antisymm hba hab)).symm

theorem takesOrder_of_perm (now : Timestamp) (hids : ids.Perm (Rule.ids s.table.rules)) :
    s.TakesOrder now ids { s with table := s.table.modify (placedIn now ids) } := by
  have horder : Rule.ids (s.table.modify (placedIn now ids)).ordered = ids :=
    ids_ordered_modify hids
  refine ⟨horder, ?_, ?_, rfl⟩
  · have hdistinct : ids.Nodup := hids.nodup_iff.mpr s.table.distinct
    let places := fun id ↦ priorityAt ids (ids.idxOf id)
    calc (s.table.modify (placedIn now ids)).ordered.map (fun r ↦ r.priority)
        = (s.table.modify (placedIn now ids)).ordered.map fun r ↦ places r.id :=
          List.map_congr_left fun r hr ↦
            priority_of_mem_modify hids.symm.subset (Rule.mem_ordered.mp hr)
      _ = (Rule.ids (s.table.modify (placedIn now ids)).ordered).map places := by
          rw [Rule.ids, List.map_map]
          rfl
      _ = ids.map places := by rw [horder]
      _ = countdown ids.length := map_priorityAt hdistinct
  · dsimp only
    rw [rules_modify_placedIn, List.forall₂_map_right_iff, List.forall₂_same]
    intro r hr
    have hmem : r.id ∈ ids := hids.symm.subset (List.mem_map_of_mem hr)
    rw [priority_placedIn hmem, placedIn_of_mem hmem]

theorem reorder_of_perm (now : Timestamp) (hids : ids.Perm (Rule.ids s.table.rules)) :
    s.reorder now ids = .ok { s with table := s.table.modify (placedIn now ids) } := by
  rw [reorder, if_pos (List.isPerm_iff.mpr hids)]

theorem reorder_of_not_perm (now : Timestamp) (hids : ¬ ids.Perm (Rule.ids s.table.rules)) :
    s.reorder now ids = .error .incompleteOrder := by
  rw [reorder, if_neg (fun hperm ↦ hids (List.isPerm_iff.mp hperm))]

/-- The same order again leaves the store as it is. -/
theorem reorder_reorder (h : s.reorder now ids = .ok s') (now' : Timestamp) :
    s'.reorder now' ids = .ok s' := by
  obtain ⟨hids, rfl⟩ := perm_of_reorder h
  have hagain : (s.table.modify (placedIn now ids)).modify (placedIn now' ids) =
      s.table.modify (placedIn now ids) := by
    apply Rule.Table.eq_of_rules
    rw [rules_modify_placedIn, rules_modify_placedIn, List.map_map]
    exact List.map_congr_left fun r _ ↦ placedIn_placedIn
  rw [reorder_of_perm now' (by rwa [ids_modify_placedIn])]
  dsimp only
  rw [hagain]

/-- Whatever a store holds, a list of identifiers becomes its evaluation order if and only if it is
a permutation of those of the rules. It makes no difference whether all rules get their places at
once or one after the other. -/
theorem reorder_sets_order (desk : Desk) (now : Timestamp) (ids : List String) :
    (ids.Perm (Rule.ids desk.store.rules) → ∃ s',
      desk.store.reorder now ids = .ok s' ∧
      (Program.reorder now ids).on desk = (.ok s'.rules, { desk with store := s' }) ∧
      desk.store.TakesOrder now ids s' ∧ ∀ now', s'.reorder now' ids = .ok s') ∧
    (¬ ids.Perm (Rule.ids desk.store.rules) →
      desk.store.reorder now ids = .error .incompleteOrder ∧
      (Program.reorder now ids).on desk = (.error .incompleteOrder, desk)) := by
  have hsame : ids.Perm (Rule.ids desk.store.rules) ↔ ids.Perm (Rule.ids desk.store.table.rules) :=
    (ids_rules_perm desk.store).congr_right ids
  have hinPlace : (Program.reorder now ids).on desk =
      desk.settle ((desk.store.reorder now ids).map fun s ↦ (s.rules, s)) :=
    Program.refines_reorder ids desk
  rw [hsame]
  constructor
  · intro hids
    have hreorder := reorder_of_perm now hids
    rw [hreorder] at hinPlace
    exact ⟨_, hreorder, hinPlace, takesOrder_of_perm now hids, reorder_reorder hreorder⟩
  · intro hids
    have hreorder := reorder_of_not_perm now hids
    rw [hreorder] at hinPlace
    exact ⟨hreorder, hinPlace⟩

/-- An order that contradicts the sequences and splits a tie; the last rule has its priority
already. -/
theorem reorder_sets_order_ranked :
    let s : Store := ⟨{}, .ofRules rankedRules, 6⟩
    (∃ s', s.reorder leapDay ["SECOND", "LOW", "FIRST"] = .ok s' ∧
      s'.rules.map (fun r ↦ (r.id, r.priority, r.updatedAt)) =
        [("SECOND", 2, leapDay), ("LOW", 1, leapDay), ("FIRST", 0, newYear)] ∧
      s.TakesOrder leapDay ["SECOND", "LOW", "FIRST"] s') ∧
    s.reorder leapDay ["SECOND", "SECOND", "FIRST"] = .error .incompleteOrder := by
  intro s
  have hperm : ["SECOND", "LOW", "FIRST"].Perm (Rule.ids s.rules) := by decide +kernel
  have hrepeats : ¬ ["SECOND", "SECOND", "FIRST"].Perm (Rule.ids s.rules) := by decide +kernel
  obtain ⟨s', hreorder, -, htakes, -⟩ := (reorder_sets_order ⟨s, 0⟩ leapDay _).1 hperm
  refine ⟨⟨s', hreorder, ?_, htakes⟩, ((reorder_sets_order ⟨s, 0⟩ leapDay _).2 hrepeats).1⟩
  cases hreorder
  decide +kernel

/-! ## Moving a rule -/

/-- An identifier is taken out of an order and put back at a place. -/
structure MovesTo (id : String) (place : Nat) (before after : List String) : Prop where
  putBack : after = (before.erase id).insertIdx place id
  atPlace : after[place]? = some id
  others : after.erase id = before.erase id
  stays : before[place]? = some id → after = before

theorem take_append_cons_drop {α : Type} {xs : List α} {n : Nat} (h : n ≤ xs.length) (a : α) :
    xs.take n ++ a :: xs.drop n = xs.insertIdx n a := by
  induction xs generalizing n with
  | nil =>
    cases Nat.le_zero.mp h
    rfl
  | cons x rest ih =>
    cases n with
    | zero => rfl
    | succ n =>
      rw [List.take_succ_cons, List.drop_succ_cons, List.insertIdx_succ_cons, List.cons_append,
        ih (Nat.le_of_succ_le_succ h)]

variable {id : String} {order : List String}

/-- The place in an order of that length that a whole number stands for. -/
def placeWithin (length : Nat) (place : Int) : Nat := (min (max place 0) ((length : Int) - 1)).toNat

theorem moved_eq_insertIdx (hid : id ∈ order) (place : Int) :
    moved id place order = (order.erase id).insertIdx (placeWithin order.length place) id := by
  have hlength : (order.erase id).length = order.length - 1 := List.length_erase_of_mem hid
  have hplace : placeWithin order.length place = min place.toNat (order.erase id).length := by
    rw [placeWithin, hlength]
    omega
  calc moved id place order
      = (order.erase id).take (min place.toNat (order.erase id).length) ++
          id :: (order.erase id).drop (min place.toNat (order.erase id).length) := by
        rw [← List.take_eq_take_min, ← List.drop_eq_drop_min]
        rfl
    _ = (order.erase id).insertIdx (min place.toNat (order.erase id).length) id :=
        take_append_cons_drop (Nat.min_le_right _ _) id
    _ = (order.erase id).insertIdx (placeWithin order.length place) id := by rw [hplace]

theorem movesTo_insertIdx {place : Nat} (hid : id ∈ order) (hdistinct : order.Nodup)
    (hplace : place < order.length) :
    MovesTo id place order ((order.erase id).insertIdx place id) := by
  have hle : place ≤ (order.erase id).length := by
    rw [List.length_erase_of_mem hid]
    omega
  refine ⟨rfl, ?_, ?_, ?_⟩
  · rw [List.getElem?_insertIdx_self, if_pos hle]
  · have hout : id ∉ (order.erase id).take place := fun hmem ↦
      hdistinct.not_mem_erase (List.mem_of_mem_take hmem)
    rw [← take_append_cons_drop hle, List.erase_append_right _ hout, List.erase_cons_head,
      List.take_append_drop]
  · intro hhere
    obtain ⟨-, rfl⟩ := List.getElem?_eq_some_iff.mp hhere
    rw [List.erase_eq_eraseIdx_of_idxOf (hdistinct.idxOf_getElem place hplace)]
    exact List.insertIdx_eraseIdx_getElem hplace

theorem moved_perm (hid : id ∈ order) (place : Int) : (moved id place order).Perm order :=
  calc (moved id place order).Perm
        (id :: ((order.erase id).take place.toNat ++ (order.erase id).drop place.toNat)) :=
        List.perm_middle
    _ = id :: order.erase id := by rw [List.take_append_drop]
    List.Perm _ order := (List.perm_cons_erase hid).symm

theorem move_eq_reorder (hr : r ∈ s.table.rules) (now : Timestamp) (place : Int) :
    s.move now r.id place = s.reorder now (moved r.id place (Rule.ids s.rules)) := by
  rw [move, get_eq_ok_iff.mpr ⟨hr, rfl⟩]
  rfl

/-- A rule of a store is moved to a place without fail, however far beyond the ends the place is. It
is taken out of the evaluation order and put back there, and no two other rules change sides. -/
theorem move_puts_back (desk : Desk) (now : Timestamp) {id : String} (place : Int)
    (hid : id ∈ Rule.ids desk.store.rules) :
    let before := Rule.ids desk.store.rules
    ∃ s', desk.store.move now id place = .ok s' ∧
      (Program.move now id place).on desk = (.ok s'.rules, { desk with store := s' }) ∧
      MovesTo id (placeWithin before.length place) before (Rule.ids s'.rules) ∧
      desk.store.TakesOrder now (Rule.ids s'.rules) s' := by
  intro before
  obtain ⟨r, hr, rfl⟩ := List.mem_map.mp hid
  have hids : (moved r.id place before).Perm (Rule.ids desk.store.table.rules) :=
    (moved_perm hid place).trans (ids_rules_perm desk.store)
  have hmove := (move_eq_reorder (mem_rules.mp hr) now place).trans (reorder_of_perm now hids)
  have htakes := takesOrder_of_perm now hids
  have hinPlace : (Program.move now r.id place).on desk =
      desk.settle ((desk.store.move now r.id place).map fun s ↦ (s.rules, s)) :=
    Program.refines_move r.id place desk
  have hplace : placeWithin before.length place < before.length := by
    have hpos : 0 < before.length := List.length_pos_of_mem hid
    rw [placeWithin]
    omega
  rw [hmove] at hinPlace
  refine ⟨_, hmove, hinPlace, ?_, ?_⟩
  · rw [htakes.order, moved_eq_insertIdx hid]
    exact movesTo_insertIdx hid desk.store.nodup_ids_rules hplace
  · rw [htakes.order]
    exact htakes

/-- Of two rules that tie the first is moved beyond the end, the lowest rule in front of them, and
the second to where it is. -/
theorem move_puts_back_tied :
    let s : Store := ⟨{}, .ofRules rankedRules, 6⟩
    Rule.ids s.rules = ["FIRST", "SECOND", "LOW"] ∧
    (∃ s', s.move leapDay "FIRST" 99 = .ok s' ∧
      Rule.ids s'.rules = ["SECOND", "LOW", "FIRST"]) ∧
    (∃ s', s.move leapDay "LOW" (-7) = .ok s' ∧
      Rule.ids s'.rules = ["LOW", "FIRST", "SECOND"]) ∧
    ∃ s', s.move leapDay "SECOND" 1 = .ok s' ∧
      Rule.ids s'.rules = ["FIRST", "SECOND", "LOW"] := by
  intro s
  have hids : Rule.ids s.rules = ["FIRST", "SECOND", "LOW"] := by decide +kernel
  have hmoved (id : String) (place : Int) (hid : id ∈ Rule.ids s.rules) :
      ∃ s', s.move leapDay id place = .ok s' ∧
        MovesTo id (placeWithin (Rule.ids s.rules).length place) (Rule.ids s.rules)
          (Rule.ids s'.rules) := by
    obtain ⟨s', hmove, -, hmoves, -⟩ := move_puts_back ⟨s, 0⟩ leapDay place hid
    exact ⟨s', hmove, hmoves⟩
  rw [hids] at hmoved ⊢
  obtain ⟨last, hlast, hlastMoves⟩ := hmoved "FIRST" 99 (by decide)
  obtain ⟨first, hfirst, hfirstMoves⟩ := hmoved "LOW" (-7) (by decide)
  obtain ⟨same, hsame, hsameMoves⟩ := hmoved "SECOND" 1 (by decide)
  exact ⟨rfl, ⟨last, hlast, hlastMoves.putBack⟩, ⟨first, hfirst, hfirstMoves.putBack⟩,
    same, hsame, hsameMoves.stays rfl⟩

end Store

end ReceiptRules
