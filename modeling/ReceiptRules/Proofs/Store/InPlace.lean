import ReceiptRules.Proofs.Store.Validated
import ReceiptRules.Store.InPlace

/-!
# Operations in place write all or nothing

A program that writes as it goes could leave a store half changed. No operation does: what may fail
comes before the first write, and the rules that a new order looks up between its writes are all
there once the order has been found to name each of them. So an operation in place comes to the same
as the one that gives a new store or fails.
-/

namespace ReceiptRules

variable {α β : Type} {desk desk' : Desk} {now : Timestamp}

/-! ## The places of an order one by one -/

/-- The rule with a priority, and with the moment if that is a new one. -/
def Rule.ranked (now : Timestamp) (priority : Int) (r : Rule) : Rule :=
  if r.priority = priority then r else { r with priority, updatedAt := now }

theorem Rule.id_ranked (now : Timestamp) (priority : Int) (r : Rule) :
    (r.ranked now priority).id = r.id := by
  rw [ranked]
  split <;> rfl

namespace Store

variable {id : String} {rest : List String} {r : Rule}

theorem placedIn_of_notMem {ids : List String} (h : r.id ∉ ids) : placedIn now ids r = r := by
  rw [placedIn, List.idxOf?_eq_none_iff.mpr h]

/-- The first of an order has as many rules behind it as its priority says. -/
theorem placedIn_cons_self (hid : r.id = id) :
    placedIn now (id :: rest) r = r.ranked now rest.length := by
  have hpriority : priorityAt (id :: rest) 0 = rest.length := by
    rw [priorityAt, List.length_cons]
    omega
  rw [placedIn, List.idxOf?_cons, if_pos (beq_iff_eq.mpr hid.symm), ← hpriority]
  rfl

theorem placedIn_cons_of_ne (hid : r.id ≠ id) :
    placedIn now (id :: rest) r = placedIn now rest r := by
  rw [placedIn, List.idxOf?_cons, if_neg (fun heq ↦ hid (beq_iff_eq.mp heq).symm), placedIn]
  cases rest.idxOf? r.id with
  | none => rfl
  | some place =>
    have hpriority : priorityAt (id :: rest) (place + 1) = priorityAt rest place := by
      rw [priorityAt, priorityAt, List.length_cons]
      omega
    dsimp only [Option.map_some]
    rw [hpriority]

/-- Giving the first rule its priority and then the others theirs is giving all of them theirs. -/
theorem modify_put_ranked {t : Rule.Table} (hr : r ∈ t.rules) (hrest : r.id ∉ rest) :
    (t.put (r.ranked now rest.length)).modify (placedIn now rest) =
      t.modify (placedIn now (r.id :: rest)) := by
  have hid : (r.ranked now rest.length).id = r.id := r.id_ranked now rest.length
  apply Rule.Table.eq_of_rules
  refine Rule.map_replaceIn_eq t.distinct hr hid.symm ?_ ?_
  · rw [placedIn_of_notMem (hid.symm ▸ hrest), placedIn_cons_self rfl, hid]
  · intro x hx
    rw [placedIn_cons_of_ne (hid ▸ hx)]

end Store

def Desk.withTable (desk : Desk) (table : Rule.Table) : Desk :=
  { desk with store := { desk.store with table } }

/-- What an operation on its store makes of a desk. A failure leaves the desk as it is. -/
def Desk.settle (desk : Desk) : Except Failure (α × Store) → Except Failure α × Desk
  | .ok (a, store) => (.ok a, { desk with store })
  | .error e => (.error e, desk)

namespace Program

/-! ## What the steps do -/

theorem on_pure (a : α) (desk : Desk) : (pure a : Program α).on desk = (.ok a, desk) := rfl

theorem on_bind (p : Program α) (k : α → Program β) (desk : Desk) :
    (p >>= k).on desk = match p.on desk with
      | (.ok a, desk) => (k a).on desk
      | (.error e, desk) => (.error e, desk) := by
  rw [on, on, ExceptT.run_bind, StateT.run_bind, Id.run_bind]
  generalize (p.run.run desk).run = outcome
  obtain ⟨result, desk⟩ := outcome
  cases result <;> rfl

theorem on_map (p : Program α) (g : α → β) (desk : Desk) :
    (g <$> p).on desk = ((p.on desk).1.map g, (p.on desk).2) := by
  rw [map_eq_pure_bind, on_bind]
  generalize p.on desk = outcome
  obtain ⟨result, desk⟩ := outcome
  cases result <;> rfl

theorem on_look (f : Store → Except Failure α) (desk : Desk) :
    (look f).on desk = (f desk.store, desk) := by
  rw [look, on_bind]
  change (liftExcept (f desk.store) : Program α).on desk = _
  cases f desk.store <;> rfl

theorem on_write (r : Rule) (desk : Desk) :
    (write r).on desk = (.ok (), desk.withTable (desk.store.table.put r)) := rfl

/-- Writing a rule a second time is writing the second one. -/
theorem on_write_write {r r' : Rule} (h : r'.id = r.id) (desk : Desk) :
    (do write r'; write r : Program Unit).on desk = (write r).on desk := by
  rw [on_bind, on_write]
  change (write r).on (desk.withTable (desk.store.table.put r')) = _
  rw [on_write, on_write, Desk.withTable, Desk.withTable, Desk.withTable, Rule.Table.put_put h]

theorem on_rank {r : Rule} (hr : r ∈ desk.store.table.rules) (priority : Int) :
    (rank now r.id priority).on desk =
      (.ok (), desk.withTable (desk.store.table.put (r.ranked now priority))) := by
  have hget : desk.store.get r.id = .ok r := Store.get_eq_ok_iff.mpr ⟨hr, rfl⟩
  rw [rank, on_bind, on_look, hget]
  dsimp only
  rw [Rule.ranked]
  split
  · rw [Rule.Table.put_of_mem hr]
    rfl
  · rw [on_write_write (by rfl)]
    rfl

/-- The rules are there, so none is looked up in vain and all get their place. -/
theorem on_renumber {ids : List String} (hdistinct : ids.Nodup)
    (hids : ids ⊆ Rule.ids desk.store.table.rules) :
    (renumber now ids).on desk =
      (.ok (), desk.withTable (desk.store.table.modify (Store.placedIn now ids))) := by
  induction ids generalizing desk with
  | nil =>
    have hsame : desk.store.table.modify (Store.placedIn now []) = desk.store.table :=
      Rule.Table.eq_of_rules (List.map_id _)
    rw [renumber, on_pure, hsame]
    rfl
  | cons id rest ih =>
    obtain ⟨hid, hrest⟩ := List.nodup_cons.mp hdistinct
    obtain ⟨hmem, hsubset⟩ := List.cons_subset.mp hids
    obtain ⟨r, hr, rfl⟩ := List.mem_map.mp hmem
    have hthere : rest ⊆ Rule.ids (desk.store.table.put (r.ranked now rest.length)).rules :=
      fun id hid ↦ Rule.Table.mem_ids_put.mpr (.inl (hsubset hid))
    rw [renumber, on_bind, on_rank hr]
    dsimp only
    rw [ih hrest hthere, ← Store.modify_put_ranked hr hid]
    rfl

/-- Nothing but the check of an order keeps an identifier without a rule away from the writes: the
rule in front of it would have its new priority. -/
example : (renumber Store.newYear ["TAXI", "GONE"]).on ⟨Store.taxiStore, 0⟩ =
    (.error (.unknownRule "GONE"),
      ⟨{ Store.taxiStore with
        table := ⟨[{ Store.taxiRule with sequence := 1, priority := 1 }], by simp⟩ }, 0⟩) := rfl

/-! ## Operations on the store -/

/-- The program comes to the same as an operation that gives a new store or fails. -/
def Refines (p : Program α) (op : Store → Except Failure (α × Store)) : Prop :=
  ∀ desk, p.on desk = desk.settle (op desk.store)

theorem Refines.eq_of_error {p : Program α} {op : Store → Except Failure (α × Store)}
    (h : p.Refines op) {e : Failure} (herror : p.on desk = (.error e, desk')) : desk' = desk := by
  rw [h desk] at herror
  cases hop : op desk.store with
  | ok result =>
    rw [hop] at herror
    cases herror
  | error e =>
    rw [hop] at herror
    cases herror
    rfl

theorem Refines.map {p : Program α} {op : Store → Except Failure (α × Store)} (h : p.Refines op)
    (g : α → β) : (g <$> p).Refines fun s ↦ (op s).map fun (a, s) ↦ (g a, s) := by
  intro desk
  rw [on_map, h desk]
  dsimp only
  cases op desk.store <;> rfl

/-- An operation that only gives a store is answered with something about this store. -/
theorem Refines.map_after {p : Program α} {op : Store → Except Failure Store} {f : Store → α}
    (h : p.Refines fun s ↦ (op s).map fun s ↦ (f s, s)) (g : α → β) :
    (g <$> p).Refines fun s ↦ (op s).map fun s ↦ (g (f s), s) := by
  intro desk
  rw [on_map, h desk]
  dsimp only
  cases op desk.store <;> rfl

theorem refines_look (f : Store → Except Failure α) :
    (look f).Refines fun s ↦ (f s).map fun a ↦ (a, s) := by
  intro desk
  rw [on_look]
  dsimp only
  cases f desk.store <;> rfl

/-- What is only looked up comes to the same on both sides. -/
theorem Refines.look_bind {f : Store → Except Failure α} {k : α → Program β}
    {op : α → Store → Except Failure (β × Store)} (h : ∀ a, (k a).Refines (op a)) :
    (look f >>= k).Refines fun s ↦ f s >>= fun a ↦ op a s := by
  intro desk
  rw [on_bind, on_look]
  dsimp only
  cases f desk.store with
  | error e => rfl
  | ok a => exact h a desk

theorem refines_update (r : Rule) : (update now r).Refines fun s ↦ s.update now r := by
  apply Refines.look_bind
  intro current
  apply Refines.look_bind
  intro _ desk
  rfl

theorem refines_setEnabled (id : String) (enabled : Bool) :
    (setEnabled now id enabled).Refines fun s ↦ s.setEnabled now id enabled := by
  apply Refines.look_bind
  intro r desk
  rw [← bind_assoc, on_bind, on_write_write (by rfl)]
  rfl

theorem refines_toggle (id : String) : (toggle now id).Refines fun s ↦ s.toggle now id := by
  apply Refines.look_bind
  intro r
  exact refines_setEnabled id !r.enabled

theorem refines_delete (id : String) :
    (delete id).Refines fun s ↦ (s.delete id).map fun s ↦ ((), s) := by
  intro desk
  rw [delete, on_bind, on_look]
  dsimp only
  rw [Store.delete]
  cases desk.store.get id with
  | error e => rfl
  | ok r =>
    dsimp only [bind, Except.bind]
    split <;> rfl

theorem refines_reorder (ids : List String) :
    (reorder now ids).Refines fun s ↦ (s.reorder now ids).map fun s ↦ (s.rules, s) := by
  intro desk
  rw [reorder, on_bind, on_look]
  dsimp only
  rw [Store.reorder]
  split
  · next hperm =>
    have hids : ids.Perm (Rule.ids desk.store.table.rules) := List.isPerm_iff.mp hperm
    have hdistinct : ids.Nodup := hids.nodup_iff.mpr desk.store.table.distinct
    rw [on_bind, on_renumber hdistinct hids.subset]
    dsimp only
    rw [on_look]
    rfl
  · rfl

theorem refines_move (id : String) (place : Int) :
    (move now id place).Refines fun s ↦ (s.move now id place).map fun s ↦ (s.rules, s) := by
  intro desk
  rw [move, on_bind, on_look]
  dsimp only
  rw [Store.move]
  cases desk.store.get id with
  | error e => rfl
  | ok r =>
    dsimp only
    rw [on_bind, on_look]
    exact refines_reorder _ desk

/-- Adding a rule in place uses up an identifier just as adding it does. -/
theorem on_add (r : Rule) (desk : Desk) : (add now r).on desk = desk.add now r := by
  rw [add, on_bind, on_look, Desk.add]
  cases r.check desk.store.settings with
  | error e => rfl
  | ok _ =>
    have hidentify : (modifyGet fun desk ↦ desk.identify r : Program String).on desk =
        (.ok (desk.identify r).1, (desk.identify r).2) := rfl
    dsimp only
    rw [on_bind, hidentify]
    generalize desk.identify r = identified
    obtain ⟨id, desk⟩ := identified
    dsimp only
    rw [on_bind, on_look, Store.insert]
    dsimp only
    split <;> rfl

end Program

/-! ## Calls -/

namespace Call

open Program

/-- Whatever a call changes of a store, it comes to the same as the request. -/
theorem refines_program {c : Call} {change : Change} (h : c.request = .change change) :
    (c.program now).Refines fun s ↦ s.change now change := by
  cases c with
  | add r => cases h
  | get id => cases h
  | update r =>
    cases h
    exact (refines_update r).map Reply.rule
  | delete id =>
    cases h
    exact (refines_delete id).map_after fun _ ↦ Reply.done
  | setEnabled id enabled =>
    cases h
    exact (refines_setEnabled id enabled).map Reply.rule
  | toggle id =>
    cases h
    exact (refines_toggle id).map Reply.rule
  | reorder ids =>
    cases h
    exact (refines_reorder ids).map_after Reply.rules
  | move id place =>
    cases h
    exact (refines_move id place).map_after Reply.rules

theorem perform_request (office : Office) (now : Timestamp) (c : Call) :
    office.perform now c.request = (((c.program now).on office.desk).1,
      { office with desk := ((c.program now).on office.desk).2 }) := by
  have hchange {change : Change} (h : c.request = .change change) :
      office.perform now c.request = (((c.program now).on office.desk).1,
        { office with desk := ((c.program now).on office.desk).2 }) := by
    rw [h, refines_program h office.desk, Office.perform, Office.store]
    dsimp only
    cases office.desk.store.change now change <;> rfl
  cases c with
  | add r =>
    rw [program, on_map, on_add]
    rfl
  | get id =>
    rw [program, on_map, on_look]
    rfl
  | update r => exact hchange rfl
  | delete id => exact hchange rfl
  | setEnabled id enabled => exact hchange rfl
  | toggle id => exact hchange rfl
  | reorder ids => exact hchange rfl
  | move id place => exact hchange rfl

theorem store_of_error {c : Call} {e : Failure}
    (h : (c.program now).on desk = (.error e, desk')) : desk'.store = desk.store := by
  have hchange {change : Change} (hc : c.request = .change change) : desk'.store = desk.store := by
    rw [(refines_program hc).eq_of_error h]
  cases c with
  | add r =>
    rw [program, on_map, on_add] at h
    rcases desk.add_cases now r with ⟨-, -, hadd⟩ | ⟨-, -, -, hsame⟩
    · rw [hadd] at h
      cases h
    · have hdesk : (desk.add now r).2 = desk' := congrArg Prod.snd h
      rw [← hdesk, hsame]
  | get id => rw [((refines_look _).map _).eq_of_error h]
  | update r => exact hchange rfl
  | delete id => exact hchange rfl
  | setEnabled id enabled => exact hchange rfl
  | toggle id => exact hchange rfl
  | reorder ids => exact hchange rfl
  | move id place => exact hchange rfl

theorem add_eq_error_iff {r : Rule} :
    (∃ e desk', ((add r).program now).on desk = (.error e, desk')) ↔
      r.problems desk.store.settings ≠ .ok [] ∨
        desk.store.contains (desk.identify r).1 = true := by
  have hcontains : desk.store.contains (desk.identify r).1 = true ↔
      (desk.identify r).1 ∈ Rule.ids desk.store.table.rules := Rule.Table.contains_iff
  rw [hcontains, program, on_map, on_add]
  rcases desk.add_cases now r with ⟨hcheck, hnew, hadd⟩ | ⟨hrefused, e, herror, -⟩
  · rw [hadd]
    constructor
    · rintro ⟨e, desk', h⟩
      cases h
    · rintro (hproblems | hmem)
      · exact absurd hcheck hproblems
      · exact absurd hmem hnew
  · rw [herror]
    exact iff_of_true ⟨e, _, rfl⟩ hrefused

/-- In whatever state an office is, a call that writes in place gives the same reply and leaves the
same desk as the request. If it fails, the store is as it was, with all its rules, their order and
the next sequence number. Adding a rule fails if and only if there is something wrong with the rule
or its identifier is taken. -/
theorem atomic (office : Office) (now : Timestamp) :
    (∀ c : Call, office.perform now c.request = (((c.program now).on office.desk).1,
      { office with desk := ((c.program now).on office.desk).2 })) ∧
    (∀ (c : Call) (e : Failure) (desk' : Desk),
      (c.program now).on office.desk = (.error e, desk') → desk'.store = office.store) ∧
    ∀ r : Rule, (∃ e desk', ((add r).program now).on office.desk = (.error e, desk')) ↔
      r.problems office.store.settings ≠ .ok [] ∨
        office.store.contains (office.desk.identify r).1 = true :=
  ⟨perform_request office now, fun _ _ _ ↦ store_of_error, fun _ ↦ add_eq_error_iff⟩

/-- An order that repeats one rule, and a rule whose identifier is taken. -/
theorem atomic_taxi :
    let office : Office := ⟨⟨Store.taxiStore, 0⟩, none, none⟩
    (∃ desk', ((reorder ["TAXI", "TAXI"]).program Store.newYear).on office.desk =
      (.error .incompleteOrder, desk') ∧ desk'.store = Store.taxiStore) ∧
    ∃ desk', ((add Store.taxiRule).program Store.newYear).on office.desk =
      (.error (.duplicateRule "TAXI"), desk') ∧ desk'.store = Store.taxiStore := by
  intro office
  obtain ⟨-, hunchanged, -⟩ := atomic office Store.newYear
  exact ⟨⟨_, rfl, hunchanged (reorder ["TAXI", "TAXI"]) _ _ rfl⟩,
    _, rfl, hunchanged (add Store.taxiRule) _ _ rfl⟩

end Call

end ReceiptRules
