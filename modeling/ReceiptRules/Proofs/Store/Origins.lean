import Mathlib.Data.List.Infix
import ReceiptRules.Proofs.Store.Validated
import ReceiptRules.Proofs.Timestamp.Reading

/-!
# What a store never changes about its rules

Identifier, sequence, moment of origin and whether it belongs to the system are settled when a rule
is stored. As long as there is a rule with its identifier they stay what they are, and a rule that
belongs to the system is there for good. This holds from any store on, one that was read from
outside included, until a document or a list of rules takes the place of the store.

As long as the clock does not go back, no rule is changed before it was made or after the present
moment. A document from outside may say otherwise of its rules.
-/

namespace ReceiptRules

/-- What is settled about a rule when it is stored. -/
structure Origin where
  id : String
  sequence : Int
  createdAt : Timestamp
  isSystemRule : Bool

def Rule.origin (r : Rule) : Origin := ⟨r.id, r.sequence, r.createdAt, r.isSystemRule⟩

/-- A request that puts nothing else in the place of the store. -/
def Request.IsLasting (q : Request) : Prop := q.IsOwn ∧ ∀ rules, q ≠ .startOver rules

namespace Store

variable {s s' : Store} {now : Timestamp} {r : Rule}

def origins (s : Store) : List Origin := s.table.rules.map Rule.origin

/-- Rules that belong to the system and rules whose identifier is still there keep their origin. -/
def Keeps (s s' : Store) : Prop :=
  ∀ r ∈ s.table.rules, r.isSystemRule = true ∨ r.id ∈ Rule.ids s'.table.rules →
    ∃ r' ∈ s'.table.rules, r'.origin = r.origin

theorem keeps_of_subset (h : s.origins ⊆ s'.origins) : s.Keeps s' :=
  fun _ hr _ ↦ List.mem_map.mp (h (List.mem_map_of_mem hr))

theorem keeps_of_eq (h : s'.origins = s.origins) : s.Keeps s' :=
  keeps_of_subset (h ▸ List.Subset.refl _)

/-! ## Single changes -/

theorem origins_of_put {current : Rule} (hcurrent : current ∈ s.table.rules)
    (htable : s'.table = s.table.put r) (horigin : r.origin = current.origin) :
    s'.origins = s.origins := by
  have hid : current.id = r.id := congrArg Origin.id horigin.symm
  rw [origins, htable]
  exact Rule.map_replaceIn s.table.distinct hcurrent hid horigin

theorem origins_placedIn (s : Store) (now : Timestamp) (ids : List String) :
    (s.table.modify (placedIn now ids)).rules.map Rule.origin = s.origins := by
  rw [origins, Rule.Table.modify, List.map_map]
  apply List.map_congr_left
  intro r hr
  obtain ⟨priority, updatedAt, hplaced⟩ := exists_placedIn now ids r
  simp only [Function.comp_apply, hplaced]
  rfl

theorem keeps_erase {deleted : Rule} (hdeleted : deleted ∈ s.table.rules)
    (hsystem : deleted.isSystemRule = false) (htable : s'.table = s.table.erase deleted.id) :
    s.Keeps s' := by
  intro r hr hstays
  rw [htable] at hstays ⊢
  have hne : r.id ≠ deleted.id := by
    intro heq
    rcases hstays with hsys | hmem
    · -- The deleted rule is the only one with its identifier.
      have hsame : r = deleted := List.inj_on_of_nodup_map s.table.distinct hr hdeleted heq
      rw [hsame, hsystem] at hsys
      cases hsys
    · obtain ⟨x, hx, hid⟩ := List.mem_map.mp hmem
      exact (Rule.Table.mem_erase.mp hx).2 (hid.trans heq)
  exact ⟨r, Rule.Table.mem_erase.mpr ⟨hr, hne⟩, rfl⟩

theorem keeps_of_change {c : Change} {reply : Reply} (hc : ∀ payload, c ≠ .load payload)
    (h : s.change now c = .ok (reply, s')) : s.Keeps s' := by
  cases changed_of_change h with
  | update current r hcurrent hid hcheck =>
    have horigin : Rule.origin { r with
        sequence := current.sequence
        createdAt := current.createdAt
        isSystemRule := current.isSystemRule
        updatedAt := now } = current.origin := by
      rw [Rule.origin, Rule.origin, hid]
    exact keeps_of_eq (origins_of_put hcurrent rfl horigin)
  | delete r hr hsystem => exact keeps_erase hr hsystem rfl
  | setEnabled r enabled hr => exact keeps_of_eq (origins_of_put hr rfl rfl)
  | toggle r hr => exact keeps_of_eq (origins_of_put hr rfl rfl)
  | reorder ids hids => exact keeps_of_eq (s.origins_placedIn now ids)
  | move r place ids hr hplace hids => exact keeps_of_eq (s.origins_placedIn now ids)
  | reload hwritable => exact keeps_of_subset ((table_copy_perm s).map Rule.origin).symm.subset
  | load payload s' hload => exact absurd rfl (hc payload)

end Store

/-! ## Requests -/

theorem Desk.origins_subset_add (desk : Desk) (now : Timestamp) (r : Rule) :
    desk.store.origins ⊆ (desk.add now r).2.store.origins := by
  rcases desk.add_cases now r with ⟨-, hnew, hadd⟩ | ⟨-, e, -, hsame⟩
  · rw [hadd, Store.origins, Store.origins]
    dsimp only
    rw [Rule.Table.rules_put_of_notMem (by exact hnew), List.map_append]
    exact List.subset_append_left _ _
  · rw [hsame]
    exact List.Subset.refl _

theorem Desk.origins_subset_seedFrom (desk : Desk) (now : Timestamp) (templates : List Template) :
    desk.store.origins ⊆ (Registry.seedFrom now templates desk).2.store.origins :=
  Registry.rel_seedFrom (R := fun s s' ↦ s.origins ⊆ s'.origins) (fun _ ↦ List.Subset.refl _)
    List.Subset.trans (fun desk r ↦ desk.origins_subset_add now r) templates desk

namespace Office

theorem keeps_perform (office : Office) (now : Timestamp) {q : Request} (hq : q.IsLasting) :
    office.store.Keeps (office.perform now q).2.store := by
  have hrefl : office.store.Keeps office.store := Store.keeps_of_subset (List.Subset.refl _)
  cases q with
  | ask q => exact hrefl
  | change c =>
    have hc : ∀ payload, c ≠ .load payload := by
      rintro payload rfl
      exact hq.1 payload rfl
    rw [perform]
    split
    · next reply store hchange => exact Store.keeps_of_change hc hchange
    · exact hrefl
  | add r => exact Store.keeps_of_subset (office.desk.origins_subset_add now r)
  | startOver rules => exact absurd rfl (hq.2 rules)
  | seed g => exact Store.keeps_of_subset (office.desk.origins_subset_seedFrom now g.templates)
  | classify receipt occasion => exact hrefl
  | keep => exact hrefl
  | run receipts occasion =>
    rw [perform]
    split
    · exact hrefl
    · rw [store_runBatch]
      exact hrefl

/-- A rule is there after all requests with its origin if it belongs to the system or its
identifier was there all the time. -/
theorem exists_origin_after {office : Office} {requests : List (Timestamp × Request)}
    (hlasting : ∀ entry ∈ requests, entry.2.IsLasting) {r : Rule}
    (hr : r ∈ office.store.table.rules)
    (hstays : r.isSystemRule = true ∨ ∀ earlier, earlier <+: requests →
      r.id ∈ Rule.ids (office.after earlier).store.table.rules) :
    ∃ r' ∈ (office.after requests).store.table.rules, r'.origin = r.origin := by
  induction requests generalizing office r with
  | nil => exact ⟨r, hr, rfl⟩
  | cons entry rest ih =>
    obtain ⟨now, q⟩ := entry
    obtain ⟨hq, hrest⟩ := List.forall_mem_cons.mp hlasting
    have hnext : r.isSystemRule = true ∨
        r.id ∈ Rule.ids (office.perform now q).2.store.table.rules :=
      hstays.imp_right fun hids ↦ hids [(now, q)] (List.prefix_append [(now, q)] rest)
    obtain ⟨x, hx, horigin⟩ := office.keeps_perform now hq r hr hnext
    have hid : x.id = r.id := congrArg Origin.id horigin
    have hsystem : x.isSystemRule = r.isSystemRule := congrArg Origin.isSystemRule horigin
    obtain ⟨r', hr', horigin'⟩ := ih hrest hx (by
      rw [hid, hsystem]
      exact hstays.imp_right fun hids earlier hearlier ↦
        hids ((now, q) :: earlier) (List.cons_prefix_cons.mpr ⟨rfl, hearlier⟩))
    exact ⟨r', hr', horigin'.trans horigin⟩

end Office

/-! ## Moments -/

/-- The rule was made before its last change, and that was not after the given moment. -/
structure Rule.IsDated (now : Timestamp) (r : Rule) : Prop where
  made : r.createdAt ≤ r.updatedAt
  changed : r.updatedAt ≤ now

theorem Rule.IsDated.made_le {now : Timestamp} {r : Rule} (h : r.IsDated now) : r.createdAt ≤ now :=
  h.made.trans h.changed

namespace Store

variable {s s' : Store} {now : Timestamp}

def IsDated (now : Timestamp) (s : Store) : Prop := ∀ r ∈ s.table.rules, r.IsDated now

theorem isDated_empty (now : Timestamp) (settings : Settings) :
    (Store.empty settings).IsDated now :=
  fun _ hr ↦ absurd hr List.not_mem_nil

/-- What a step changes carries the present moment, which is not before any moment of the store. -/
theorem IsDated.step (h : s.IsDated now) (hstep : Step now s s') : s'.IsDated now := by
  cases hstep with
  | insert id r hcheck hnew =>
    intro x hx
    rcases Rule.Table.mem_put.mp hx with rfl | ⟨hx, -⟩
    · exact ⟨le_refl now, le_refl now⟩
    · exact h x hx
  | update current r hcurrent hid hcheck =>
    intro x hx
    rcases Rule.Table.mem_put.mp hx with rfl | ⟨hx, -⟩
    · exact ⟨(h current hcurrent).made_le, le_refl now⟩
    · exact h x hx
  | setEnabled r enabled hr =>
    intro x hx
    rcases Rule.Table.mem_put.mp hx with rfl | ⟨hx, -⟩
    · exact ⟨(h r hr).made_le, le_refl now⟩
    · exact h x hx
  | delete r hr hsystem => exact fun x hx ↦ h x (Rule.Table.mem_erase.mp hx).1
  | reorder ids hids =>
    intro x hx
    obtain ⟨r, hr, rfl⟩ := Rule.Table.mem_modify.mp hx
    rcases placedIn_cases now ids r with hplaced | ⟨priority, hplaced⟩
    · rw [hplaced]
      exact h r hr
    · rw [hplaced]
      exact ⟨(h r hr).made_le, le_refl now⟩
  | reload hwritable => exact fun x hx ↦ h x (mem_rules.mp hx)
  | startOver => exact isDated_empty now s.settings

end Store

/-- Requests up to the present moment, along which the clock does not go back. -/
def IsTimely (requests : List (Timestamp × Request)) (now : Timestamp) : Prop :=
  (requests.map Prod.fst ++ [now]).Pairwise (· ≤ ·)

theorem isTimely_cons {t now : Timestamp} {q : Request} {rest : List (Timestamp × Request)} :
    IsTimely ((t, q) :: rest) now ↔
      (∀ t' ∈ rest.map Prod.fst ++ [now], t ≤ t') ∧ IsTimely rest now :=
  List.pairwise_cons

theorem Office.isDated_after {office : Office} {requests : List (Timestamp × Request)}
    {now : Timestamp} (hown : ∀ entry ∈ requests, entry.2.IsOwn) (htimely : IsTimely requests now)
    (h : ∀ t ∈ requests.map Prod.fst ++ [now], office.store.IsDated t) :
    (office.after requests).store.IsDated now := by
  induction requests generalizing office with
  | nil => exact h now (List.mem_singleton_self now)
  | cons entry rest ih =>
    obtain ⟨t, q⟩ := entry
    obtain ⟨hq, hrest⟩ := List.forall_mem_cons.mp hown
    obtain ⟨hlater, htimely⟩ := isTimely_cons.mp htimely
    have hnow : office.store.IsDated t := h t List.mem_cons_self
    have hnext : (office.perform t q).2.store.IsDated t := by
      rcases office.leads_perform t q with hleads | ⟨payload, rfl, -⟩
      · exact hleads.keeps (fun _ _ hdated hstep ↦ hdated.step hstep) hnow
      · exact absurd rfl (hq payload)
    -- Dated at a moment is dated at every later one.
    apply ih hrest htimely
    intro t' ht' r hr
    exact ⟨(hnext r hr).made, (hnext r hr).changed.trans (hlater t' ht')⟩

namespace Store

/-- From any store on, rules keep their origin: those that belong to the system whatever happens,
and every other one as long as its identifier is there. In a store that was filled by own requests
while the clock did not go back, no rule was changed before it was made or after the present. -/
theorem origins_kept :
    (∀ (office : Office) (requests : List (Timestamp × Request)),
      (∀ entry ∈ requests, entry.2.IsLasting) → ∀ r ∈ office.store.rules,
        (r.isSystemRule = true ∨ ∀ earlier, earlier <+: requests →
          (office.after earlier).store.contains r.id = true) →
        ∃ r' ∈ (office.after requests).store.rules, r'.origin = r.origin) ∧
    ∀ (settings : Settings) (counters : Option ArchiveNumber.Counters)
      (requests : List (Timestamp × Request)) (now : Timestamp),
      (∀ entry ∈ requests, entry.2.IsOwn) → IsTimely requests now →
      ∀ r ∈ ((Office.start settings counters).after requests).store.rules,
        r.createdAt ≤ r.updatedAt ∧ r.updatedAt ≤ now := by
  constructor
  · intro office requests hlasting r hr hstays
    have hstays' : r.isSystemRule = true ∨ ∀ earlier, earlier <+: requests →
        r.id ∈ Rule.ids (office.after earlier).store.table.rules :=
      hstays.imp_right fun hids earlier hearlier ↦
        Rule.Table.contains_iff.mp (hids earlier hearlier)
    obtain ⟨r', hr', horigin⟩ :=
      Office.exists_origin_after hlasting (mem_rules.mp hr) hstays'
    exact ⟨r', mem_rules.mpr hr', horigin⟩
  · intro settings counters requests now hown htimely r hr
    have hdated : ((Office.start settings counters).after requests).store.IsDated now :=
      Office.isDated_after hown htimely fun t _ ↦ isDated_empty t settings
    have hr' := hdated r (mem_rules.mp hr)
    exact ⟨hr'.made, hr'.changed⟩

def leapDay : Timestamp := .midnight ⟨2024, 2, 29, .refl true⟩

/-- A rule that files whatever is left, for good. -/
def lastResort : Rule :=
  { taxiRule with id := "REST", name := "Rest", isSystemRule := true, priority := -1 }

/-- Stores a rule of the user and one that belongs to the system. -/
def filing : List (Timestamp × Request) := [(newYear, .add taxiRule), (newYear, .add lastResort)]

/-- The taxi rule comes back under false colours, and the last resort is to be given up. -/
def tampering : List (Timestamp × Request) := [
  (leapDay, .change (.update { taxiRule with
    sequence := 99, isSystemRule := true, createdAt := leapDay, name := "Cab" })),
  (leapDay, .change (.update { lastResort with isSystemRule := false })),
  (leapDay, .change (.delete "REST")), (leapDay, .change (.reorder ["REST", "TAXI"]))]

theorem isLasting_tampering : ∀ entry ∈ tampering, entry.2.IsLasting := by
  intro entry hentry
  simp only [tampering, List.mem_cons, List.not_mem_nil, or_false] at hentry
  rcases hentry with rfl | rfl | rfl | rfl
  all_goals exact ⟨nofun, nofun⟩

theorem isOwn_filing : ∀ entry ∈ filing, entry.2.IsOwn := by
  intro entry hentry
  simp only [filing, List.mem_cons, List.not_mem_nil, or_false] at hentry
  rcases hentry with rfl | rfl
  all_goals exact nofun

theorem origins_kept_tampering :
    let office := (Office.start {} none).after filing
    let s := (office.after tampering).store
    Rule.ids s.rules = ["REST", "TAXI"] ∧
    (∃ r ∈ s.rules, r.origin = ⟨"TAXI", 1, newYear, false⟩) ∧
    (∃ r ∈ s.rules, r.origin = ⟨"REST", 2, newYear, true⟩) ∧
    ∀ r ∈ s.rules, r.createdAt ≤ r.updatedAt ∧ r.updatedAt ≤ leapDay := by
  intro office s
  have hfiled : office.store.rules =
    [{ taxiRule with sequence := 1 }, { lastResort with sequence := 2 }] := rfl
  have hthere : ∀ earlier ∈ tampering.inits,
      (office.after earlier).store.contains "TAXI" = true := by
    decide +kernel
  refine ⟨by decide +kernel, ?_, ?_, ?_⟩
  · exact origins_kept.1 office tampering isLasting_tampering _ (hfiled ▸ List.mem_cons_self)
      (.inr fun earlier hearlier ↦ hthere earlier ((List.mem_inits _ _).mpr hearlier))
  · exact origins_kept.1 office tampering isLasting_tampering _
      (hfiled ▸ List.mem_cons_of_mem _ List.mem_cons_self) (.inl rfl)
  · have hown : ∀ entry ∈ filing ++ tampering, entry.2.IsOwn := by
      intro entry hentry
      rcases List.mem_append.mp hentry with hfiling | htampering
      · exact isOwn_filing entry hfiling
      · exact (isLasting_tampering entry htampering).1
    have htimely : IsTimely (filing ++ tampering) leapDay := by
      rw [IsTimely]
      decide
    have hsame : (Office.start {} none).after (filing ++ tampering) = office.after tampering :=
      Office.after_append ..
    have hdated := origins_kept.2 {} none (filing ++ tampering) leapDay hown htimely
    rw [hsame] at hdated
    exact hdated

end Store

end ReceiptRules
