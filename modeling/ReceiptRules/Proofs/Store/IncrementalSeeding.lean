import ReceiptRules.Proofs.Store.Validated

/-!
# Filling up a store

Seeding adds the rules of a registry that a store does not have. They come in the order of
registration, belong to the system and take the next sequence numbers one after the other. No rule
that is there is touched, whatever the user has done to it, and seeding once more adds nothing.
Seeding fails exactly when a rule that is to be added has problems.
-/

namespace ReceiptRules

/-! ## Registries -/

namespace Registry

/-- Every template has an identifier, and no two have the same one. -/
structure IsProper (g : Registry) : Prop where
  distinct : g.ids.Nodup
  named : "" ∉ g.ids

theorem isProper_empty : empty.IsProper := ⟨.nil, List.not_mem_nil⟩

theorem IsProper.register {g g' : Registry} {t : Template} (h : g.IsProper)
    (hregister : g.register t = .ok g') : g'.IsProper := by
  rw [Registry.register] at hregister
  split at hregister
  · cases hregister
  · next hname =>
    split at hregister
    · cases hregister
    · next hnew =>
      cases hregister
      have hids : (⟨g.templates ++ [t]⟩ : Registry).ids = g.ids ++ [t.id] := List.map_append
      have hnotMem : t.id ∉ g.ids := fun hmem ↦ hnew (List.contains_iff_mem.mpr hmem)
      have hne : "" ≠ t.id := by
        intro hempty
        rw [← hempty] at hname
        exact hname rfl
      constructor
      · rw [hids]
        exact List.nodup_append.mpr ⟨h.distinct, List.nodup_singleton t.id, fun x hx y hy heq ↦
          hnotMem (List.mem_singleton.mp hy ▸ heq ▸ hx)⟩
      · rw [hids, List.mem_append, List.mem_singleton]
        exact not_or.mpr ⟨h.named, hne⟩

/-- The registry after templates have been registered one by one. A template that is refused leaves
it as it is. -/
def registerAll (g : Registry) : List Template → Registry
  | [] => g
  | t :: rest =>
    match g.register t with
    | .ok next => next.registerAll rest
    | .error _ => g.registerAll rest

theorem IsProper.registerAll {g : Registry} (h : g.IsProper) (templates : List Template) :
    (g.registerAll templates).IsProper := by
  induction templates generalizing g with
  | nil => exact h
  | cons t rest ih =>
    rw [Registry.registerAll]
    split
    · next next hregister => exact ih (h.register hregister)
    · exact ih h

end Registry

/-! ## Adding the rules that are missing -/

namespace Store

variable {s : Store} {id : String}

theorem contains_iff : s.contains id = true ↔ id ∈ Rule.ids s.table.rules :=
  Rule.Table.contains_iff

theorem contains_eq_false_iff : s.contains id = false ↔ id ∉ Rule.ids s.table.rules := by
  rw [← contains_iff, Bool.not_eq_true]

end Store

namespace Template

/-- The rule of a template as it is stored under a sequence number. -/
def numbered (now : Timestamp) (sequence : Int) (t : Template) : Rule :=
  { t.rule now with sequence, createdAt := now, updatedAt := now }

/-- The rules of templates as they are stored one after the other. -/
def numberedFrom (now : Timestamp) : Int → List Template → List Rule
  | _, [] => []
  | sequence, t :: rest => t.numbered now sequence :: numberedFrom now (sequence + 1) rest

variable (now : Timestamp) (sequence : Int) (templates : List Template)

theorem ids_numberedFrom : Rule.ids (numberedFrom now sequence templates) = templates.map id := by
  induction templates generalizing sequence with
  | nil => rfl
  | cons t rest ih => rw [numberedFrom, Rule.ids_cons, ih, List.map_cons]; rfl

theorem sequences_numberedFrom :
    (numberedFrom now sequence templates).map (fun r ↦ r.sequence) =
      (List.range templates.length).map fun k : Nat ↦ sequence + k := by
  induction templates generalizing sequence with
  | nil => rfl
  | cons t rest ih =>
    rw [numberedFrom, List.map_cons, ih, List.length_cons, List.range_succ_eq_map, List.map_cons,
      List.map_map]
    congr 1
    · exact (Int.add_zero sequence).symm
    · apply List.map_congr_left
      intro k _
      simp only [Function.comp_apply, Nat.succ_eq_add_one]
      omega

theorem length_numberedFrom : (numberedFrom now sequence templates).length = templates.length := by
  have hids := congrArg List.length (ids_numberedFrom now sequence templates)
  rwa [Rule.ids, List.length_map, List.length_map] at hids

theorem isSystemRule_of_mem_numberedFrom {r : Rule}
    (h : r ∈ numberedFrom now sequence templates) : r.isSystemRule = true := by
  induction templates generalizing sequence with
  | nil => cases h
  | cons t rest ih =>
    rcases List.mem_cons.mp h with rfl | hrest
    · rfl
    · exact ih (sequence + 1) hrest

end Template

namespace Desk

/-- The desk when it has stored the rule of a template. -/
def gain (now : Timestamp) (desk : Desk) (t : Template) : Desk :=
  { desk with store := { desk.store with
      table := desk.store.table.put (t.numbered now desk.store.nextSequence)
      nextSequence := desk.store.nextSequence + 1 } }

def gainAll (now : Timestamp) (desk : Desk) (templates : List Template) : Desk :=
  templates.foldl (gain now) desk

variable {now : Timestamp} {desk : Desk} {t : Template} {templates : List Template}

theorem settings_gainAll :
    (desk.gainAll now templates).store.settings = desk.store.settings := by
  induction templates generalizing desk with
  | nil => rfl
  | cons t rest ih => exact ih

theorem drawn_gainAll : (desk.gainAll now templates).drawn = desk.drawn := by
  induction templates generalizing desk with
  | nil => rfl
  | cons t rest ih => exact ih

theorem nextSequence_gainAll : (desk.gainAll now templates).store.nextSequence =
    desk.store.nextSequence + templates.length := by
  induction templates generalizing desk with
  | nil => exact (Int.add_zero _).symm
  | cons t rest ih =>
    have hrest : (desk.gainAll now (t :: rest)).store.nextSequence =
        desk.store.nextSequence + 1 + rest.length := ih
    rw [hrest, List.length_cons]
    omega

theorem table_gainAll : (desk.gainAll now templates).store.table =
    (Template.numberedFrom now desk.store.nextSequence templates).foldl Rule.Table.put
      desk.store.table := by
  induction templates generalizing desk with
  | nil => rfl
  | cons t rest ih => exact ih

/-- The rules of templates that are all missing come behind the rules that are there. -/
theorem rules_gainAll (hdistinct : (templates.map Template.id).Nodup)
    (hnew : ∀ t ∈ templates, t.id ∉ Rule.ids desk.store.table.rules) :
    (desk.gainAll now templates).store.table.rules = desk.store.table.rules ++
      Template.numberedFrom now desk.store.nextSequence templates := by
  have hids := Template.ids_numberedFrom now desk.store.nextSequence templates
  rw [table_gainAll]
  generalize Template.numberedFrom now desk.store.nextSequence templates = added at hids ⊢
  have hsplit : Rule.ids (desk.store.table.rules ++ added) =
      Rule.ids desk.store.table.rules ++ templates.map Template.id := by
    rw [← hids]
    exact List.map_append
  apply Rule.Table.foldl_put
  rw [hsplit]
  refine List.nodup_append.mpr ⟨desk.store.table.distinct, hdistinct, ?_⟩
  rintro id hold id' hadded rfl
  obtain ⟨t, ht, rfl⟩ := List.mem_map.mp hadded
  exact hnew t ht hold

theorem add_template (hname : t.id ≠ "") (hnew : desk.store.contains t.id = false)
    (hsound : (t.rule now).problems desk.store.settings = .ok []) :
    desk.add now (t.rule now) =
      (.ok (t.numbered now desk.store.nextSequence), desk.gain now t) := by
  have hidentify : desk.identify (t.rule now) = (t.id, desk) := by
    rw [identify, if_neg]
    · rfl
    · exact fun hempty ↦ hname (String.isEmpty_iff.mp hempty)
  have hfree : t.id ∉ Rule.ids desk.store.table.rules := Store.contains_eq_false_iff.mp hnew
  rw [add_of_notMem hsound (by rw [hidentify]; exact hfree), storedAs, hidentify]
  rfl

end Desk

/-! ## Seeding -/

/-- The templates whose rules a store does not have, in the order in which they come. -/
def Store.missing (s : Store) (templates : List Template) : List Template :=
  templates.filter fun t ↦ !s.contains t.id

namespace Store

variable {s : Store} {t : Template} {templates rest : List Template}

theorem mem_missing : t ∈ s.missing templates ↔ t ∈ templates ∧ s.contains t.id = false := by
  rw [missing, List.mem_filter, Bool.not_eq_true']

theorem missing_cons_of_contains (h : s.contains t.id = true) :
    s.missing (t :: rest) = s.missing rest :=
  List.filter_cons_of_neg (by simp [h])

theorem missing_cons_of_lacks (h : s.contains t.id = false) :
    s.missing (t :: rest) = t :: s.missing rest :=
  List.filter_cons_of_pos (by simp [h])

theorem ids_missing (s : Store) (templates : List Template) :
    (s.missing templates).map Template.id =
      (templates.map Template.id).filter fun id ↦ !s.contains id := by
  rw [missing, List.filter_map]
  rfl

end Store

namespace Desk

variable {now : Timestamp} {desk : Desk} {t : Template} {rest : List Template}

theorem contains_gain {id : String} :
    (desk.gain now t).store.contains id = true ↔ desk.store.contains id = true ∨ id = t.id := by
  rw [Store.contains_iff, Store.contains_iff]
  exact Rule.Table.mem_ids_put

theorem missing_gain (hnew : t.id ∉ rest.map Template.id) :
    (desk.gain now t).store.missing rest = desk.store.missing rest := by
  apply List.filter_congr
  intro x hx
  have hne : x.id ≠ t.id := fun heq ↦ hnew (heq ▸ List.mem_map_of_mem hx)
  have hsame : (desk.gain now t).store.contains x.id = desk.store.contains x.id :=
    Bool.eq_iff_iff.mpr (contains_gain.trans (or_iff_left hne))
  rw [hsame]

end Desk

namespace Registry

variable {now : Timestamp} {desk : Desk} {t : Template} {templates rest : List Template}

/-! For the first template there are three cases: its rule is there, is stored, or is refused. -/

theorem seedFrom_of_contains (h : desk.store.contains t.id = true) :
    seedFrom now (t :: rest) desk = seedFrom now rest desk := by
  rw [seedFrom, if_pos h]

theorem seedFrom_of_noProblems (hname : t.id ≠ "") (hnew : desk.store.contains t.id = false)
    (hsound : (t.rule now).problems desk.store.settings = .ok []) :
    seedFrom now (t :: rest) desk =
      ((seedFrom now rest (desk.gain now t)).1.map (t.numbered now desk.store.nextSequence :: ·),
        (seedFrom now rest (desk.gain now t)).2) := by
  rw [seedFrom, hnew, Desk.add_template hname hnew hsound]
  rfl

theorem seedFrom_of_problems (hnew : desk.store.contains t.id = false)
    (h : (t.rule now).problems desk.store.settings ≠ .ok []) :
    ∃ e, (seedFrom now (t :: rest) desk).1 = .error e := by
  cases hcheck : (t.rule now).check desk.store.settings with
  | ok u => exact absurd (Rule.check_eq_ok_iff.mp hcheck) h
  | error e =>
    rw [seedFrom, hnew, Desk.add_of_check_eq_error hcheck]
    exact ⟨e, rfl⟩

/-- When none of the missing rules has problems, all of them are stored. -/
theorem seedFrom_eq (hdistinct : (templates.map Template.id).Nodup)
    (hnamed : "" ∉ templates.map Template.id)
    (hsound : ∀ t ∈ desk.store.missing templates,
      (t.rule now).problems desk.store.settings = .ok []) :
    seedFrom now templates desk =
      (.ok (Template.numberedFrom now desk.store.nextSequence (desk.store.missing templates)),
        desk.gainAll now (desk.store.missing templates)) := by
  induction templates generalizing desk with
  | nil => rfl
  | cons t rest ih =>
    obtain ⟨hnew, hdistinct⟩ := List.nodup_cons.mp hdistinct
    obtain ⟨hname, hnamed⟩ := not_or.mp (mt List.mem_cons.mpr hnamed)
    cases hthere : desk.store.contains t.id with
    | true =>
      rw [seedFrom_of_contains hthere]
      rw [Store.missing_cons_of_contains hthere] at hsound ⊢
      exact ih hdistinct hnamed hsound
    | false =>
      rw [Store.missing_cons_of_lacks hthere] at hsound ⊢
      obtain ⟨hfirst, hothers⟩ := List.forall_mem_cons.mp hsound
      -- No two templates share an identifier, so storing one rule leaves the others missing.
      have hmissing : (desk.gain now t).store.missing rest = desk.store.missing rest :=
        Desk.missing_gain hnew
      rw [seedFrom_of_noProblems (Ne.symm hname) hthere hfirst,
        ih hdistinct hnamed (by rw [hmissing]; exact hothers), hmissing]
      rfl

/-- The first missing rule with problems stops seeding; those before it are stored. -/
theorem exists_error_seedFrom (hdistinct : (templates.map Template.id).Nodup)
    (hnamed : "" ∉ templates.map Template.id)
    (h : ∃ t ∈ desk.store.missing templates, (t.rule now).problems desk.store.settings ≠ .ok []) :
    ∃ e, (seedFrom now templates desk).1 = .error e := by
  induction templates generalizing desk with
  | nil => exact absurd h.choose_spec.1 List.not_mem_nil
  | cons t rest ih =>
    obtain ⟨hnew, hdistinct⟩ := List.nodup_cons.mp hdistinct
    obtain ⟨hname, hnamed⟩ := not_or.mp (mt List.mem_cons.mpr hnamed)
    cases hthere : desk.store.contains t.id with
    | true =>
      rw [seedFrom_of_contains hthere]
      rw [Store.missing_cons_of_contains hthere] at h
      exact ih hdistinct hnamed h
    | false =>
      by_cases hfirst : (t.rule now).problems desk.store.settings = .ok []
      · rw [Store.missing_cons_of_lacks hthere] at h
        obtain ⟨x, hx, hproblems⟩ := h
        have hrest : x ∈ (desk.gain now t).store.missing rest := by
          rw [Desk.missing_gain hnew]
          rcases List.mem_cons.mp hx with rfl | hx
          · exact absurd hfirst hproblems
          · exact hx
        obtain ⟨e, herror⟩ := ih hdistinct hnamed ⟨x, hrest, hproblems⟩
        exact ⟨e, by rw [seedFrom_of_noProblems (Ne.symm hname) hthere hfirst, herror]; rfl⟩
      · exact seedFrom_of_problems hthere hfirst

/-- Seeding succeeds if and only if no rule that is missing has problems. -/
theorem seed_eq_ok_iff {g : Registry} (h : g.IsProper) {added : List Rule} {desk' : Desk} :
    g.seed now desk = (.ok added, desk') ↔
      (∀ t ∈ desk.store.missing g.templates,
        (t.rule now).problems desk.store.settings = .ok []) ∧
      added =
        Template.numberedFrom now desk.store.nextSequence (desk.store.missing g.templates) ∧
      desk' = desk.gainAll now (desk.store.missing g.templates) := by
  constructor
  · intro hseed
    by_cases hsound : ∀ t ∈ desk.store.missing g.templates,
        (t.rule now).problems desk.store.settings = .ok []
    · rw [seed, seedFrom_eq h.distinct h.named hsound] at hseed
      cases hseed
      exact ⟨hsound, rfl, rfl⟩
    · push Not at hsound
      obtain ⟨e, herror⟩ := exists_error_seedFrom h.distinct h.named hsound
      rw [seed] at hseed
      rw [hseed] at herror
      cases herror
  · rintro ⟨hsound, rfl, rfl⟩
    exact seedFrom_eq h.distinct h.named hsound

/-- Where nothing is missing, nothing happens. -/
theorem seed_of_contains {g : Registry}
    (h : ∀ id ∈ g.ids, desk.store.contains id = true) : g.seed now desk = (.ok [], desk) := by
  rw [seed]
  obtain ⟨templates⟩ := g
  simp only
  induction templates with
  | nil => rfl
  | cons t rest ih =>
    obtain ⟨hfirst, hothers⟩ := List.forall_mem_cons.mp h
    rw [seedFrom_of_contains hfirst]
    exact ih hothers

/-- What seeding leaves behind when it succeeds. -/
structure FillsUp (g : Registry) (now : Timestamp) (desk : Desk) (added : List Rule)
    (desk' : Desk) : Prop where
  ids : Rule.ids added = g.ids.filter fun id ↦ !desk.store.contains id
  rules : added =
    Template.numberedFrom now desk.store.nextSequence (desk.store.missing g.templates)
  sequences : added.map (fun r ↦ r.sequence) =
    (List.range added.length).map fun k : Nat ↦ desk.store.nextSequence + k
  fresh : ∀ r ∈ desk.store.table.rules, ∀ a ∈ added, r.sequence < a.sequence
  system : ∀ a ∈ added, a.isSystemRule = true
  table : desk'.store.table.rules = desk.store.table.rules ++ added
  kept : ∀ id r, desk.store.get id = .ok r → desk'.store.get id = .ok r
  gained : ∀ a ∈ added, desk'.store.get a.id = .ok a
  settings : desk'.store.settings = desk.store.settings
  nextSequence : desk'.store.nextSequence = desk.store.nextSequence + added.length
  drawn : desk'.drawn = desk.drawn
  again : ∀ later, g.seed later desk' = (.ok [], desk')

theorem fillsUp_of_seed {g : Registry} (h : g.IsProper) (hahead : desk.store.IsAhead)
    {added : List Rule} {desk' : Desk} (hseed : g.seed now desk = (.ok added, desk')) :
    FillsUp g now desk added desk' := by
  obtain ⟨-, hadded, rfl⟩ := (seed_eq_ok_iff h).mp hseed
  have hids : Rule.ids added = g.ids.filter fun id ↦ !desk.store.contains id := by
    rw [hadded, Template.ids_numberedFrom, Store.ids_missing]
    rfl
  have hlength : added.length = (desk.store.missing g.templates).length := by
    rw [hadded, Template.length_numberedFrom]
  have hsequences : added.map (fun r ↦ r.sequence) =
      (List.range added.length).map fun k : Nat ↦ desk.store.nextSequence + k := by
    rw [hlength, hadded, Template.sequences_numberedFrom]
  have htable : (desk.gainAll now (desk.store.missing g.templates)).store.table.rules =
      desk.store.table.rules ++ added := by
    rw [hadded]
    apply Desk.rules_gainAll
    · exact h.distinct.sublist (List.filter_sublist.map Template.id)
    · exact fun t ht ↦ Store.contains_eq_false_iff.mp (Store.mem_missing.mp ht).2
  refine {
    ids := hids
    rules := hadded
    sequences := hsequences
    fresh := ?_
    system := ?_
    table := htable
    kept := ?_
    gained := ?_
    settings := Desk.settings_gainAll
    nextSequence := by rw [Desk.nextSequence_gainAll, hlength]
    drawn := Desk.drawn_gainAll
    again := ?_ }
  · intro r hr a ha
    have hmem : a.sequence ∈ added.map fun r ↦ r.sequence := List.mem_map_of_mem ha
    rw [hsequences] at hmem
    obtain ⟨k, -, hk⟩ := List.mem_map.mp hmem
    have hlt := hahead r hr
    omega
  · intro a ha
    rw [hadded] at ha
    exact Template.isSystemRule_of_mem_numberedFrom now _ _ ha
  · intro id r hget
    obtain ⟨hr, hid⟩ := Store.get_eq_ok_iff.mp hget
    exact Store.get_eq_ok_iff.mpr ⟨htable ▸ List.mem_append_left added hr, hid⟩
  · intro a ha
    exact Store.get_eq_ok_iff.mpr ⟨htable ▸ List.mem_append_right _ ha, rfl⟩
  · intro later
    apply seed_of_contains
    intro id hid
    rw [Store.contains_iff, htable, Rule.ids, List.map_append, List.mem_append]
    cases hthere : desk.store.contains id with
    | true => exact .inl (Store.contains_iff.mp hthere)
    | false =>
      have hmem : id ∈ Rule.ids added := by
        rw [hids]
        exact List.mem_filter.mpr ⟨hid, by simp [hthere]⟩
      exact .inr hmem

/-- Whatever templates have been registered and whatever has happened to the store, seeding succeeds
exactly when no missing rule has problems, and then it fills up the store. -/
theorem seed_fillsUp (settings : Settings) (counters : Option ArchiveNumber.Counters)
    (requests : List (Timestamp × Request)) (templates : List Template) (now : Timestamp) :
    let desk := ((Office.start settings counters).after requests).desk
    let g := empty.registerAll templates
    ((∃ added desk', g.seed now desk = (.ok added, desk')) ↔
      ∀ t ∈ desk.store.missing g.templates,
        (t.rule now).problems desk.store.settings = .ok []) ∧
    ∀ added desk', g.seed now desk = (.ok added, desk') → FillsUp g now desk added desk' := by
  intro desk g
  have hproper : g.IsProper := isProper_empty.registerAll templates
  have hahead : desk.store.IsAhead := Store.isAhead_after settings counters requests
  clear_value desk g
  constructor
  · constructor
    · rintro ⟨added, desk', hseed⟩
      exact ((seed_eq_ok_iff hproper).mp hseed).1
    · intro hsound
      exact ⟨_, _, (seed_eq_ok_iff hproper).mpr ⟨hsound, rfl, rfl⟩⟩
  · exact fun added desk' hseed ↦ fillsUp_of_seed hproper hahead hseed

/-- A template for fares of one kind. -/
def fares (id name : String) : Template where
  name := name
  draft := {
    id := id
    name := name
    conditions := [⟨.remarks, .contains, name, .and⟩]
    actions := [⟨.setProject, "rides"⟩] }

/-- The first template has no identifier, and the fourth one comes too late for its identifier. -/
def fareTemplates : List Template :=
  [fares "" "Tram", fares "TAXI" "Cab", fares "NIGHT" "Night bus", fares "TAXI" "Boat",
    fares "FERRY" "Ferry"]

/-- The user stores a rule under the identifier of a system rule to come and switches it off. -/
def ownTaxiRule : List (Timestamp × Request) :=
  [(Store.newYear, .add Store.taxiRule), (Store.newYear, .change (.setEnabled "TAXI" false))]

theorem seed_fillsUp_fareTemplates :
    let desk := ((Office.start {} none).after ownTaxiRule).desk
    let g := empty.registerAll fareTemplates
    g.ids = ["TAXI", "NIGHT", "FERRY"] ∧
    desk.store.table.rules = [{ Store.taxiRule with enabled := false, sequence := 1 }] ∧
    ∃ added desk', g.seed Store.newYear desk = (.ok added, desk') ∧
      Rule.ids desk'.store.table.rules = ["TAXI", "NIGHT", "FERRY"] ∧
      FillsUp g Store.newYear desk added desk' := by
  intro desk g
  obtain ⟨hreturns, hfills⟩ := seed_fillsUp {} none ownTaxiRule fareTemplates Store.newYear
  obtain ⟨added, desk', hseed⟩ := hreturns.mpr (by decide +kernel)
  have hfilled := hfills added desk' hseed
  have hrules : desk.store.table.rules =
      [{ Store.taxiRule with enabled := false, sequence := 1 }] := rfl
  have hids : Rule.ids added = ["NIGHT", "FERRY"] := hfilled.ids
  refine ⟨rfl, hrules, added, desk', hseed, ?_, hfilled⟩
  rw [hfilled.table, Rule.ids, List.map_append, ← Rule.ids, ← Rule.ids, hids, hrules]
  rfl

end Registry

end ReceiptRules
