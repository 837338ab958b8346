import ReceiptRules.CommandLine.Classify
import ReceiptRules.Proofs.Engine.Alike
import ReceiptRules.Proofs.Engine.Failures
import ReceiptRules.Proofs.Store.IncrementalSeeding
import ReceiptRules.Proofs.Text.Separator

/-!
# Built-in rules and the separator of lists

The lists of the built-in rules are written with commas, whatever separator is set. Under the comma,
alone or with a blank behind it, a new store selects the same rules for all receipts. Under any other
separator the list of taxi and bus fares falls into other items, so that not all receipts that it names
are selected any more. That goes unnoticed unless a list is left without items; no store is made then.
-/

namespace ReceiptRules

open ArchiveNumber Text

variable {settings : Settings} {separator : String} {now : Timestamp} {drawn : Nat}
  {occasion : Directive.Occasion} {counters : Option Counters} {receipt : Receipt}

/-! ## New stores -/

namespace SystemRules

open CommandLine.Classify

/-- The built-in rules in evaluation order, each with the sequence that a new store gives it. -/
def ranked : List (Int × Template) :=
  [(3, groundTransport), (4, trainAndFlight), (2, lodging), (1, dining), (5, vatInvoices)]

/-- The rules of a new store in evaluation order. -/
def inOrder (now : Timestamp) : List Rule :=
  ranked.map fun (sequence, t) ↦ t.numbered now sequence

theorem nodup_ids_inOrder (now : Timestamp) : (Rule.ids (inOrder now)).Nodup := by
  change ["SYS-GROUND-TRANSPORT", "SYS-TRAIN-AND-FLIGHT", "SYS-LODGING", "SYS-DINING",
    "SYS-VAT-INVOICES"].Nodup
  decide

theorem isProper_registry : registry.IsProper := ⟨by decide, by decide⟩

theorem enabledRules_seeded {desk : Desk} (h : seeded settings now drawn = .ok desk) :
    desk.store.enabledRules = inOrder now := by
  rw [seeded] at h
  generalize hseed : registry.seed now ⟨.empty settings, drawn⟩ = filled at h
  obtain ⟨result, filled⟩ := filled
  obtain ⟨added, rfl, rfl⟩ := Except.map_eq_ok_iff.mp h
  obtain ⟨-, -, rfl⟩ := (Registry.seed_eq_ok_iff isProper_registry).mp hseed
  rfl

theorem exists_seeded (h : ∀ t ∈ registry.templates, (t.rule now).problems settings = .ok []) :
    ∃ desk, seeded settings now drawn = .ok desk := by
  have hseed : ∃ added desk, registry.seed now ⟨.empty settings, drawn⟩ = (.ok added, desk) :=
    ⟨_, _, (Registry.seed_eq_ok_iff isProper_registry).mpr ⟨h, rfl, rfl⟩⟩
  obtain ⟨added, desk, hseed⟩ := hseed
  exact ⟨desk, by rw [seeded, hseed]; rfl⟩

theorem problems_of_comma (now : Timestamp) : ∀ separator ∈ [",", ", "], ∀ t ∈ registry.templates,
    (t.rule now).problems { listSeparator := separator } = .ok [] := by
  have hnewYear : ∀ separator ∈ [",", ", "], ∀ t ∈ registry.templates,
      (t.rule Store.newYear).problems { listSeparator := separator } = .ok [] := by
    decide +kernel
  -- The moment is nothing that is looked at.
  exact hnewYear

end SystemRules

/-! ## Classifying under another separator -/

theorem Condition.evaluate_congr_separator {ruleId : Option String} {c : Condition}
    (h : c.operator = .inList →
      listItems { settings with listSeparator := separator } c = listItems settings c) :
    evaluate { settings with listSeparator := separator } ruleId receipt c =
      evaluate settings ruleId receipt c := by
  have hcontent : c.field.contentIn { settings with listSeparator := separator } receipt =
      c.field.contentIn settings receipt := rfl
  rw [evaluate, evaluate, hcontent]
  refine bind_congr fun content ↦ ?_
  cases content with
  | none => rfl
  | some content =>
    obtain ⟨field, operator, value, joiner⟩ := c
    cases operator with
    | inList =>
      simp only [verdictOn, listVerdict, h rfl]
      rfl
    | _ => rfl

namespace Engine

theorem classify_congr_separator {rules : List Rule}
    (h : ∀ r ∈ rules, ∀ c ∈ r.conditions, c.operator = .inList →
      Condition.listItems { settings with listSeparator := separator } c =
        Condition.listItems settings c) :
    classify { settings with listSeparator := separator } occasion rules receipt counters =
      classify settings occasion rules receipt counters := by
  have hresolve : Rule.resolve { settings with listSeparator := separator } receipt rules =
      Rule.resolve settings receipt rules := by
    apply Rule.firstMatch_congr_of_combine
    intro r hr hwf
    apply Condition.combine_congr
    intro c hc
    have hmem := (List.mem_filter.mp (Rule.mem_ordered.mp hr)).1
    exact Condition.evaluate_congr_separator (h r hmem c hc)
  rw [classify, classify, hresolve]
  rfl

/-- The identifier of the rule that a new store selects for a receipt, if there is one. -/
def selected (settings : Settings) (now : Timestamp) (drawn : Nat) (occasion : Directive.Occasion)
    (counters : Option Counters) (receipt : Receipt) : Except Failure (Option String) := do
  let desk ← CommandLine.Classify.seeded settings now drawn
  (classify settings occasion desk.store.enabledRules receipt counters).1.map Outcome.ruleId

theorem selected_eq_classify (h : ∀ t ∈ SystemRules.registry.templates,
      (t.rule now).problems settings = .ok []) (receipt : Receipt) :
    selected settings now drawn occasion counters receipt =
      (classify settings occasion (SystemRules.inOrder now) receipt counters).1.map
        Outcome.ruleId := by
  obtain ⟨desk, hdesk⟩ : ∃ desk, CommandLine.Classify.seeded settings now drawn = .ok desk :=
    SystemRules.exists_seeded h
  rw [selected, hdesk, ← SystemRules.enabledRules_seeded hdesk]
  rfl

/-! ## The receipts of the list of fares -/

/-- A receipt of which only the type is known. -/
def typed (receiptType : String) : Receipt := ⟨none, [("RECEIPT_TYPE", .text receiptType)]⟩

/-- Whether the receipt is one of the list of fares. -/
def fareTypes : Condition :=
  { field := .receiptType, operator := .inList, value := "TAXI_RECEIPT, BUS_TICKET", joiner := .or }

/-- Of a receipt with a type only, the conditions of fares look for the type in their list. -/
theorem mem_items_of_combine {ruleId : Option String} {word : String} {v : Verdict}
    (h : Condition.combine settings ruleId (typed word)
      SystemRules.groundTransport.draft.conditions = .ok v) (hholds : v.holds = true) :
    ∃ items, Condition.listItems settings fareTypes = .ok items ∧ word ∈ items := by
  obtain ⟨first, hfirst, h⟩ := Except.bind_eq_ok_iff.mp h
  obtain ⟨others, hothers, h⟩ := Except.bind_eq_ok_iff.mp h
  cases h
  have hfound : first.holds = true := by
    cases hfails : first.holds with
    | true => rfl
    | false =>
      -- The seller is missing, so that the second condition fails, too.
      rw [hfails] at hothers
      cases hothers
      cases hholds
  obtain ⟨content, hcontent, hverdict⟩ := Except.bind_eq_ok_iff.mp hfirst
  cases hcontent
  obtain ⟨items, hitems, hverdict⟩ := Except.bind_eq_ok_iff.mp hverdict
  cases hverdict
  exact ⟨items, hitems, List.contains_iff_mem.mp hfound⟩

theorem mem_items_of_selected {word : String}
    (h : selected settings now drawn occasion counters (typed word) =
      .ok (some SystemRules.groundTransport.id)) :
    ∃ items, Condition.listItems settings fareTypes = .ok items ∧ word ∈ items := by
  obtain ⟨desk, hdesk, h⟩ := Except.bind_eq_ok_iff.mp h
  obtain ⟨o, hclassify, hid⟩ := Except.map_eq_ok_iff.mp h
  rw [SystemRules.enabledRules_seeded hdesk] at hclassify
  rcases hresult : classify settings occasion (SystemRules.inOrder now) (typed word) counters with
    ⟨result, moved⟩
  rw [hresult] at hclassify
  cases hclassify
  obtain ⟨⟨winner, notes⟩, hresolve, hclassified⟩ := classified_of_classify hresult
  cases hclassified with
  | bare | default => cases hid
  | matched r d numberedD moved hwinner happly hnumbered =>
    cases hwinner
    have hrule : r ∈ SystemRules.inOrder now := Rule.mem_of_resolve hresolve rfl
    have hr : r = SystemRules.groundTransport.numbered now 3 :=
      List.inj_on_of_nodup_map (SystemRules.nodup_ids_inOrder now) hrule List.mem_cons_self
        (Option.some.inj hid)
    obtain ⟨-, -, v, hv, hholds⟩ := Rule.exists_resolve_eq_some_iff.mp ⟨notes, hresolve⟩
    rw [hr] at hv
    exact mem_items_of_combine hv hholds

theorem numbered_of_request_eq_none {d : Directive} (h : d.numberRequest = none)
    (counters : Option Counters) : numbered d counters = (.ok d, counters) := by
  cases counters with
  | none => rfl
  | some c => rw [numbered, Directive.assignNumber, h]

theorem classify_of_resolve {rules : List Rule} {r : Rule} {notes : List Diagnostic} {d : Directive}
    (hresolve : Rule.resolve settings receipt rules = .ok ⟨some r, notes⟩)
    (happly : Directive.apply settings (some r.id) (some receipt) none occasion r.actions = .ok d)
    (hrequest : d.numberRequest = none) :
    (classify settings occasion rules receipt counters).1 =
      .ok (matchedOutcome receipt r notes d) := by
  simp only [classify, hresolve, happly, finish, numbered_of_request_eq_none hrequest]
  rfl

theorem exists_apply_unrequested {actions : List Action} (h : ¬ ∃ a ∈ actions, a.AsksNumber)
    (settings : Settings) (ruleId : Option String) (receipt : Option Receipt)
    (occasion : Directive.Occasion) :
    ∃ d, Directive.apply settings ruleId receipt none occasion actions = .ok d ∧
      d.numberRequest = none := by
  have hkeeps := Directive.Draft.foldl_step_extends ruleId ⟨{ ruleId := ruleId }, false, none, []⟩
    actions
  exact ⟨_, Directive.apply_of_not_asksNumber h, hkeeps.numberRequest⟩

theorem not_asksNumber_fares :
    ¬ ∃ a ∈ SystemRules.groundTransport.draft.actions, a.AsksNumber := by
  rintro ⟨a, ha, hkind, -⟩
  have hnone : ∀ a ∈ SystemRules.groundTransport.draft.actions,
      a.kind ≠ .generateArchiveNumber := by
    decide
  exact hnone a ha hkind

theorem resolve_typed {word : String} (hword : word ∈ ["TAXI_RECEIPT", "BUS_TICKET"]) :
    Rule.resolve {} (typed word) (SystemRules.inOrder now) =
      .ok ⟨some (SystemRules.groundTransport.numbered now 3), []⟩ := by
  have hcombine : ∀ word ∈ ["TAXI_RECEIPT", "BUS_TICKET"],
      Condition.combine {} (some SystemRules.groundTransport.id) (typed word)
        SystemRules.groundTransport.draft.conditions = .ok ⟨true, []⟩ := by
    decide +kernel
  have hreason : (SystemRules.groundTransport.numbered now 3).malformedReason? = none := rfl
  change Rule.firstMatch {} (typed word) (SystemRules.groundTransport.numbered now 3 :: _) = _
  rw [Rule.firstMatch, hreason]
  change Condition.combine {} (some SystemRules.groundTransport.id) (typed word)
    SystemRules.groundTransport.draft.conditions >>= _ = _
  rw [hcombine word hword]
  rfl

theorem selected_typed {word : String} (hword : word ∈ ["TAXI_RECEIPT", "BUS_TICKET"]) :
    selected {} now drawn occasion counters (typed word) =
      .ok (some SystemRules.groundTransport.id) := by
  obtain ⟨d, happly, hrequest⟩ := exists_apply_unrequested not_asksNumber_fares {}
    (some SystemRules.groundTransport.id) (some (typed word)) occasion
  have hclassify : (classify {} occasion (SystemRules.inOrder now) (typed word) counters).1 =
      .ok (matchedOutcome (typed word) (SystemRules.groundTransport.numbered now 3) [] d) :=
    classify_of_resolve (resolve_typed hword) happly hrequest
  have husual := SystemRules.problems_of_comma now "," List.mem_cons_self
  rw [selected_eq_classify husual, hclassify]
  rfl

/-! ## Which separators make no difference -/

/-- Only the comma, alone or with a blank behind it, gives both types of fares as items. -/
theorem separator_eq_of_fareTypes {items : List String}
    (hitems : Condition.listItems { listSeparator := separator } fareTypes = .ok items)
    (htaxi : "TAXI_RECEIPT" ∈ items) (hbus : "BUS_TICKET" ∈ items) :
    separator = "," ∨ separator = ", " := by
  rw [Condition.listItems] at hitems
  split at hitems
  · cases hitems
  · next hsome =>
    cases hitems
    have hsep : separator.toList ≠ [] := fun hempty ↦
      hsome (String.isEmpty_iff.mpr (String.toList_eq_nil_iff.mp hempty))
    have htaxi' := Search.toList_mem_trimmed_pieces htaxi
    have hbus' := Search.toList_mem_trimmed_pieces hbus
    have hmade : separator.toList.Subperm [',', ' '] :=
      Search.subperm_of_trimmed_pieces hsep htaxi' hbus' (by decide) (by decide +kernel)
    rcases Search.eq_of_subperm_comma_blank hmade with h | h | h | h | h
    · exact absurd h hsep
    · exact .inl (String.toList_inj.mp h)
    · rw [h] at htaxi'
      exact absurd htaxi' (by decide +kernel)
    · exact .inr (String.toList_inj.mp h)
    · rw [h] at htaxi'
      exact absurd htaxi' (by decide +kernel)

/-- Both separators give the same items in all lists of the built-in rules. -/
theorem listItems_of_comma : ∀ separator ∈ [",", ", "], ∀ e ∈ SystemRules.ranked,
    ∀ c ∈ e.2.draft.conditions, c.operator = .inList →
      Condition.listItems { listSeparator := separator } c = Condition.listItems {} c := by
  decide +kernel

theorem selected_of_comma (h : separator ∈ [",", ", "]) (receipt : Receipt) :
    selected { listSeparator := separator } now drawn occasion counters receipt =
      selected {} now drawn occasion counters receipt := by
  have hclassify : classify { listSeparator := separator } occasion (SystemRules.inOrder now)
      receipt counters = classify {} occasion (SystemRules.inOrder now) receipt counters := by
    have hitems : ∀ r ∈ SystemRules.inOrder now, ∀ c ∈ r.conditions, c.operator = .inList →
        Condition.listItems { listSeparator := separator } c = Condition.listItems {} c := by
      intro r hr
      obtain ⟨e, he, rfl⟩ := List.mem_map.mp hr
      exact listItems_of_comma separator h e he
    exact classify_congr_separator hitems
  rw [selected_eq_classify (SystemRules.problems_of_comma now separator h),
    selected_eq_classify (SystemRules.problems_of_comma now "," List.mem_cons_self), hclassify]

/-- A new store selects the same built-in rules for all receipts as under the usual settings if and
only if lists are separated by the comma, alone or with a blank behind it. -/
theorem selected_eq_iff_separator :
    (∀ receipt, selected { listSeparator := separator } now drawn occasion counters receipt =
      selected {} now drawn occasion counters receipt) ↔
    separator = "," ∨ separator = ", " := by
  constructor
  · intro h
    obtain ⟨items, hitems, htaxi⟩ := mem_items_of_selected
      ((h (typed "TAXI_RECEIPT")).trans (selected_typed List.mem_cons_self))
    obtain ⟨items', hitems', hbus⟩ := mem_items_of_selected
      ((h (typed "BUS_TICKET")).trans (selected_typed (List.mem_cons_of_mem _ List.mem_cons_self)))
    cases hitems.symm.trans hitems'
    exact separator_eq_of_fareTypes hitems htaxi hbus
  · intro h receipt
    exact selected_of_comma (by simpa using h) receipt

/-- Under the semicolon, which seeding takes without complaint, no rule is left for taxi receipts. -/
theorem taxiReceipt_unselected_semicolon :
    selected {} Store.newYear 0 summer none (typed "TAXI_RECEIPT") =
      .ok (some "SYS-GROUND-TRANSPORT") ∧
    selected { listSeparator := ";" } Store.newYear 0 summer none (typed "TAXI_RECEIPT") =
      .ok none := by
  decide +kernel

end Engine

end ReceiptRules
