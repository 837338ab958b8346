import ReceiptRules.Proofs.Rule.Validation
import ReceiptRules.Proofs.Store.Reloading

/-!
# Stores of rules without problems

A store takes in no rule that has problems, and nothing that happens to a rule in the store gives it
any, since the check looks at its name, conditions and actions alone. Rules from outside are taken
as they are, so all this is about stores that never read a document but their own.
-/

namespace ReceiptRules

namespace Store

variable {settings : Settings} {s s' : Store} {now : Timestamp}

/-- No rule of the store has problems under the settings, which are those of the store. -/
structure IsValid (settings : Settings) (s : Store) : Prop where
  sameSettings : s.settings = settings
  noProblems : ∀ r ∈ s.table.rules, r.problems settings = .ok []

theorem isValid_empty (settings : Settings) : (Store.empty settings).IsValid settings :=
  ⟨rfl, fun _ hr ↦ absurd hr List.not_mem_nil⟩

theorem IsValid.step (h : s.IsValid settings) (hstep : Step now s s') : s'.IsValid settings := by
  obtain ⟨hsettings, hrules⟩ := h
  cases hstep with
  | insert id r hcheck hnew =>
    refine ⟨hsettings, fun x hx ↦ ?_⟩
    rcases Rule.Table.mem_put.mp hx with rfl | ⟨hx, -⟩
    · exact hsettings ▸ hcheck
    · exact hrules x hx
  | update current r hcurrent hid hcheck =>
    refine ⟨hsettings, fun x hx ↦ ?_⟩
    rcases Rule.Table.mem_put.mp hx with rfl | ⟨hx, -⟩
    · exact hsettings ▸ hcheck
    · exact hrules x hx
  | setEnabled r enabled hr =>
    refine ⟨hsettings, fun x hx ↦ ?_⟩
    rcases Rule.Table.mem_put.mp hx with rfl | ⟨hx, -⟩
    · exact hrules r hr
    · exact hrules x hx
  | delete r hr hsystem =>
    exact ⟨hsettings, fun x hx ↦ hrules x (Rule.Table.mem_erase.mp hx).1⟩
  | reorder ids hids =>
    refine ⟨hsettings, fun x hx ↦ ?_⟩
    obtain ⟨r, hr, priority, updatedAt, rfl⟩ := mem_reordered hx
    exact hrules r hr
  | reload hwritable => exact ⟨hsettings, fun x hx ↦ hrules x (Rule.mem_ordered.mp hx)⟩
  | startOver => exact hsettings ▸ isValid_empty s.settings

/-- After requests that bring in no document from outside, no rule of the store has problems, and
whatever is classified by its enabled rules, no rule is noted as malformed and no action as not
applied. -/
theorem valid_after (settings : Settings) (counters : Option ArchiveNumber.Counters)
    (requests : List (Timestamp × Request)) (hown : ∀ entry ∈ requests, entry.2.IsOwn) :
    let s := ((Office.start settings counters).after requests).store
    s.IsValid settings ∧
      ∀ occasion receipt counters' o,
        (Engine.classify settings occasion s.enabledRules receipt counters').1 = .ok o →
          ∀ n ∈ o.notes ++ Engine.directiveNotes o,
            n.kind ≠ .malformedRule ∧ ¬ n.SaysNotApplied := by
  intro s
  have hvalid : s.IsValid settings :=
    Office.store_after_of_isOwn hown (fun _ _ _ h hstep ↦ h.step hstep) (isValid_empty settings)
  refine ⟨hvalid, fun occasion receipt counters' o h ↦ Engine.notes_of_isValid ?_ h⟩
  intro r hr
  have hmem : r ∈ s.table.rules := Rule.mem_ordered.mp (List.mem_filter.mp hr).1
  exact Rule.isValid_of_problems (hvalid.noProblems r hmem)

/-- A rule that files taxi rides. -/
def taxiRule : Rule where
  id := "TAXI"
  name := "Taxi"
  conditions := [⟨.remarks, .contains, "taxi", .and⟩]
  actions := [⟨.setProject, "rides"⟩]
  createdAt := newYear
  updatedAt := newYear

/-- The taxi rule is stored, then saved and read back. -/
def storingTaxi : List (Timestamp × Request) :=
  [(newYear, .add taxiRule), (newYear, .change .reload)]

/-- The store that holds the taxi rule alone. -/
def taxiStore : Store := ⟨{}, ⟨[{ taxiRule with sequence := 1 }], by simp⟩, 2⟩

theorem isWritable_taxiStore : taxiStore.isWritable = true := by
  refine isWritable_iff.mpr ⟨Text.WholeNumber.writable_of_le (by decide), fun r hr ↦ ?_⟩
  rw [List.mem_singleton.mp hr]
  exact ⟨Text.WholeNumber.writable_of_le (by decide), Text.WholeNumber.writable_of_le (by decide)⟩

theorem store_after_storingTaxi :
    ((Office.start {} none).after storingTaxi).store = taxiStore.copy := by
  have hadd : ((Office.start {} none).perform newYear (.add taxiRule)).2.store = taxiStore := rfl
  rw [storingTaxi, Office.after, Office.after, Office.after]
  generalize ((Office.start {} none).perform newYear (.add taxiRule)).2 = office at hadd ⊢
  have hwritable : office.store.isWritable = true := hadd ▸ isWritable_taxiStore
  rw [Office.store_perform_reload newYear hwritable, hadd]

theorem isOwn_storingTaxi : ∀ entry ∈ storingTaxi, entry.2.IsOwn := by
  intro entry hentry payload
  simp only [storingTaxi, List.mem_cons, List.not_mem_nil, or_false] at hentry
  rcases hentry with rfl | rfl
  · exact nofun
  · exact nofun

/-- A receipt of a ride and what becomes of it. -/
def rideReceipt : Receipt := ⟨none, [("REMARKS", .text "by taxi")]⟩

def rideOutcome : Outcome :=
  ⟨none, true, some "TAXI", some "Taxi",
    some { ruleId := some "TAXI", project := some "rides" }, []⟩

theorem valid_after_storingTaxi :
    let s := ((Office.start {} none).after storingTaxi).store
    s.rules = [{ taxiRule with sequence := 1 }] ∧ s.IsValid {} ∧
      (Engine.classify {} ⟨none, newYear.date⟩ s.enabledRules rideReceipt none).1 =
        .ok rideOutcome ∧
      ∀ n ∈ rideOutcome.notes ++ Engine.directiveNotes rideOutcome,
        n.kind ≠ .malformedRule ∧ ¬ n.SaysNotApplied := by
  have h := valid_after {} none storingTaxi isOwn_storingTaxi
  rw [store_after_storingTaxi] at h ⊢
  have hclassify : (Engine.classify {} ⟨none, newYear.date⟩ taxiStore.copy.enabledRules rideReceipt
      none).1 = .ok rideOutcome := rfl
  exact ⟨rfl, h.1, hclassify, h.2 _ _ _ _ hclassify⟩

end Store

end ReceiptRules
