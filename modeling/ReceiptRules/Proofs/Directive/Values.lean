import ReceiptRules.Proofs.Directive.Notes
import ReceiptRules.Proofs.Text.Pieces

/-!
# Values of valid actions

The values of the valid actions of a kind, and what the last of them says. The check of an action and the
taking of its value read the same text: what the check accepts is a category, a code or a list of tags
for the directive, too.
-/

namespace ReceiptRules

open Text

namespace Action

variable {α : Type} {kind : ActionKind} {a : Action} {actions actions' : List Action} {s : String}

/-! ## Actions of a kind -/

/-- The trimmed values of the valid actions of a kind, in their order. -/
def values (kind : ActionKind) (actions : List Action) : List String :=
  (actions.filter fun a ↦ a.kind = kind ∧ a.problem? = none).map fun a ↦ Blank.trim a.value

theorem mem_values : s ∈ values kind actions ↔
    ∃ a ∈ actions, a.kind = kind ∧ a.problem? = none ∧ Blank.trim a.value = s := by
  simp [values, and_assoc]

theorem values_append (kind : ActionKind) (front back : List Action) :
    values kind (front ++ back) = values kind front ++ values kind back := by
  simp only [values, List.filter_append, List.map_append]

theorem values_singleton (kind : ActionKind) (a : Action) :
    values kind [a] = if a.kind = kind ∧ a.problem? = none then [Blank.trim a.value] else [] := by
  rw [values, List.filter_singleton]
  by_cases h : a.kind = kind ∧ a.problem? = none <;> simp [h]

theorem asksNumber_iff_values :
    (∃ a ∈ actions, a.AsksNumber) ↔ values .generateArchiveNumber actions ≠ [] := by
  simp [values, AsksNumber]

theorem problem?_of_archive (h : a.kind = .archive) : a.problem? = none := by
  simp [problem?, needsValue, h]

theorem values_archive (actions : List Action) :
    values .archive actions =
      (actions.filter fun a ↦ a.kind = .archive).map fun a ↦ Blank.trim a.value := by
  rw [values]
  congr 1
  refine List.filter_congr fun a _ ↦ ?_
  by_cases h : a.kind = .archive
  · simp [h, problem?_of_archive h]
  · simp [h]

/-- The same actions of each kind in the same order, whichever kinds stand between them. -/
def SameByKind (actions' actions : List Action) : Prop :=
  ∀ kind, (actions'.filter fun a ↦ a.kind = kind) = actions.filter fun a ↦ a.kind = kind

theorem SameByKind.values_eq (h : SameByKind actions' actions) (kind : ActionKind) :
    values kind actions' = values kind actions := by
  have hsplit (actions : List Action) : values kind actions =
      ((actions.filter fun a ↦ a.kind = kind).filter fun a ↦ a.problem? = none).map
        fun a ↦ Blank.trim a.value := by
    simp only [values, List.filter_filter, Bool.decide_and, Bool.and_comm]
  rw [hsplit, hsplit, h]

theorem SameByKind.mem_iff (h : SameByKind actions' actions) : a ∈ actions' ↔ a ∈ actions := by
  have hmem := congrArg (a ∈ ·) (h a.kind)
  simpa [List.mem_filter] using hmem

/-! ## The last value -/

/-- What the valid actions of a kind say last, where not every value has to say something. -/
def last? (kind : ActionKind) (read : String → Option α) (actions : List Action) : Option α :=
  ((values kind actions).filterMap read).getLast?

theorem last?_append (kind : ActionKind) (read : String → Option α) (front back : List Action) :
    last? kind read (front ++ back) = (last? kind read back).or (last? kind read front) := by
  rw [last?, values_append, List.filterMap_append, List.getLast?_append]
  rfl

theorem last?_singleton (kind : ActionKind) (read : String → Option α) (a : Action) :
    last? kind read [a] =
      if a.kind = kind ∧ a.problem? = none then read (Blank.trim a.value) else none := by
  rw [last?, values_singleton]
  split
  · cases h : read (Blank.trim a.value) <;> simp [h]
  · rfl

theorem last?_some (kind : ActionKind) (actions : List Action) :
    last? kind some actions = (values kind actions).getLast? := by
  rw [last?, List.filterMap_some]

/-- Where every value says something, the last value does. -/
theorem getLast?_filterMap_of_isSome {β : Type} {read : α → Option β} {items : List α}
    (h : ∀ x ∈ items, (read x).isSome = true) :
    (items.filterMap read).getLast? = items.getLast?.bind read := by
  obtain rfl | ⟨init, last, rfl⟩ := items.eq_nil_or_concat
  · rfl
  · obtain ⟨y, hy⟩ := Option.isSome_iff_exists.mp (h last (by simp))
    simp [hy]

theorem map_last? {read : String → Option α} {word : α → String}
    (h : ∀ s ∈ values kind actions, (read s).map word = some s) :
    (last? kind read actions).map word = (values kind actions).getLast? := by
  rw [last?, ← List.getLast?_map, List.map_filterMap]
  congr 1
  rw [List.filterMap_congr h, List.filterMap_some]

/-! ## Categories -/

/-- A value that is found under a word has this word. -/
theorem map_word_find? {word : α → String} {all : List α}
    (h : (all.find? fun c ↦ word c == s).isSome = true) :
    (all.find? fun c ↦ word c == s).map word = some s := by
  obtain ⟨c, hc⟩ := Option.isSome_iff_exists.mp h
  have hword := List.find?_some hc
  rw [hc, Option.map_some, eq_of_beq hword]

theorem ofWord?_isSome_of_setCategory (hkind : a.kind = .setCategory) (h : a.problem? = none) :
    (Category.ofWord? (Blank.trim a.value)).isSome = true := by
  by_contra hnone
  simp [problem?, hkind, Option.not_isSome_iff_eq_none.mp hnone] at h

theorem ofWord?_isSome_of_setSubCategory (hkind : a.kind = .setSubCategory)
    (h : a.problem? = none) : (SubCategory.ofWord? (Blank.trim a.value)).isSome = true := by
  by_contra hnone
  simp [problem?, hkind, Option.not_isSome_iff_eq_none.mp hnone] at h

theorem word_last?_setCategory (actions : List Action) :
    (last? .setCategory Category.ofWord? actions).map Category.word =
      (values .setCategory actions).getLast? := by
  refine map_last? fun s hs ↦ ?_
  obtain ⟨a, -, hkind, hvalid, rfl⟩ := mem_values.mp hs
  exact map_word_find? (ofWord?_isSome_of_setCategory hkind hvalid)

theorem word_last?_setSubCategory (actions : List Action) :
    (last? .setSubCategory SubCategory.ofWord? actions).map SubCategory.word =
      (values .setSubCategory actions).getLast? := by
  refine map_last? fun s hs ↦ ?_
  obtain ⟨a, -, hkind, hvalid, rfl⟩ := mem_values.mp hs
  exact map_word_find? (ofWord?_isSome_of_setSubCategory hkind hvalid)

/-! ## Codes -/

/-- An empty value names no code. -/
def namedCode? (value : String) : Option String :=
  if value.isEmpty then none else ArchiveNumber.codeOf? value

/-- The code of the last valid action that names one. -/
def code? (actions : List Action) : Option String :=
  ((values .generateArchiveNumber actions).filter fun s ↦ !s.isEmpty).getLast?.bind
    ArchiveNumber.codeOf?

theorem codeOf?_isSome_of_asksNumber (h : a.AsksNumber)
    (hvalue : (Blank.trim a.value).isEmpty = false) :
    (ArchiveNumber.codeOf? (Blank.trim a.value)).isSome = true := by
  obtain ⟨hkind, h⟩ := h
  by_contra hnone
  simp [problem?, hkind, hvalue, needsValue, Option.not_isSome_iff_eq_none.mp hnone] at h

theorem last?_namedCode? (actions : List Action) :
    last? .generateArchiveNumber namedCode? actions = code? actions := by
  rw [last?, code?, ← getLast?_filterMap_of_isSome, List.filterMap_filter]
  · congr 2
    funext s
    cases hs : s.isEmpty <;> simp [namedCode?, hs]
  · intro s hs
    obtain ⟨hmem, hvalue⟩ := List.mem_filter.mp hs
    obtain ⟨a, -, hkind, hvalid, rfl⟩ := mem_values.mp hmem
    exact codeOf?_isSome_of_asksNumber ⟨hkind, hvalid⟩ (by simpa using hvalue)

/-! ## Tags -/

/-- A part of the value between its commas, trimmed, that is not empty. -/
def IsTag (value t : String) : Prop :=
  t ≠ "" ∧ ∃ part ∈ value.toList.splitOn ',', t = String.ofList (Blank.trimChars part)

theorem tagsOf_eq (value : String) :
    tagsOf value = (((value.toList.splitOn ',').map Blank.trimChars).map String.ofList).filter
      fun t ↦ !t.isEmpty := by
  have hsplit := Search.split_singleton ',' value
  rw [tagsOf, show "," = String.ofList [','] from rfl, hsplit, List.map_map, List.map_map]
  congr 2
  funext part
  simp [Blank.trim]

/-- The tags that the check sees are those that are added. -/
theorem tagsOf_trim (value : String) : tagsOf (Blank.trim value) = tagsOf value := by
  rw [tagsOf_eq, tagsOf_eq, Blank.toList_trim, Search.trimmed_splitOn_trimChars (by decide)]

theorem mem_tagsOf {value t : String} : t ∈ tagsOf value ↔ IsTag value t := by
  rw [tagsOf_eq, List.mem_filter, List.map_map, List.mem_map, IsTag, and_comm]
  refine and_congr ?_ (exists_congr fun part ↦ and_congr_right fun _ ↦ eq_comm)
  rw [Bool.not_eq_true', ← Bool.not_eq_true, String.isEmpty_iff]

theorem mem_flatMap_tagsOf {t : String} :
    t ∈ (values .addTag actions).flatMap tagsOf ↔
      ∃ a ∈ actions, a.kind = .addTag ∧ a.problem? = none ∧ IsTag a.value t := by
  simp only [List.mem_flatMap, mem_values]
  constructor
  · rintro ⟨_, ⟨a, ha, hkind, hvalid, rfl⟩, ht⟩
    rw [tagsOf_trim, mem_tagsOf] at ht
    exact ⟨a, ha, hkind, hvalid, ht⟩
  · rintro ⟨a, ha, hkind, hvalid, ht⟩
    refine ⟨_, ⟨a, ha, hkind, hvalid, rfl⟩, ?_⟩
    rwa [tagsOf_trim, mem_tagsOf]

end Action

end ReceiptRules
