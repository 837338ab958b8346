import ReceiptRules.Rule.Order

/-!
# Rule tables

A table holds rules under pairwise distinct identifiers, in the order in which they first came.
Putting a rule under an identifier that is taken replaces the old rule in its place. There are no keys
beside the rules: the store never writes a rule under another identifier than its own.
-/

namespace ReceiptRules.Rule

/-- Puts a rule in the place of the one with its identifier, or at the end. -/
def replaceIn (r : Rule) : List Rule → List Rule
  | [] => [r]
  | x :: rest => if x.id = r.id then r :: rest else x :: replaceIn r rest

def ids (rules : List Rule) : List String := rules.map fun r ↦ r.id

@[simp] theorem ids_nil : ids [] = [] := rfl

@[simp] theorem ids_cons (r : Rule) (rules : List Rule) : ids (r :: rules) = r.id :: ids rules :=
  rfl

theorem ids_replaceIn (r : Rule) (rules : List Rule) :
    ids (replaceIn r rules) = if r.id ∈ ids rules then ids rules else ids rules ++ [r.id] := by
  induction rules with
  | nil => simp [replaceIn]
  | cons x rest ih =>
    by_cases h : x.id = r.id
    · simp [replaceIn, h]
    · have h' : ¬ r.id = x.id := fun e ↦ h e.symm
      simp only [replaceIn, h, if_false, ids_cons, ih, List.mem_cons, h', false_or]
      split <;> simp

structure Table where
  rules : List Rule
  distinct : (ids rules).Nodup

namespace Table

def empty : Table := ⟨[], by simp [ids]⟩

def find? (t : Table) (id : String) : Option Rule := t.rules.find? fun r ↦ r.id == id

def contains (t : Table) (id : String) : Bool := (ids t.rules).contains id

def put (t : Table) (r : Rule) : Table where
  rules := replaceIn r t.rules
  distinct := by
    rw [ids_replaceIn]
    split
    · exact t.distinct
    · next h =>
      rw [List.nodup_append]
      refine ⟨t.distinct, by simp, ?_⟩
      intro a ha b hb e
      simp only [List.mem_singleton] at hb
      exact h (hb ▸ e ▸ ha)

def erase (t : Table) (id : String) : Table where
  rules := t.rules.filter fun r ↦ r.id != id
  distinct := t.distinct.sublist (List.filter_sublist.map _)

/-- Changes every rule, its identifier apart. -/
def modify (t : Table) (change : Rule → Rule) : Table where
  rules := t.rules.map fun r ↦ { change r with id := r.id }
  distinct := by
    simpa [ids, Function.comp_def] using t.distinct

/-- The table of a list; of rules with the same identifier the last one stays. -/
def ofRules (rules : List Rule) : Table := rules.foldl put empty

def ordered (t : Table) : List Rule := Rule.ordered t.rules

end Table

end ReceiptRules.Rule
