import ReceiptRules.Store

/-!
# Desks

A desk holds a store together with the number of identifiers that have been drawn. Rules that come
without an identifier draw a fresh one, which is used up even when the rule is then refused.
-/

namespace ReceiptRules

structure Desk where
  store : Store
  drawn : Nat

namespace Desk

/-- The identifier under which a rule is to be stored. -/
def identify (desk : Desk) (r : Rule) : String × Desk :=
  if r.id.isEmpty then (Identity.ruleId (desk.drawn + 1), { desk with drawn := desk.drawn + 1 })
  else (r.id, desk)

/-- Checks a rule and stores it. -/
def add (desk : Desk) (now : Timestamp) (r : Rule) : Except Failure Rule × Desk :=
  match r.check desk.store.settings with
  | .error e => (.error e, desk)
  | .ok () =>
    let (id, desk) := desk.identify r
    match desk.store.insert now id r with
    | .error e => (.error e, desk)
    | .ok (stored, store) => (.ok stored, { desk with store := store })

/-- Adds rules one after the other, up to the first that is refused. -/
def addAll (desk : Desk) (now : Timestamp) : List Rule → Except Failure (List Rule) × Desk
  | [] => (.ok [], desk)
  | r :: rest =>
    match desk.add now r with
    | (.error e, desk) => (.error e, desk)
    | (.ok stored, desk) =>
      let (others, desk) := addAll desk now rest
      (others.map (stored :: ·), desk)

/-- Starts a new store with the given rules. If one of them is refused, the old store stays. -/
def startOver (desk : Desk) (now : Timestamp) (rules : List Rule) : Except Failure Unit × Desk :=
  match ({ desk with store := .empty desk.store.settings } : Desk).addAll now rules with
  | (.error e, tried) => (.error e, { desk with drawn := tried.drawn })
  | (.ok _, filled) => (.ok (), filled)

end Desk

end ReceiptRules
