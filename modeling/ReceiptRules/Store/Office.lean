import ReceiptRules.Batch
import ReceiptRules.Store.Document
import ReceiptRules.Store.Registry

/-!
# Offices

An office has one desk and one engine and takes requests one after the other. A request that fails
is answered with the cause, and the next one is taken on what is there.
-/

namespace ReceiptRules

open ArchiveNumber

/-- What a request is answered with. -/
inductive Reply where
  | done
  | rule (r : Rule)
  | rules (rules : List Rule)
  | flag (b : Bool)
  | size (n : Nat)
  | counts (counts : List (String × Nat))
  | document (v : Value)
  | text (s : String)
  | outcome (o : Outcome)
  | report (r : Option Report)

/-- A question that a store answers as it stands. -/
inductive Query where
  | get (id : String)
  | rules
  | enabledRules
  | search (text : String)
  | counts
  | size
  | contains (id : String)
  | document

/-- A change of a store that draws no identifier. -/
inductive Change where
  | update (r : Rule)
  | delete (id : String)
  | setEnabled (id : String) (enabled : Bool)
  | toggle (id : String)
  | reorder (ids : List String)
  | move (id : String) (place : Int)
  | reload
  | load (payload : Value)

namespace Store

def ask (s : Store) : Query → Except Failure Reply
  | .get id => (s.get id).map .rule
  | .rules => .ok (.rules s.rules)
  | .enabledRules => .ok (.rules s.enabledRules)
  | .search text => .ok (.rules (s.search text))
  | .counts => .ok (.counts s.counts)
  | .size => .ok (.size s.table.rules.length)
  | .contains id => .ok (.flag (s.contains id))
  | .document => .ok (.document s.toDocument)

/-- The reply to a change that shows the rules in their new order. -/
def inOrder (s : Store) : Reply × Store := (.rules s.rules, s)

def change (s : Store) (now : Timestamp) : Change → Except Failure (Reply × Store)
  | .update r => (s.update now r).map fun (stored, s) ↦ (.rule stored, s)
  | .delete id => (s.delete id).map fun s ↦ (.done, s)
  | .setEnabled id enabled => (s.setEnabled now id enabled).map fun (stored, s) ↦ (.rule stored, s)
  | .toggle id => (s.toggle now id).map fun (stored, s) ↦ (.rule stored, s)
  | .reorder ids => (s.reorder now ids).map inOrder
  | .move id place => (s.move now id place).map inOrder
  | .reload => (s.reload now).map fun (text, s) ↦ (.text text, s)
  | .load payload => (ofDocument s.settings now payload).map fun s ↦ (.done, s)

end Store

inductive Request where
  | ask (q : Query)
  | change (c : Change)
  | add (r : Rule)
  | startOver (rules : List Rule)
  | seed (g : Registry)
  /-- Classifies a receipt by the enabled rules. -/
  | classify (receipt : Receipt) (occasion : Directive.Occasion)
  /-- Keeps a snapshot of the enabled rules for batches to come. -/
  | keep
  /-- Runs a batch over the snapshot that was kept, if there is one. -/
  | run (receipts : List Receipt) (occasion : Directive.Occasion)

structure Office where
  desk : Desk
  counters : Option Counters
  kept : Option (List Rule)

namespace Office

def store (office : Office) : Store := office.desk.store

/-- An office with an empty store. -/
def start (settings : Settings) (counters : Option Counters) : Office :=
  ⟨⟨.empty settings, 0⟩, counters, none⟩

def withStore (office : Office) (store : Store) : Office :=
  { office with desk := { office.desk with store } }

/-- Runs a batch; its identifier is drawn when it has succeeded. -/
def runBatch (office : Office) (now : Timestamp) (rules : List Rule) (receipts : List Receipt)
    (occasion : Directive.Occasion) : Except Failure Reply × Office :=
  let (report, counters) := Batch.run office.store.settings occasion now (office.desk.drawn + 1)
    rules receipts office.counters
  match report with
  | .ok r =>
    let desk := { office.desk with drawn := office.desk.drawn + 1 }
    (.ok (.report r), { office with desk, counters })
  | .error e => (.error e, { office with counters })

def perform (office : Office) (now : Timestamp) : Request → Except Failure Reply × Office
  | .ask q => (office.store.ask q, office)
  | .change c =>
    match office.store.change now c with
    | .ok (a, store) => (.ok a, office.withStore store)
    | .error e => (.error e, office)
  | .add r =>
    let (added, desk) := office.desk.add now r
    (added.map .rule, { office with desk })
  | .startOver rules =>
    let (started, desk) := office.desk.startOver now rules
    (started.map fun _ ↦ .done, { office with desk })
  | .seed g =>
    let (added, desk) := g.seed now office.desk
    (added.map .rules, { office with desk })
  | .classify receipt occasion =>
    let (outcome, counters) := Engine.classify office.store.settings occasion
      office.store.enabledRules receipt office.counters
    (outcome.map .outcome, { office with counters })
  | .keep =>
    let rules := office.store.enabledRules
    (.ok (.rules rules), { office with kept := some rules })
  | .run receipts occasion =>
    match office.kept with
    | none => (.ok (.report none), office)
    | some rules => office.runBatch now rules receipts occasion

/-- The office after requests, each taken at its moment. -/
def after (office : Office) : List (Timestamp × Request) → Office
  | [] => office
  | (now, q) :: rest => ((office.perform now q).2).after rest

/-- The replies to requests, each with the rules in evaluation order behind it. -/
def trace (office : Office) : List (Timestamp × Request) → List (Except Failure Reply × List Rule)
  | [] => []
  | (now, q) :: rest =>
    let (reply, next) := office.perform now q
    (reply, next.store.rules) :: next.trace rest

end Office

end ReceiptRules
