/-!
# Closed vocabularies, diagnostics and problems

A closed vocabulary is a type with finitely many members, each of which has a word. Reading a word
gives back the member.

Problems that do not stop a classification are noted as diagnostics and collected in the order in which
they are met. What is wrong with a document that should hold a rule, a receipt or settings is said by
the kind of problem and the path to the place, by names and list positions.
-/

namespace ReceiptRules

class Vocabulary (α : Type) where
  all : List α
  word : α → String

namespace Vocabulary

variable {α : Type} [Vocabulary α]

/-- The member with the given word. -/
def read? (s : String) : Option α := (all (α := α)).find? fun a ↦ word a == s

/-- The words of the vocabulary in order. -/
def words (α : Type) [Vocabulary α] : List String := (all (α := α)).map word

end Vocabulary

/-! ## Diagnostics -/

inductive DiagnosticKind where
  | malformedRule | malformedPredicate | malformedAction
deriving DecidableEq, Repr

instance : Vocabulary DiagnosticKind where
  all := [.malformedRule, .malformedPredicate, .malformedAction]
  word
    | .malformedRule => "MALFORMED_RULE"
    | .malformedPredicate => "MALFORMED_PREDICATE"
    | .malformedAction => "MALFORMED_ACTION"

structure Diagnostic where
  ruleId : Option String
  kind : DiagnosticKind
  message : String
deriving DecidableEq, Repr

/-! ## Problems of documents -/

inductive ProblemKind where
  | missing | notText | notInVocabulary | notList | notObject | notModel | notInteger
  | badIntegerText | fractionalInteger | integerTooLarge | notFinite | notBool | badBool
  | notTimestamp | badTimestamp | badTimestampText
deriving DecidableEq, Repr

/-- The name of the problem. -/
def ProblemKind.word : ProblemKind → String
  | missing => "missing"
  | notText => "string_type"
  | notInVocabulary => "enum"
  | notList => "list_type"
  | notObject => "dict_type"
  | notModel => "model_type"
  | notInteger => "int_type"
  | badIntegerText => "int_parsing"
  | fractionalInteger => "int_from_float"
  | integerTooLarge => "int_parsing_size"
  | notFinite => "finite_number"
  | notBool => "bool_type"
  | badBool => "bool_parsing"
  | notTimestamp => "datetime_type"
  | badTimestamp => "datetime_parsing"
  | badTimestampText => "datetime_from_date_parsing"

inductive PathStep where
  | key (name : String)
  | index (n : Nat)
deriving DecidableEq, Repr

structure Problem where
  path : List PathStep
  kind : ProblemKind
deriving DecidableEq, Repr

end ReceiptRules
