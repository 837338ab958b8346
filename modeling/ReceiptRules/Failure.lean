import ReceiptRules.Date.Format
import ReceiptRules.Json.Reader
import ReceiptRules.Pattern.Problem
import ReceiptRules.Vocabulary
import ReceiptRules.Text.Quoted
import ReceiptRules.Text.Digit

/-!
# Failures

The causes that stop an operation, and the text of each. What is merely wrong with a rule or with a
value of a receipt is no failure; it is noted as a diagnostic.
-/

namespace ReceiptRules

open Text

inductive Failure where
  | unknownField (shown : String)
  | emptySeparator
  | dateFormat (error : Date.Format.Error)
  | formatNotText (kind : String)
  | pattern (problem : Pattern.Problem)
  | longSerial (digits : Nat)
  | unwritableSerial
  | unwritableNumber
  | invalidRule (name : String) (problems : List String)
  | duplicateRule (id : String)
  | unknownRule (id : String)
  | permanentRule (name : String)
  | incompleteOrder
  | unknownSystemRule (id : String)
  | systemRuleWithoutId (factory : String)
  | duplicateSystemRule (id : String)
  | invalidDocument (problems : List Problem)
  | noEntries (kind : String)
  | notIterable (kind : String)
  | noMembers (kind : String)
  | notNumeric (kind : String)
  | notWhole (shown : String)
  | undefinedToInteger (shown : String)
  | infiniteToInteger (shown : String)
  | longNumber (digits : Nat)
  | pairLength (index length : Nat)
  | pairNotSequence (index : Nat)
  | unfitKey (kind : String)
  | json (error : Json.Error)
  | missingFile (path : String)
  | notDirectory (path : String)
  | isDirectory (path : String)
  | namelessPath (path : String)
deriving DecidableEq, Repr

def Failure.message : Failure → String
  | unknownField shown => s!"Unknown field identifier: {shown}"
  | emptySeparator => "empty separator"
  | dateFormat error => error.message
  | formatNotText kind => s!"strptime() argument 2 must be str, not {kind}"
  | pattern problem => problem.message ""
  | longSerial digits | longNumber digits => WholeNumber.tooLongToRead digits
  | unwritableSerial | unwritableNumber => WholeNumber.tooLongToWrite
  | invalidRule name problems => s!"Rule '{name}' is invalid: " ++ "; ".intercalate problems
  | duplicateRule id => s!"Duplicate rule id: {id}"
  | unknownRule id | unknownSystemRule id => Quoted.quote id
  | permanentRule name => s!"System rule '{name}' cannot be deleted; disable it instead."
  | incompleteOrder => "reorder needs every rule id exactly once"
  | systemRuleWithoutId factory =>
    s!"System rule factory {factory} returned a rule without an id"
  | duplicateSystemRule id => s!"Duplicate system rule id registered: {id}"
  | invalidDocument _ => ""
  | noEntries kind => s!"'{kind}' object has no attribute 'get'"
  | notIterable kind => s!"'{kind}' object is not iterable"
  | noMembers kind => s!"argument of type '{kind}' is not iterable"
  | notNumeric kind =>
    s!"int() argument must be a string, a bytes-like object or a real number, not '{kind}'"
  | notWhole shown => s!"invalid literal for int() with base 10: {shown}"
  | undefinedToInteger shown | infiniteToInteger shown => s!"cannot convert {shown} to integer"
  | pairLength index length =>
    s!"dictionary update sequence element #{index} has length {length}; 2 is required"
  | pairNotSequence index =>
    s!"cannot convert dictionary update sequence element #{index} to a sequence"
  | json error => error.message
  | unfitKey kind => s!"unhashable type: '{kind}'"
  | missingFile path => s!"[Errno 2] No such file or directory: {Quoted.quote path}"
  | notDirectory path => s!"[Errno 20] Not a directory: {Quoted.quote path}"
  | isDirectory path => s!"[Errno 21] Is a directory: {Quoted.quote path}"
  | namelessPath path => s!"PosixPath({Quoted.quote path}) has an empty name"

end ReceiptRules
