import ReceiptRules.Store.Registry

/-!
# Built-in rules

The system rules that every store starts with: dining, lodging, ground transport, long-distance
travel, and invoices on value added tax. The last has the lowest priority, so that anything more
specific wins over it.
-/

namespace ReceiptRules.SystemRules

def isType (receiptType : String) : Condition :=
  { field := .receiptType, operator := .equals, value := receiptType, joiner := .or }

def soldBy (pattern : String) : Condition :=
  { field := .sellerName, operator := .regex, value := pattern }

def expense (subCategory : SubCategory) (expenseType tags : String) : List Action := [
  ⟨.setCategory, Category.expense.word⟩, ⟨.setSubCategory, subCategory.word⟩,
  ⟨.setExpenseType, expenseType⟩, ⟨.addTag, tags⟩]

def dining : Template where
  name := "SYSTEM_DINING"
  draft := {
    id := "SYS-DINING"
    name := "Dining"
    description := some ("Restaurant and catering receipts; large bills are treated as business " ++
      "entertainment by a user rule.")
    priority := 20
    conditions := [isType "DINING_INVOICE", soldBy "餐饮|餐厅|饭店|Restaurant"]
    actions := expense .meal "餐费" "meal" }

def lodging : Template where
  name := "SYSTEM_LODGING"
  draft := {
    id := "SYS-LODGING"
    name := "Hotel and accommodation"
    priority := 25
    conditions := [isType "ACCOMMODATION_INVOICE", soldBy "酒店|宾馆|Hotel|Inn"]
    actions := expense .travel "住宿费" "travel, lodging" }

def groundTransport : Template where
  name := "SYSTEM_GROUND_TRANSPORT"
  draft := {
    id := "SYS-GROUND-TRANSPORT"
    name := "Taxi and bus fares"
    description := some "Taxi receipts and bus tickets are travel expenses."
    priority := 30
    conditions := [
      { field := .receiptType, operator := .inList, value := "TAXI_RECEIPT, BUS_TICKET",
        joiner := .or },
      soldBy "出租|客运|Taxi|TAXI"]
    actions := expense .travel "市内交通" "travel, ground-transport" }

def trainAndFlight : Template where
  name := "SYSTEM_TRAIN_AND_FLIGHT"
  draft := {
    id := "SYS-TRAIN-AND-FLIGHT"
    name := "Train tickets and flight itineraries"
    description := some "Long-distance tickets are travel expenses and get an archive number."
    priority := 30
    conditions := [
      { field := .receiptType, operator := .inList, value := "TRAIN_TICKET, FLIGHT_ITINERARY" }]
    actions := expense .travel "差旅费" "travel" ++ [⟨.generateArchiveNumber, ""⟩] }

def vatInvoices : Template where
  name := "SYSTEM_VAT_INVOICES"
  draft := {
    id := "SYS-VAT-INVOICES"
    name := "VAT invoices"
    description := some "Remaining VAT invoices are filed as expenses and numbered for the archive."
    priority := 5
    conditions := [{ field := .receiptType, operator := .startsWith, value := "VAT_" }]
    actions := [
      ⟨.setCategory, Category.expense.word⟩, ⟨.addTag, "invoice"⟩, ⟨.archive, "invoices"⟩,
      ⟨.generateArchiveNumber, ""⟩] }

/-- The registry of the built-in rules. -/
def registry : Registry := ⟨[dining, lodging, groundTransport, trainAndFlight, vatInvoices]⟩

end ReceiptRules.SystemRules
