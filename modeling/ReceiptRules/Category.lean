import ReceiptRules.Vocabulary

/-!
# Categories

The categories under which receipts are filed, with their archive codes, and the sub-categories.
-/

namespace ReceiptRules

inductive Category where
  | income | expense | expenseType | contract | voucher | other
deriving DecidableEq, Repr

namespace Category

def all : List Category := [income, expense, expenseType, contract, voucher, other]

def word : Category → String
  | income => "INCOME"
  | expense => "EXPENSE"
  | expenseType => "EXPENSE_TYPE"
  | contract => "CONTRACT"
  | voucher => "VOUCHER"
  | other => "OTHER"

instance : Vocabulary Category where
  all := all
  word := word

/-- The code that stands for the category in archive numbers. -/
def archiveCode : Category → String
  | income => "INC"
  | expense => "EXP"
  | expenseType => "EXT"
  | contract => "CON"
  | voucher => "VOU"
  | other => "OTH"

def displayName : Category → String
  | income => "收入类票据"
  | expense => "支出类票据"
  | expenseType => "费用类票据"
  | contract => "合同文件"
  | voucher => "账务凭证"
  | other => "其他文件"

def ofWord? (s : String) : Option Category := all.find? fun c ↦ c.word == s

end Category

inductive SubCategory where
  | procurement | expense | asset | travel | office | businessEntertainment | welfare | meal | other
deriving DecidableEq, Repr

namespace SubCategory

def all : List SubCategory := [
  procurement, expense, asset, travel, office, businessEntertainment, welfare, meal, other]

def word : SubCategory → String
  | procurement => "PROCUREMENT"
  | expense => "EXPENSE"
  | asset => "ASSET"
  | travel => "TRAVEL"
  | office => "OFFICE"
  | businessEntertainment => "BUSINESS_ENTERTAINMENT"
  | welfare => "WELFARE"
  | meal => "MEAL"
  | other => "OTHER"

instance : Vocabulary SubCategory where
  all := all
  word := word

def ofWord? (s : String) : Option SubCategory := all.find? fun c ↦ c.word == s

end SubCategory

end ReceiptRules
