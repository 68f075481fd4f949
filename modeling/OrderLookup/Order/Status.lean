import OrderLookup.Text.Decimal

/-!
# Item status
-/

namespace OrderLookup

def statusWords : List (Int × String) :=
  [(202, "Approved"), (200, "Created"), (300, "Sale"), (400, "Not available")]

/-- The word for an item state, or its number if it has none. -/
def statusLabel (code : Int) : String :=
  match statusWords.find? (·.1 == code) with
  | some (_, word) => word
  | none => intText code

end OrderLookup
