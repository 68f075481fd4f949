import OrderLookup.Text.Blank

/-!
# Order ids

An order id is any text of twenty characters; what it means is the server's business.
`OrderId.parse` accepts a text that has this length once the white space around it is gone.
-/

namespace OrderLookup

/-- An order id: exactly twenty characters, without white space at either end. -/
structure OrderId where
  chars : List Char
  length_chars : chars.length = 20
  trim_chars : Text.trim chars = chars
  deriving DecidableEq

inductive InvalidId where
  | empty
  | wrongLength (actual : Nat)
  deriving DecidableEq

namespace InvalidId

def message : InvalidId → String
  | .empty => "Please enter order_uid"
  | .wrongLength _ => "Order UID must be exactly 20 symbols"

end InvalidId

namespace OrderId

def text (id : OrderId) : String :=
  String.ofList id.chars

/-- Reads an id, without regard to white space around it. -/
def parse (raw : String) : Except InvalidId OrderId :=
  let chars := Text.trim raw.toList
  if chars.isEmpty then .error .empty
  else if h : chars.length = 20 then .ok ⟨chars, h, Text.trim_trim _⟩
  else .error (.wrongLength chars.length)

end OrderId

end OrderLookup
