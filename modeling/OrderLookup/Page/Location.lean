import OrderLookup.Order.Id
import OrderLookup.Url.Form
import OrderLookup.Url.Parse

/-!
# Page locations

The result page of an order is at a location with the order id as a query parameter. A location is
an absolute URL, or a path with an optional query.
-/

namespace OrderLookup.Page

open OrderLookup.Text

def orderUidKey : String := "order_uid"

def resultPath : String := "/result.html"

def resultLocation (id : OrderId) : String :=
  String.ofList (resultPath.toList ++ '?' :: Url.Form.write [(orderUidKey.toList, id.chars)])

def relativeQuery (location : String) : Option (List Char) :=
  (cut '?' location.toList).2.map fun after => (cut '#' after).1

def query (location : String) : Option (List Char) :=
  match Url.parse location with
  | .ok url => url.query
  | .error _ => relativeQuery location

/-- The order id that a location asks for: the value of the first parameter of that name, unless it
is empty. -/
def orderUid? (location : String) : Option String := do
  let pairs := Url.Form.read (← query location)
  let (_, value) ← pairs.find? (·.1 == orderUidKey.toList)
  if value.isEmpty then none else some (String.ofList value)

def submit (raw : String) : Except InvalidId String :=
  (OrderId.parse raw).map resultLocation

/-- A key pressed in the search field. Only the enter key submits. -/
def keyPress? (key raw : String) : Option (Except InvalidId String) :=
  if key = "Enter" then some (submit raw) else none

end OrderLookup.Page
