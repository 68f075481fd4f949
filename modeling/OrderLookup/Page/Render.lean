import OrderLookup.Calendar.Display
import OrderLookup.Order.Record
import OrderLookup.Order.Status
import OrderLookup.Page.Section

/-!
# Rendering an order

Rendering is a list of edits: the fields of the order, those of its delivery and of its payment if
it has them, the list of its items and the time the request took.
-/

namespace OrderLookup

/-- A field of a record, as it is displayed, and the region that it is put into. -/
structure Page.FieldView (α : Type) where
  region : Page.RegionId
  value : Calendar.Zone → α → String

def int64Text (z : Int64) : String :=
  intText z.toInt

open Page Calendar

def Order.fields : List (FieldView Order) := [
  ⟨"orderUid", fun _ o => o.orderUid⟩,
  ⟨"trackNumber", fun _ o => o.trackNumber⟩,
  ⟨"entry", fun _ o => o.entry⟩,
  ⟨"locale", fun _ o => o.locale⟩,
  ⟨"internalSignature", fun _ o => o.internalSignature.getD ""⟩,
  ⟨"customerId", fun _ o => o.customerId⟩,
  ⟨"deliveryService", fun _ o => o.deliveryService⟩,
  ⟨"shardkey", fun _ o => o.shardkey⟩,
  ⟨"smId", fun _ o => int64Text o.smId⟩,
  ⟨"dateCreated", fun zone o => formatDate zone o.dateCreated⟩,
  ⟨"oofShard", fun _ o => o.oofShard⟩]

def Delivery.fields : List (FieldView Delivery) := [
  ⟨"deliveryName", fun _ d => d.name⟩,
  ⟨"deliveryPhone", fun _ d => d.phone⟩,
  ⟨"deliveryZip", fun _ d => d.zip⟩,
  ⟨"deliveryCity", fun _ d => d.city⟩,
  ⟨"deliveryAddress", fun _ d => d.address⟩,
  ⟨"deliveryRegion", fun _ d => d.region⟩,
  ⟨"deliveryEmail", fun _ d => d.email⟩]

def Payment.fields : List (FieldView Payment) := [
  ⟨"paymentTransaction", fun _ p => p.transaction⟩,
  ⟨"paymentRequestId", fun _ p => p.requestId.getD ""⟩,
  ⟨"paymentCurrency", fun _ p => p.currency⟩,
  ⟨"paymentProvider", fun _ p => p.provider⟩,
  ⟨"paymentAmount", fun _ p => int64Text p.amount⟩,
  ⟨"paymentDt", fun zone p => formatEpoch zone (some p.paidAt.toInt)⟩,
  ⟨"paymentBank", fun _ p => p.bank⟩,
  ⟨"paymentDeliveryCost", fun _ p => int64Text p.deliveryCost⟩,
  ⟨"paymentGoodsTotal", fun _ p => int64Text p.goodsTotal⟩,
  ⟨"paymentCustomFee", fun _ p => int64Text p.customFee⟩]

namespace Page

def fieldEdits {α : Type} (zone : Zone) (fields : List (FieldView α)) (a : α) : List Edit :=
  fields.map fun f => .setText f.region (f.value zone a)

/-- The card of the item at a position counted from zero. -/
def itemCard (index : Nat) (item : Item) : Card where
  title := "Item " ++ natText (index + 1)
  fields := [
    ("chrt_id", int64Text item.chrtId),
    ("track_number", item.trackNumber),
    ("price", int64Text item.price),
    ("rid", item.rid),
    ("name", item.name),
    ("sale", int64Text item.sale ++ "%"),
    ("size", item.size),
    ("total_price", int64Text item.totalPrice),
    ("nm_id", int64Text item.nmId),
    ("brand", item.brand),
    ("status", statusLabel item.status.toInt)]

def itemEntries (items : List Item) : List Entry :=
  if items.isEmpty then [.placeholder "No items in order"]
  else items.mapIdx fun index item => .card (itemCard index item)

def itemEdits (items : List Item) : List Edit :=
  .setText itemsCount (natText items.length) :: .clear itemsList ::
    (itemEntries items).map (.append itemsList)

def timingText (ms : Nat) : String :=
  "Request completed in " ++ natText ms ++ " ms"

def timingEdits (ms : Nat) : List Edit :=
  [.ensure executionTime, .setText executionTime (timingText ms)]

def renderEdits (zone : Zone) (order : Order) (ms : Nat) : List Edit :=
  fieldEdits zone Order.fields order ++
    (order.delivery.map (fieldEdits zone Delivery.fields)).getD [] ++
    (order.payment.map (fieldEdits zone Payment.fields)).getD [] ++
    itemEdits order.items ++ timingEdits ms

def Surface.render (s : Surface) (zone : Zone) (order : Order) (ms : Nat) : Surface :=
  s.applyAll (renderEdits zone order ms)

end Page

end OrderLookup
