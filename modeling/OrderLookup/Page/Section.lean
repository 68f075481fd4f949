import OrderLookup.Page.Surface

/-!
# Sections of the result page

The regions of the result page: those of an order, its delivery and its payment in labelled groups,
and the rest.
-/

namespace OrderLookup.Page

structure Section where
  title : String
  fields : List (RegionId × String)
  deriving DecidableEq

def orderSection : Section where
  title := "Order"
  fields := [
    ("orderUid", "order_uid"),
    ("trackNumber", "track_number"),
    ("entry", "entry"),
    ("locale", "locale"),
    ("internalSignature", "internal_signature"),
    ("customerId", "customer_id"),
    ("deliveryService", "delivery_service"),
    ("shardkey", "shardkey"),
    ("smId", "sm_id"),
    ("dateCreated", "date_created"),
    ("oofShard", "oof_shard")]

def deliverySection : Section where
  title := "Delivery"
  fields := [
    ("deliveryName", "name"),
    ("deliveryPhone", "phone"),
    ("deliveryZip", "zip"),
    ("deliveryCity", "city"),
    ("deliveryAddress", "address"),
    ("deliveryRegion", "region"),
    ("deliveryEmail", "email")]

def paymentSection : Section where
  title := "Payment"
  fields := [
    ("paymentTransaction", "transaction"),
    ("paymentRequestId", "request_id"),
    ("paymentCurrency", "currency"),
    ("paymentProvider", "provider"),
    ("paymentAmount", "amount"),
    ("paymentDt", "payment_dt"),
    ("paymentBank", "bank"),
    ("paymentDeliveryCost", "delivery_cost"),
    ("paymentGoodsTotal", "goods_total"),
    ("paymentCustomFee", "custom_fee")]

def sections : List Section :=
  [orderSection, deliverySection, paymentSection]

def itemsCount : RegionId := "itemsCount"

def errorMessage : RegionId := "errorMessage"

/-- The region of the execution time, which only rendering creates. -/
def executionTime : RegionId := "execution-time"

def loading : RegionId := "loading"

def error : RegionId := "error"

def result : RegionId := "result"

/-- The regions of which a page shows one at a time. -/
def modes : List RegionId := [loading, error, result]

/-- The regions that are always there and visible. -/
def textRegions : List RegionId :=
  sections.flatMap (·.fields.map (·.1)) ++ [itemsCount, errorMessage]

def Surface.blank : Surface where
  regions := textRegions.map (·, ⟨"", true⟩) ++ modes.map (·, ⟨"", false⟩)
  entries := []

end OrderLookup.Page
