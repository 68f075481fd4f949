/-!
# Orders

An order as the order service keeps it. Dates are kept as text, as the service sent them.
-/

namespace OrderLookup

structure Delivery where
  name : String
  phone : String
  zip : String
  city : String
  address : String
  region : String
  email : String
  deriving DecidableEq

structure Payment where
  transaction : String
  requestId : Option String
  currency : String
  provider : String
  amount : Int64
  /-- Seconds since 1970. -/
  paidAt : Int64
  bank : String
  deliveryCost : Int64
  goodsTotal : Int64
  customFee : Int64
  deriving DecidableEq

structure Item where
  chrtId : Int64
  trackNumber : String
  price : Int64
  rid : String
  name : String
  /-- The discount in percent. -/
  sale : Int64
  size : String
  totalPrice : Int64
  nmId : Int64
  brand : String
  status : Int64
  deriving DecidableEq

structure Order where
  orderUid : String
  trackNumber : String
  entry : String
  delivery : Option Delivery
  payment : Option Payment
  items : List Item
  locale : String
  internalSignature : Option String
  customerId : String
  deliveryService : String
  shardkey : String
  smId : Int64
  dateCreated : String
  oofShard : String
  deriving DecidableEq

end OrderLookup
