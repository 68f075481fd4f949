import OrderLookup.Json.Shape
import OrderLookup.Order.Record

/-!
# Orders as documents

The shapes under which orders and their parts are sent.
-/

namespace OrderLookup

open Json Codec

def Delivery.shape : Shape Delivery where
  name := "Delivery"
  blank := ⟨"", "", "", "", "", "", ""⟩
  members := [
    text.member "name" false (·.name) fun v d => { d with name := v },
    text.member "phone" false (·.phone) fun v d => { d with phone := v },
    text.member "zip" false (·.zip) fun v d => { d with zip := v },
    text.member "city" false (·.city) fun v d => { d with city := v },
    text.member "address" false (·.address) fun v d => { d with address := v },
    text.member "region" false (·.region) fun v d => { d with region := v },
    text.member "email" false (·.email) fun v d => { d with email := v }]

def Payment.shape : Shape Payment where
  name := "Payment"
  blank := ⟨"", none, "", "", 0, 0, "", 0, 0, 0⟩
  members := [
    text.member "transaction" false (·.transaction) fun v p => { p with transaction := v },
    (nullable text).member "request_id" true (·.requestId) fun v p => { p with requestId := v },
    text.member "currency" false (·.currency) fun v p => { p with currency := v },
    text.member "provider" false (·.provider) fun v p => { p with provider := v },
    integer.member "amount" false (·.amount) fun v p => { p with amount := v },
    integer.member "payment_dt" false (·.paidAt) fun v p => { p with paidAt := v },
    text.member "bank" false (·.bank) fun v p => { p with bank := v },
    integer.member "delivery_cost" false (·.deliveryCost) fun v p => { p with deliveryCost := v },
    integer.member "goods_total" false (·.goodsTotal) fun v p => { p with goodsTotal := v },
    integer.member "custom_fee" false (·.customFee) fun v p => { p with customFee := v }]

def Item.shape : Shape Item where
  name := "Item"
  blank := ⟨0, "", 0, "", "", 0, "", 0, 0, "", 0⟩
  members := [
    integer.member "chrt_id" false (·.chrtId) fun v i => { i with chrtId := v },
    text.member "track_number" false (·.trackNumber) fun v i => { i with trackNumber := v },
    integer.member "price" false (·.price) fun v i => { i with price := v },
    text.member "rid" false (·.rid) fun v i => { i with rid := v },
    text.member "name" false (·.name) fun v i => { i with name := v },
    integer.member "sale" false (·.sale) fun v i => { i with sale := v },
    text.member "size" false (·.size) fun v i => { i with size := v },
    integer.member "total_price" false (·.totalPrice) fun v i => { i with totalPrice := v },
    integer.member "nm_id" false (·.nmId) fun v i => { i with nmId := v },
    text.member "brand" false (·.brand) fun v i => { i with brand := v },
    integer.member "status" false (·.status) fun v i => { i with status := v }]

def Order.shape : Shape Order where
  name := "Order"
  blank := ⟨"", "", "", none, none, [], "", none, "", "", "", 0, "", ""⟩
  members := [
    text.member "order_uid" false (·.orderUid) fun v o => { o with orderUid := v },
    text.member "track_number" false (·.trackNumber) fun v o => { o with trackNumber := v },
    text.member "entry" false (·.entry) fun v o => { o with entry := v },
    (nullable Delivery.shape.codec).member "delivery" true (·.delivery)
      fun v o => { o with delivery := v },
    (nullable Payment.shape.codec).member "payment" true (·.payment)
      fun v o => { o with payment := v },
    (listOrNull Item.shape.codec).member "items" true (·.items) fun v o => { o with items := v },
    text.member "locale" false (·.locale) fun v o => { o with locale := v },
    (nullable text).member "internal_signature" true (·.internalSignature)
      fun v o => { o with internalSignature := v },
    text.member "customer_id" false (·.customerId) fun v o => { o with customerId := v },
    text.member "delivery_service" false (·.deliveryService)
      fun v o => { o with deliveryService := v },
    text.member "shardkey" false (·.shardkey) fun v o => { o with shardkey := v },
    integer.member "sm_id" false (·.smId) fun v o => { o with smId := v },
    text.member "date_created" false (·.dateCreated) fun v o => { o with dateCreated := v },
    text.member "oof_shard" false (·.oofShard) fun v o => { o with oofShard := v }]

def Order.decode (document : List UInt8) : Except Failure Order :=
  Order.shape.codec.decode document

def Order.encode (order : Order) : List UInt8 :=
  Order.shape.codec.write order

end OrderLookup
