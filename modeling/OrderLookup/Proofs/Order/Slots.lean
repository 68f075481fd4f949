import OrderLookup.Order.Wire
import OrderLookup.Proofs.Json.Record
import OrderLookup.Proofs.Json.Written

/-!
# The slots of orders

The members of orders and of their parts, with what their values mean.
-/

namespace OrderLookup

open Json Codec

variable {α β : Type}

def slot {c : Codec β} {m : Meaning β} (reads : c.Reads m) (writes : c.Writes m) (key : String)
    (optional : Bool) (get : α → β) (set : β → α → α) (get_set : ∀ b a, get (set b a) = b) :
    Slot α :=
  ⟨key, optional, c, m, get, set, reads, writes, get_set⟩

def textSlot (key : String) (get : α → String) (set : String → α → α)
    (get_set : ∀ b a, get (set b a) = b) : Slot α :=
  slot text_reads text_writes key false get set get_set

def integerSlot (key : String) (get : α → Int64) (set : Int64 → α → α)
    (get_set : ∀ b a, get (set b a) = b) : Slot α :=
  slot integer_reads integer_writes key false get set get_set

theorem text_proper (s : String) : ¬Meaning.text .null s := nofun

def optionalTextSlot (key : String) (get : α → Option String) (set : Option String → α → α)
    (get_set : ∀ b a, get (set b a) = b) : Slot α :=
  slot (nullable_reads text_reads) (nullable_writes text_writes text_proper) key true get set
    get_set

namespace Delivery

def slots : List (Slot Delivery) := [
  textSlot "name" (·.name) (fun v d => { d with name := v }) fun _ _ => rfl,
  textSlot "phone" (·.phone) (fun v d => { d with phone := v }) fun _ _ => rfl,
  textSlot "zip" (·.zip) (fun v d => { d with zip := v }) fun _ _ => rfl,
  textSlot "city" (·.city) (fun v d => { d with city := v }) fun _ _ => rfl,
  textSlot "address" (·.address) (fun v d => { d with address := v }) fun _ _ => rfl,
  textSlot "region" (·.region) (fun v d => { d with region := v }) fun _ _ => rfl,
  textSlot "email" (·.email) (fun v d => { d with email := v }) fun _ _ => rfl]

theorem members_eq : shape.members = slots.map Slot.member := rfl

theorem independent : Slot.Independent slots :=
  Slot.independent_of_stores (by decide) (by rintro ⟨⟩ ⟨⟩; rfl) (by rintro ⟨⟩ ⟨⟩; rfl)

theorem reads : shape.codec.Reads (Slot.record slots shape.blank) :=
  Slot.record_reads independent members_eq

theorem writes : shape.codec.Writes (Slot.record slots shape.blank) :=
  Slot.record_writes independent members_eq

end Delivery

namespace Payment

def slots : List (Slot Payment) := [
  textSlot "transaction" (·.transaction) (fun v p => { p with transaction := v }) fun _ _ => rfl,
  optionalTextSlot "request_id" (·.requestId) (fun v p => { p with requestId := v }) fun _ _ => rfl,
  textSlot "currency" (·.currency) (fun v p => { p with currency := v }) fun _ _ => rfl,
  textSlot "provider" (·.provider) (fun v p => { p with provider := v }) fun _ _ => rfl,
  integerSlot "amount" (·.amount) (fun v p => { p with amount := v }) fun _ _ => rfl,
  integerSlot "payment_dt" (·.paidAt) (fun v p => { p with paidAt := v }) fun _ _ => rfl,
  textSlot "bank" (·.bank) (fun v p => { p with bank := v }) fun _ _ => rfl,
  integerSlot "delivery_cost" (·.deliveryCost)
    (fun v p => { p with deliveryCost := v }) fun _ _ => rfl,
  integerSlot "goods_total" (·.goodsTotal) (fun v p => { p with goodsTotal := v }) fun _ _ => rfl,
  integerSlot "custom_fee" (·.customFee) (fun v p => { p with customFee := v }) fun _ _ => rfl]

theorem members_eq : shape.members = slots.map Slot.member := rfl

theorem independent : Slot.Independent slots :=
  Slot.independent_of_stores (by decide) (by rintro ⟨⟩ ⟨⟩; rfl) (by rintro ⟨⟩ ⟨⟩; rfl)

theorem reads : shape.codec.Reads (Slot.record slots shape.blank) :=
  Slot.record_reads independent members_eq

theorem writes : shape.codec.Writes (Slot.record slots shape.blank) :=
  Slot.record_writes independent members_eq

end Payment

namespace Item

def slots : List (Slot Item) := [
  integerSlot "chrt_id" (·.chrtId) (fun v i => { i with chrtId := v }) fun _ _ => rfl,
  textSlot "track_number" (·.trackNumber) (fun v i => { i with trackNumber := v }) fun _ _ => rfl,
  integerSlot "price" (·.price) (fun v i => { i with price := v }) fun _ _ => rfl,
  textSlot "rid" (·.rid) (fun v i => { i with rid := v }) fun _ _ => rfl,
  textSlot "name" (·.name) (fun v i => { i with name := v }) fun _ _ => rfl,
  integerSlot "sale" (·.sale) (fun v i => { i with sale := v }) fun _ _ => rfl,
  textSlot "size" (·.size) (fun v i => { i with size := v }) fun _ _ => rfl,
  integerSlot "total_price" (·.totalPrice) (fun v i => { i with totalPrice := v }) fun _ _ => rfl,
  integerSlot "nm_id" (·.nmId) (fun v i => { i with nmId := v }) fun _ _ => rfl,
  textSlot "brand" (·.brand) (fun v i => { i with brand := v }) fun _ _ => rfl,
  integerSlot "status" (·.status) (fun v i => { i with status := v }) fun _ _ => rfl]

theorem members_eq : shape.members = slots.map Slot.member := rfl

theorem independent : Slot.Independent slots :=
  Slot.independent_of_stores (by decide) (by rintro ⟨⟩ ⟨⟩; rfl) (by rintro ⟨⟩ ⟨⟩; rfl)

theorem reads : shape.codec.Reads (Slot.record slots shape.blank) :=
  Slot.record_reads independent members_eq

theorem writes : shape.codec.Writes (Slot.record slots shape.blank) :=
  Slot.record_writes independent members_eq

end Item

namespace Order

def slots : List (Slot Order) := [
  textSlot "order_uid" (·.orderUid) (fun v o => { o with orderUid := v }) fun _ _ => rfl,
  textSlot "track_number" (·.trackNumber) (fun v o => { o with trackNumber := v }) fun _ _ => rfl,
  textSlot "entry" (·.entry) (fun v o => { o with entry := v }) fun _ _ => rfl,
  slot (nullable_reads Delivery.reads) (nullable_writes Delivery.writes Slot.record_proper)
    "delivery" true (·.delivery) (fun v o => { o with delivery := v }) fun _ _ => rfl,
  slot (nullable_reads Payment.reads) (nullable_writes Payment.writes Slot.record_proper)
    "payment" true (·.payment) (fun v o => { o with payment := v }) fun _ _ => rfl,
  slot (listOrNull_reads Item.reads) (listOrNull_writes Item.writes) "items" true (·.items)
    (fun v o => { o with items := v }) fun _ _ => rfl,
  textSlot "locale" (·.locale) (fun v o => { o with locale := v }) fun _ _ => rfl,
  optionalTextSlot "internal_signature" (·.internalSignature)
    (fun v o => { o with internalSignature := v }) fun _ _ => rfl,
  textSlot "customer_id" (·.customerId) (fun v o => { o with customerId := v }) fun _ _ => rfl,
  textSlot "delivery_service" (·.deliveryService)
    (fun v o => { o with deliveryService := v }) fun _ _ => rfl,
  textSlot "shardkey" (·.shardkey) (fun v o => { o with shardkey := v }) fun _ _ => rfl,
  integerSlot "sm_id" (·.smId) (fun v o => { o with smId := v }) fun _ _ => rfl,
  textSlot "date_created" (·.dateCreated) (fun v o => { o with dateCreated := v }) fun _ _ => rfl,
  textSlot "oof_shard" (·.oofShard) (fun v o => { o with oofShard := v }) fun _ _ => rfl]

theorem members_eq : shape.members = slots.map Slot.member := rfl

theorem independent : Slot.Independent slots :=
  Slot.independent_of_stores (by decide) (by rintro ⟨⟩ ⟨⟩; rfl) (by rintro ⟨⟩ ⟨⟩; rfl)

theorem reads : shape.codec.Reads (Slot.record slots shape.blank) :=
  Slot.record_reads independent members_eq

theorem writes : shape.codec.Writes (Slot.record slots shape.blank) :=
  Slot.record_writes independent members_eq

end Order

end OrderLookup
