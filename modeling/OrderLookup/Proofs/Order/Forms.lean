import OrderLookup.Proofs.Json.Forms
import OrderLookup.Proofs.Order.Slots

/-!
# Orders in mixed forms

An order and the records in it may each be an array or an object (`Order.Written`). All mixtures are
read as the same order, and none in which an array is too short or too long
(`Order.decode_forms`).
-/

namespace OrderLookup

open Json

def Delivery.Written : Meaning Delivery := fun v d =>
  Slot.Written slots shape.blank Slot.stands d v

def Payment.Written : Meaning Payment := fun v p =>
  Slot.Written slots shape.blank Slot.stands p v

def Item.Written : Meaning Item := fun v i =>
  Slot.Written slots shape.blank Slot.stands i v

namespace Order

/-- What stands for the content of a slot, if the records in it are written in either form. -/
def contents (slot : Slot Order) : Meaning Order := fun v o =>
  match slot.key with
  | "delivery" => Meaning.nullable Delivery.Written v o.delivery
  | "payment" => Meaning.nullable Payment.Written v o.payment
  | "items" => Meaning.listOrNull Item.Written v o.items
  | _ => slot.stands v o

def Written : Meaning Order := fun v o =>
  Slot.Written slots shape.blank contents o v

/-- The order or a record in it is an array that has not as many elements as there are slots. -/
inductive Miscounted : Value → Prop
  | order {vs : List Value} (wrong : vs.length ≠ slots.length) : Miscounted (.array vs)
  | delivery {v : Value} {vs : List Value} (held : Slot.Holds slots "delivery" (.array vs) v)
    (wrong : vs.length ≠ Delivery.slots.length) : Miscounted v
  | payment {v : Value} {vs : List Value} (held : Slot.Holds slots "payment" (.array vs) v)
    (wrong : vs.length ≠ Payment.slots.length) : Miscounted v
  | item {v : Value} {items : List Value} {vs : List Value}
    (held : Slot.Holds slots "items" (.array items) v) (listed : .array vs ∈ items)
    (wrong : vs.length ≠ Item.slots.length) : Miscounted v

theorem contents_stands {o : Order} : ∀ slot ∈ slots, ∀ v, contents slot v o → slot.stands v o := by
  have deliveries : ∀ v d, Delivery.Written v d → Slot.record Delivery.slots _ v d :=
    fun _ _ written => written.record Delivery.independent fun _ _ _ => id
  have payments : ∀ v p, Payment.Written v p → Slot.record Payment.slots _ v p :=
    fun _ _ written => written.record Payment.independent fun _ _ _ => id
  have items : ∀ v i, Item.Written v i → Slot.record Item.slots _ v i :=
    fun _ _ written => written.record Item.independent fun _ _ _ => id
  simp only [slots, List.forall_mem_cons, List.not_mem_nil, false_imp_iff, implies_true, and_true]
  refine ⟨fun _ => id, fun _ => id, fun _ => id, fun v h => ?delivery, fun v h => ?payment,
    fun v h => ?items, fun _ => id, fun _ => id, fun _ => id, fun _ => id, fun _ => id, fun _ => id,
    fun _ => id, fun _ => id⟩
  case delivery => exact Meaning.nullable_mono deliveries h
  case payment => exact Meaning.nullable_mono payments h
  case items => exact Meaning.listOrNull_mono items h

theorem Miscounted.not_record {v : Value} (h : Miscounted v) (o : Order) :
    ¬Slot.record slots shape.blank v o := by
  intro means
  have listed (i : Nat) (bound : i < slots.length) : slots[i] ∈ slots := List.getElem_mem bound
  cases h with
  | order wrong => exact wrong (Slot.Lists.length_eq (by rintro _ ⟨⟩; rfl) means)
  | delivery held wrong =>
    have content := held.means independent (listed 3 (by decide)) means
    exact wrong (Slot.nullable_length_eq (by rintro _ ⟨⟩; rfl) content)
  | payment held wrong =>
    have content := held.means independent (listed 4 (by decide)) means
    exact wrong (Slot.nullable_length_eq (by rintro _ ⟨⟩; rfl) content)
  | item held element wrong =>
    have content := held.means independent (listed 5 (by decide)) means
    obtain ⟨i, lists⟩ := Meaning.listOrNull_element content element
    exact wrong (Slot.Lists.length_eq (by rintro _ ⟨⟩; rfl) lists)

/-- An order is read from all its forms, whichever forms the records in it have. An array with an
element too few or too many, as the order or anywhere in it, is refused. -/
theorem decode_forms {v : Value} {s front back : List UInt8} (spelled : Spells (.value v) s)
    (before : Blank front) (after : Blank back) :
    (∀ o, Written v o → decode (front ++ (s ++ back)) = .ok o) ∧
      (Miscounted v → ∃ failure, decode (front ++ (s ++ back)) = .error failure) := by
  have means (o : Order) : decode (front ++ (s ++ back)) = .ok o ↔
      Slot.record slots shape.blank v o := Codec.decode_iff reads spelled before after
  constructor
  · intro o written
    exact (means o).mpr (Slot.Written.record independent contents_stands written)
  · intro miscounted
    cases result : decode (front ++ (s ++ back)) with
    | error failure => exact ⟨failure, rfl⟩
    | ok o => exact (miscounted.not_record o ((means o).mp result)).elim

def lettered : Delivery :=
  ⟨"n", "p", "z", "c", "a", "r", "e"⟩

def numbered : Item :=
  ⟨1, "t", 2, "r", "n", 3, "s", 4, 5, "b", 6⟩

def furnished : Order :=
  { shape.blank with delivery := some lettered, items := [numbered] }

/-- `furnished` as an array, with a text for the delivery. The item is an object from its last member
to its first. -/
def furnishedDocument (delivery : String) : List UInt8 :=
  asciiBytes ("[\"\",\"\",\"\"," ++ delivery ++ ",null,[\x7b\"status\":6,\"brand\":\"b\"," ++
    "\"nm_id\":5,\"total_price\":4,\"size\":\"s\",\"sale\":3,\"name\":\"n\",\"rid\":\"r\"," ++
    "\"price\":2,\"track_number\":\"t\",\"chrt_id\":1\x7d],\"\",null,\"\",\"\",\"\",0,\"\",\"\"]")

theorem decode_forms_furnished :
    (∃ v, Spells (.value v) (furnishedDocument "[\"n\",\"p\",\"z\",\"c\",\"a\",\"r\",\"e\"]") ∧
      Written v furnished ∧
      decode ([] ++ (furnishedDocument "[\"n\",\"p\",\"z\",\"c\",\"a\",\"r\",\"e\"]" ++ [])) =
        .ok furnished) ∧
    ∃ v, Spells (.value v) (furnishedDocument "[\"n\",\"p\",\"z\",\"c\",\"a\",\"r\"]") ∧
      Miscounted v ∧ ∃ failure,
        decode ([] ++ (furnishedDocument "[\"n\",\"p\",\"z\",\"c\",\"a\",\"r\"]" ++ [])) =
          .error failure := by
  have text (t : String) : Spells (.value (.string (some t))) (quote t) :=
    .string (quoted_quote t)
  obtain ⟨smId, number, zero⟩ := Codec.integer_writes 0
  obtain ⟨fields, delivery, parts⟩ := Slot.exists_values Delivery.slots lettered
  obtain ⟨contents, item, members⟩ := Slot.exists_values Item.slots numbered
  have reversed :=
    spells_object (List.forall₂_reverse_iff.mpr (Slot.members_named Item.slots members))
  have whole {v : Value} {s : List UInt8} (spelled : Spells (.value v) s) :=
    spells_array (.cons (text "") (.cons (text "") (.cons (text "") (.cons spelled (.cons .null
      (.cons (spells_array (.cons reversed .nil)) (.cons (text "") (.cons .null (.cons (text "")
      (.cons (text "") (.cons (text "") (.cons number (.cons (text "")
      (.cons (text "") .nil))))))))))))))
  have respelled {v : Value} {s t : List UInt8} (h : Spells (.value v) s) (same : s = t) :
      Spells (.value v) t := same ▸ h
  have full := respelled (t := furnishedDocument "[\"n\",\"p\",\"z\",\"c\",\"a\",\"r\",\"e\"]")
    (whole (spells_array parts)) (by decide +kernel)
  have short := respelled (t := furnishedDocument "[\"n\",\"p\",\"z\",\"c\",\"a\",\"r\"]")
    (whole (spells_array (List.forall₂_take 6 parts))) (by decide +kernel)
  have listed : Meaning.nullable Delivery.Written (.array fields) furnished.delivery :=
    ⟨nofun, .array delivery⟩
  have itemWritten : Item.Written (.object (Slot.named Item.slots contents).reverse) numbered :=
    .object (.refl Item.slots) (fun _ => Or.inl) item (List.reverse_perm _)
  have items : Meaning.listOrNull Item.Written (.array [_]) furnished.items :=
    Or.inr ⟨_, rfl, .cons itemWritten .nil⟩
  have written : Written (.array _) furnished :=
    .array (.cons rfl (.cons rfl (.cons rfl (.cons listed (.cons rfl (.cons items (.cons rfl
      (.cons rfl (.cons rfl (.cons rfl (.cons rfl (.cons zero (.cons rfl
      (.cons rfl .nil))))))))))))))
  have wrong : (fields.take 6).length ≠ Delivery.slots.length := by
    rw [List.length_take, show Delivery.slots.length = 7 from rfl]
    omega
  refine ⟨⟨_, full, written, (decode_forms full blank_nil blank_nil).1 _ written⟩, _, short, ?_⟩
  suffices miscounted : Miscounted _ from
    ⟨miscounted, (decode_forms short blank_nil blank_nil).2 miscounted⟩
  exact .delivery (.position (List.mem_of_getElem? (i := 3) rfl)) wrong

end Order

end OrderLookup
