import OrderLookup.Proofs.Json.Document
import OrderLookup.Proofs.Order.Slots

/-!
# Documents of orders

Which objects are orders (`Order.decode_object`), and that an order is read back as it was written
(`Order.decode_encode_self`).
-/

namespace OrderLookup

open Json

namespace Order

/-- An object is an order if its keys are texts, no key of an order occurs twice, the required ones
occur and their values are of the right kind, and so for the records inside. Each field is the value
of its member, and what is left out is as in the blank order. Neither the order of the members nor
unknown ones matter. -/
theorem decode_object {ms : Members} {s front back : List UInt8}
    (spelled : Spells (.value (.object ms)) s) (before : Blank front) (after : Blank back) :
    ((∃ o, decode (front ++ (s ++ back)) = .ok o) ↔ Slot.Accepted slots ms) ∧
    (∀ ms, (∃ d, Slot.record Delivery.slots Delivery.shape.blank (.object ms) d) ↔
      Slot.Accepted Delivery.slots ms) ∧
    (∀ ms, (∃ p, Slot.record Payment.slots Payment.shape.blank (.object ms) p) ↔
      Slot.Accepted Payment.slots ms) ∧
    (∀ ms, (∃ i, Slot.record Item.slots Item.shape.blank (.object ms) i) ↔
      Slot.Accepted Item.slots ms) ∧
    (∀ o, decode (front ++ (s ++ back)) = .ok o → ∀ slot ∈ slots,
      (∀ v, (some slot.key, v) ∈ ms → slot.meaning v (slot.get o)) ∧
      (Slot.occurrences ms slot.key = 0 → slot.get o = slot.get shape.blank)) ∧
    ∀ {ms' s' front' back'}, Slot.Rearranged slots ms ms' → Spells (.value (.object ms')) s' →
      Blank front' → Blank back' → ∀ o,
        (decode (front' ++ (s' ++ back')) = .ok o ↔ decode (front ++ (s ++ back)) = .ok o) := by
  have describes (o : Order) : decode (front ++ (s ++ back)) = .ok o ↔
      Slot.Describes slots shape.blank ms o := Codec.decode_iff reads spelled before after
  refine ⟨?_, fun _ => Slot.exists_describes_iff Delivery.independent,
    fun _ => Slot.exists_describes_iff Payment.independent,
    fun _ => Slot.exists_describes_iff Item.independent, fun o decoded slot listed => ?_,
    fun rearranged spelled' before' after' o => ?_⟩
  · simp only [describes]
    exact Slot.exists_describes_iff independent
  · exact ((describes o).mp decoded).content listed
  · rw [describes, ← rearranged.describes]
    exact Codec.decode_iff reads spelled' before' after'

def blankMembers : String :=
  "\"order_uid\":\"\",\"track_number\":\"\",\"entry\":\"\",\"delivery\":null,\"payment\":null," ++
  "\"items\":[],\"locale\":\"\",\"internal_signature\":null,\"customer_id\":\"\"," ++
  "\"delivery_service\":\"\",\"shardkey\":\"\",\"sm_id\":0,\"date_created\":\"\"," ++
  "\"oof_shard\":\"\"\x7d"

theorem encode_blank : encode shape.blank = ascii '{' :: asciiBytes blankMembers := by
  decide +kernel

theorem blank_spelled : ∃ m ms,
    Spells (.value (.object (m :: ms))) (ascii '{' :: asciiBytes blankMembers) ∧
      Slot.Describes slots shape.blank (m :: ms) shape.blank := by
  obtain ⟨ms, spelled, length, describes⟩ := Slot.record_written independent members_eq shape.blank
  change Spells _ (encode shape.blank) at spelled
  rw [encode_blank] at spelled
  cases ms with
  | nil => cases length
  | cons m ms => exact ⟨m, ms, spelled, describes⟩

/-- White space, and a member that orders do not have, in a document of the blank order. -/
theorem decode_object_unknown :
    ∃ ms, Spells (.value (.object ms)) (ascii '{' :: asciiBytes blankMembers) ∧
      Slot.Accepted slots ms ∧
      Slot.Rearranged slots ms ((some "note", .array []) :: ms) ∧
      decode (asciiBytes " " ++ ((ascii '{' :: (asciiBytes "\"note\":[]" ++ ascii ',' ::
        asciiBytes blankMembers)) ++ asciiBytes "\n")) = .ok shape.blank := by
  obtain ⟨m, ms, spelled, describes⟩ := blank_spelled
  have note : Spells (.member (some "note") (.array [])) (asciiBytes "\"note\":[]") :=
    .keyed blank_nil (quoted_quote "note") blank_nil
      (Spells.padded_self (.array (.noElement blank_nil)))
  have rearranged : Slot.Rearranged slots (m :: ms) ((some "note", .array []) :: m :: ms) := by
    refine ⟨[(some "note", .array [])], m :: ms, ?_, ?_, .refl _⟩
    · intro _ member
      obtain rfl := List.mem_singleton.mp member
      exact ⟨"note", rfl, by decide⟩
    · exact List.forall₂_same.mpr fun _ _ => ⟨rfl, fun _ _ _ _ => Iff.rfl⟩
  have plain : decode ([] ++ (ascii '{' :: asciiBytes blankMembers ++ [])) = .ok shape.blank :=
    (Codec.decode_iff reads spelled blank_nil blank_nil).mpr describes
  obtain ⟨accepts, _, _, _, _, same⟩ := decode_object spelled blank_nil blank_nil
  refine ⟨m :: ms, spelled, accepts.mp ⟨_, plain⟩, rearranged, ?_⟩
  exact (same rearranged (spelled.object_cons note) (by decide +kernel) (by decide +kernel) _).mpr
    plain

/-- A key that is no text, here an unpaired surrogate, spoils an order even if the order does not
have that key. -/
theorem decode_object_unpaired :
    ∃ ms, Spells (.value (.object ms)) (ascii '{' :: (asciiBytes "\"\\ud800\":0" ++ ascii ',' ::
        asciiBytes blankMembers)) ∧
      Slot.Fits slots ms ∧
      ∀ o, decode (ascii '{' :: (asciiBytes "\"\\ud800\":0" ++ ascii ',' ::
        asciiBytes blankMembers)) ≠ .ok o := by
  obtain ⟨m, ms, spelled, describes⟩ := blank_spelled
  have fits := ((Slot.exists_describes_iff independent).mp ⟨_, describes⟩).2
  have quoted : Quoted none (asciiBytes "\"\\ud800\"") :=
    @Quoted.intro [.unit (ascii 'd') (ascii '8') (ascii '0') (ascii '0')] (by decide +kernel)
  have zero : (Literal.mk (asciiBytes "0") [] none).Valid :=
    ⟨⟨nofun, by decide +kernel⟩, fun _ => rfl, nofun, nofun⟩
  have first : Spells (.member none (.number false ⟨asciiBytes "0", [], none⟩))
      (asciiBytes "\"\\ud800\":0") :=
    .keyed blank_nil quoted blank_nil (Spells.padded_self (.number false zero .none))
  have whole := spelled.object_cons first
  have unnamed (slot : Slot Order) : none ≠ some slot.key := nofun
  refine ⟨_, whole, ⟨fun slot listed => ?_, fun slot listed => ?_, fun slot listed v member => ?_⟩,
    fun o decoded => ?_⟩
  · rw [Slot.occurrences_cons_of_ne (unnamed slot)]
    exact fits.once slot listed
  · rw [Slot.occurrences_cons_of_ne (unnamed slot)]
    exact fits.required slot listed
  · rcases List.mem_cons.mp member with same | later
    · exact (unnamed slot (congrArg Prod.fst same).symm).elim
    · exact fits.typed slot listed v later
  · have describes := Codec.decode_iff reads whole blank_nil blank_nil (b := o)
    rw [List.nil_append, List.append_nil] at describes
    cases (describes.mp decoded).named _ List.mem_cons_self

/-- An order is written as an object that describes it, and read back from it. -/
theorem decode_encode_self (o : Order) :
    (∃ ms, Spells (.value (.object ms)) (encode o) ∧ Slot.Describes slots shape.blank ms o) ∧
      decode (encode o) = .ok o := by
  obtain ⟨ms, spelled, _, describes⟩ := Slot.record_written independent members_eq o
  exact ⟨⟨ms, spelled, describes⟩, Codec.decode_write reads writes o⟩

end Order

end OrderLookup
