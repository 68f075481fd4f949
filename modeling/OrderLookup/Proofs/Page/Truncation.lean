import OrderLookup.Proofs.Json.Extension
import OrderLookup.Proofs.Order.Document
import OrderLookup.Proofs.Page.Details
import OrderLookup.Proofs.Page.History

/-!
# Truncated documents

A document of an order has no other document of an order in front of it: cut short or followed by
anything but white space it is refused (`Order.decode_append`), so that no part of it is shown.
-/

namespace OrderLookup

open Json Codec Service

theorem text_member_steady {α : Type} (key : String) (get : α → String)
    (set : String → α → α) : Steady (text.member key false get set).read :=
  member_steady text_closed.steady key false get set

theorem integer_member_steady {α : Type} (key : String) (get : α → Int64)
    (set : Int64 → α → α) : Steady (integer.member key false get set).read :=
  member_steady integer_steady key false get set

theorem Delivery.codec_closed : Closed Delivery.shape.codec.read := by
  apply Shape.codec_closed
  simp [shape, text_member_steady]

theorem Payment.codec_closed : Closed Payment.shape.codec.read := by
  apply Shape.codec_closed
  have request := nullable_steady text_closed.steady
  simp [shape, text_member_steady, integer_member_steady, member_steady request]

theorem Item.codec_closed : Closed Item.shape.codec.read := by
  apply Shape.codec_closed
  simp [shape, text_member_steady, integer_member_steady]

namespace Order

theorem codec_closed : Closed shape.codec.read := by
  apply Shape.codec_closed
  have delivery := nullable_steady Delivery.codec_closed.steady
  have payment := nullable_steady Payment.codec_closed.steady
  have items := listOrNull_steady Item.codec_closed.steady
  have signature := nullable_steady text_closed.steady
  simp [shape, text_member_steady, integer_member_steady, member_steady delivery,
    member_steady payment, member_steady items, member_steady signature]

theorem decode_append {b : List UInt8} {o : Order} (decoded : decode b = .ok o)
    (tail : List UInt8) :
    decode (b ++ tail) = if Blank tail then .ok o else .error .illFormed :=
  Codec.decode_append codec_closed decoded tail

/-- What is cut off from a document, if it is more than white space, is missed. -/
theorem decode_cut {kept cut : List UInt8} {o : Order} (decoded : decode (kept ++ cut) = .ok o)
    (lost : ¬Blank cut) (other : Order) : decode kept ≠ .ok other := by
  intro short
  rw [decode_append short, if_neg lost] at decoded
  cases decoded

/-- A document of an order without its end, if that is more than white space, is no document of an
order, nor is the document with more than white space behind it. A success with the former is
malformed, and loading it changes nothing but the modes and the error message. -/
theorem truncated_not_shown {b : List UInt8} {o : Order} (decoded : decode b = .ok o) :
    (∀ kept cut, b = kept ++ cut → ¬Blank cut →
      (∃ failure, decode kept = .error failure) ∧
        ∀ (r : Response) (elapsed : Nat), r.Succeeds → r.body = kept →
          (∃ detail, (Exchange.answered r elapsed).order = .error (.malformed detail)) ∧
            ∀ (page : Page.ResultPage) uid,
              let turn := page.loadTurn uid (Exchange.answered r elapsed).order
              turn.returned = .error ∧ page.surface.OnlyFailed turn.after.surface) ∧
      ∀ tail, ¬Blank tail → ∃ failure, decode (b ++ tail) = .error failure := by
  constructor
  · rintro kept cut rfl lost
    have nothing := decode_cut decoded lost
    constructor
    · cases short : decode kept with
      | ok other => exact (nothing other short).elim
      | error failure => exact ⟨failure, rfl⟩
    · rintro r elapsed success rfl
      obtain ⟨detail, read⟩ := readBody_mute success nothing
      have malformed := Exchange.order_of_error read elapsed
      refine ⟨⟨detail, malformed⟩, fun page uid => ?_⟩
      rw [malformed]
      exact page.loadTurn_failure uid (.malformed detail)
  · intro tail more
    exact ⟨_, (decode_append decoded tail).trans (if_neg more)⟩

/-- The blank order without its closing brace. -/
theorem truncated_not_shown_brace :
    (∃ failure, decode ((encode shape.blank).dropLast) = .error failure) ∧
      let r : Response := ⟨200, [], (encode shape.blank).dropLast⟩
      ∀ page : Page.ResultPage, page.surface.OnlyFailed
        (page.loadTurn (some "b563feb7b2b84b6test0")
          (Exchange.answered r 0).order).after.surface := by
  have decoded : decode (encode shape.blank) = .ok shape.blank :=
    Codec.decode_write reads writes shape.blank
  have brace : encode shape.blank = (encode shape.blank).dropLast ++ [ascii '\x7d'] := by
    rw [encode_blank]
    decide +kernel
  obtain ⟨refused, shown⟩ := (truncated_not_shown decoded).1 _ _ brace (by decide)
  have ⟨_, unchanged⟩ := shown ⟨200, [], (encode shape.blank).dropLast⟩ 0 ⟨by decide, by decide⟩ rfl
  exact ⟨refused, fun page => (unchanged page _).2⟩

end Order

end OrderLookup
