import OrderLookup.Proofs.Order.Id
import OrderLookup.Proofs.Page.Modes
import OrderLookup.Proofs.Page.Parameter

/-!
# From the search field to the result page

The location that the search page makes of an id is read back as that id by the result page,
whatever characters it has. `submit_agrees` follows a text through both pages: the result page asks
for the id that was submitted, or shows why there is none.
-/

namespace OrderLookup.Page

open OrderLookup.Text

/-! ### Locations -/

/-- No id can turn the location into an absolute URL or end its query. -/
theorem query_resultLocation (id : OrderId) :
    query (resultLocation id) = some (Url.Form.write [(orderUidKey.toList, id.chars)]) := by
  have slash : resultPath.toList.head? = some '/' := by decide
  have written := query_write slash (by decide) [(orderUidKey.toList, id.chars)] none
  rwa [Url.marked, List.append_nil] at written

theorem orderUid?_resultLocation (id : OrderId) : orderUid? (resultLocation id) = some id.text := by
  have read := Url.Form.read_write [(orderUidKey.toList, id.chars)]
  rw [orderUid?, query_resultLocation]
  change ((Url.Form.read _).find? _ >>= _) = _
  rw [read, List.find?_cons_of_pos (by simp)]
  change (if id.chars.isEmpty then none else _) = _
  rw [id.isEmpty_chars]
  rfl

/-! ### What a result page asks for -/

theorem asked_text (id : OrderId) : asked (some id.text) = .ok id := by
  simp only [asked, Option.filter, id.isEmpty_text, Bool.not_false, if_true, id.parse_text]
  rfl

/-- The result page takes an empty text for a missing one. -/
theorem asked_of_error {raw : String} {e : InvalidId} (h : OrderId.parse raw = .error e) :
    asked (some raw) = .error (if raw.isEmpty then missingIdMessage else e.message) := by
  cases empty : raw.isEmpty with
  | true =>
    obtain rfl := String.isEmpty_iff.mp empty
    rfl
  | false =>
    rw [asked_of_ne_empty (String.isEmpty_eq_false_iff.mp empty), h]
    rfl

theorem visitTurn_resultLocation (page : ResultPage) (id : OrderId) (outcome : FetchOutcome) :
    (page.visitTurn (resultLocation id) outcome).inquiries = [⟨page.waiting, id, outcome⟩] := by
  rw [page.visitTurn_eq, orderUid?_resultLocation, page.loadTurn_of_ok (asked_text id)]

theorem text?_fail {page : ResultPage} (complete : page.surface.Complete) (message : String) :
    (page.fail message).surface.text? errorMessage = some message := by
  have present : (page.surface.region? errorMessage).isSome = true := complete.text (by decide)
  rw [ResultPage.fail, ResultPage.surface_enter, Surface.text?_applyAll present]
  rfl

/-- Submitting a text leads to a location with the trimmed text, where any page asks for that id
alone. A text that is refused is refused by any page that loads it, without a question to the source
and, unless it is empty, with the same message. -/
theorem submit_agrees (raw : String) (edits : List Edit) (zone : Calendar.Zone) (phase : Phase)
    (outcome : FetchOutcome) :
    let page := ResultPage.mk zone (Surface.blank.applyAll edits) phase
    let trimmed := String.ofList (trim raw.toList)
    match submit raw with
    | .ok location =>
      orderUid? location = some trimmed ∧
        ∃ inquiry, (page.visitTurn location outcome).inquiries = [inquiry] ∧
          inquiry.id.text = trimmed
    | .error e =>
      let t := page.loadTurn (some raw) outcome
      t.inquiries = [] ∧ t.after.phase = .error ∧ t.after.ShowsPhase ∧
        t.after.surface.text? errorMessage =
          some (if raw.isEmpty then missingIdMessage else e.message) := by
  intro page trimmed
  have complete : page.surface.Complete := Surface.complete_blank.applyAll edits
  rw [submit]
  cases parsed : OrderId.parse raw with
  | ok id =>
    have same : id.text = trimmed := congrArg String.ofList (OrderId.parse_ok parsed)
    have asks := visitTurn_resultLocation page id outcome
    exact ⟨same ▸ orderUid?_resultLocation id, ⟨page.waiting, id, outcome⟩, asks, same⟩
  | error e =>
    have turn := page.loadTurn_of_error (asked_of_error parsed) outcome
    dsimp only [Except.map]
    rw [turn]
    exact ⟨rfl, rfl, ResultPage.fail_showsPhase complete _, text?_fail complete _⟩

/-- An id of characters that mean something in URLs is asked for as it was typed. -/
theorem submit_reserved_characters :
    let raw := " a&b=c#d?e%f+g/h\\iäjk\t"
    let page := ResultPage.mk .utc (Surface.blank.applyAll [.ensure executionTime]) .error
    let outcome : FetchOutcome := .error (.unreachable "refused")
    ∃ location inquiry, submit raw = .ok location ∧
      orderUid? location = some "a&b=c#d?e%f+g/h\\iäjk" ∧
      (page.visitTurn location outcome).inquiries = [inquiry] ∧
      inquiry.id.text = "a&b=c#d?e%f+g/h\\iäjk" := by
  intro raw page outcome
  let id : OrderId := ⟨"a&b=c#d?e%f+g/h\\iäjk".toList, by decide, by decide⟩
  have submitted : submit raw = .ok (resultLocation id) := by
    have parsed : OrderId.parse raw = .ok id := by decide +kernel
    rw [submit, parsed]
    rfl
  have agrees := submit_agrees raw [.ensure executionTime] .utc .error outcome
  rw [submitted] at agrees
  obtain ⟨read, inquiry, asks, same⟩ := agrees
  have trimmed : String.ofList (trim raw.toList) = "a&b=c#d?e%f+g/h\\iäjk" := by decide +kernel
  rw [trimmed] at read same
  exact ⟨_, inquiry, submitted, read, asks, same⟩

end OrderLookup.Page
