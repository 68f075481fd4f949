import OrderLookup.Proofs.Page.Modes

/-!
# The history law

What a page shows is a function of all that its source has brought since the blank surface. Header,
items and time show the last order; delivery and payment show the last order that has them; the
message is that of the last load that failed. `run_shows_history` is an induction over runs with
`Surface.Shows` as its invariant, which a failing load keeps but for the message.
-/

namespace OrderLookup.Page

open Edit (textFor? visibleFor?)

structure Rendering where
  zone : Calendar.Zone
  fetched : FetchedOrder

def Inquiry.rendering? (inquiry : Inquiry) : Option Rendering :=
  inquiry.outcome.toOption.map (⟨inquiry.page.zone, ·⟩)

def renderings (turns : List Turn) : List Rendering :=
  (turns.flatMap (·.inquiries)).filterMap Inquiry.rendering?

def lastMessage? (turns : List Turn) : Option String :=
  (turns.filterMap Turn.message?).getLast?

/-! ### What is to be seen of a record -/

/-- The header regions, and what is to be seen of an order in each. -/
def headerTexts : List (RegionId × (Calendar.Zone → Order → String)) := [
  ("orderUid", fun _ o => o.orderUid),
  ("trackNumber", fun _ o => o.trackNumber),
  ("entry", fun _ o => o.entry),
  ("locale", fun _ o => o.locale),
  ("internalSignature", fun _ o => o.internalSignature.getD ""),
  ("customerId", fun _ o => o.customerId),
  ("deliveryService", fun _ o => o.deliveryService),
  ("shardkey", fun _ o => o.shardkey),
  ("smId", fun _ o => intText o.smId.toInt),
  ("dateCreated", fun zone o => Calendar.formatDate zone o.dateCreated),
  ("oofShard", fun _ o => o.oofShard)]

def deliveryTexts : List (RegionId × (Calendar.Zone → Delivery → String)) := [
  ("deliveryName", fun _ d => d.name),
  ("deliveryPhone", fun _ d => d.phone),
  ("deliveryZip", fun _ d => d.zip),
  ("deliveryCity", fun _ d => d.city),
  ("deliveryAddress", fun _ d => d.address),
  ("deliveryRegion", fun _ d => d.region),
  ("deliveryEmail", fun _ d => d.email)]

def paymentTexts : List (RegionId × (Calendar.Zone → Payment → String)) := [
  ("paymentTransaction", fun _ p => p.transaction),
  ("paymentRequestId", fun _ p => p.requestId.getD ""),
  ("paymentCurrency", fun _ p => p.currency),
  ("paymentProvider", fun _ p => p.provider),
  ("paymentAmount", fun _ p => intText p.amount.toInt),
  ("paymentDt", fun zone p => Calendar.formatEpoch zone (some p.paidAt.toInt)),
  ("paymentBank", fun _ p => p.bank),
  ("paymentDeliveryCost", fun _ p => intText p.deliveryCost.toInt),
  ("paymentGoodsTotal", fun _ p => intText p.goodsTotal.toInt),
  ("paymentCustomFee", fun _ p => intText p.customFee.toInt)]

/-! Rendering puts each of them there. -/

theorem headerTexts_eq : headerTexts = Order.fields.map fun f => (f.region, f.value) := rfl

theorem deliveryTexts_eq : deliveryTexts = Delivery.fields.map fun f => (f.region, f.value) := rfl

theorem paymentTexts_eq : paymentTexts = Payment.fields.map fun f => (f.region, f.value) := rfl

theorem mem_texts {α : Type} {texts : List (RegionId × (Calendar.Zone → α → String))}
    {fields : List (FieldView α)} (same : texts = fields.map fun f => (f.region, f.value))
    {field : RegionId × (Calendar.Zone → α → String)} (h : field ∈ texts) :
    ∃ f ∈ fields, (f.region, f.value) = field :=
  List.mem_map.mp (same ▸ h)

/-- The text of the last of some records, each in its zone, and nothing if there are none. -/
def textAfter {α : Type} (value : Calendar.Zone → α → String)
    (records : List (Calendar.Zone × α)) : String :=
  (records.getLast?.map fun (zone, a) => value zone a).getD ""

namespace Rendering

def order (r : Rendering) : Calendar.Zone × Order :=
  (r.zone, r.fetched.order)

def delivery? (r : Rendering) : Option (Calendar.Zone × Delivery) :=
  r.fetched.order.delivery.map (r.zone, ·)

def payment? (r : Rendering) : Option (Calendar.Zone × Payment) :=
  r.fetched.order.payment.map (r.zone, ·)

end Rendering

/-- The surface shows what has been rendered on it and the message of the last error. -/
structure Surface.Shows (s : Surface) (rendered : List Rendering) (message : Option String) :
    Prop where
  header : ∀ field ∈ headerTexts,
    s.text? field.1 = some (textAfter field.2 (rendered.map (·.order)))
  delivery : ∀ field ∈ deliveryTexts,
    s.text? field.1 = some (textAfter field.2 (rendered.filterMap (·.delivery?)))
  payment : ∀ field ∈ paymentTexts,
    s.text? field.1 = some (textAfter field.2 (rendered.filterMap (·.payment?)))
  count : s.text? itemsCount =
    some ((rendered.getLast?.map fun r => natText r.fetched.order.items.length).getD "")
  items : s.list itemsList =
    (rendered.getLast?.map fun r => itemEntries r.fetched.order.items).getD []
  time : s.text? executionTime = rendered.getLast?.map fun r =>
    "Request completed in " ++ natText r.fetched.milliseconds ++ " ms"
  message : s.text? errorMessage = some (message.getD "")

structure Surface.OnlyFailed (before after : Surface) : Prop where
  regions : ∀ id, id ∉ modes → id ≠ errorMessage → after.region? id = before.region? id
  modeTexts : ∀ mode ∈ modes, after.text? mode = before.text? mode
  messageVisible : after.isVisible errorMessage = before.isVisible errorMessage
  lists : ∀ id, after.list id = before.list id

/-! ### Edits of a load -/

theorem textFor?_errorEdits (id : RegionId) (message : String) :
    lastOf? (textFor? id) (errorEdits message) =
      if errorMessage = id then some message else none := by
  by_cases same : errorMessage = id
  · subst same
    rfl
  · simp [errorEdits, lastOf?, textFor?, same]

theorem textFor?_loadingEdits (id : RegionId) : lastOf? (textFor? id) loadingEdits = none := rfl

theorem textFor?_resultEdits (id : RegionId) (zone : Calendar.Zone) (fetched : FetchedOrder) :
    lastOf? (textFor? id) (resultEdits zone fetched) =
      lastOf? (textFor? id) (renderEdits zone fetched.order fetched.milliseconds) := by
  rw [resultEdits, lastOf?_append]
  rfl

theorem not_mode {id : RegionId} (h : id ∉ modes) : loading ≠ id ∧ error ≠ id ∧ result ≠ id := by
  simp only [modes, List.mem_cons, List.not_mem_nil, or_false, not_or] at h
  exact ⟨Ne.symm h.1, Ne.symm h.2.1, Ne.symm h.2.2⟩

theorem visibleFor?_errorEdits_other {id : RegionId} (h : id ∉ modes) (message : String) :
    lastOf? (visibleFor? id) (errorEdits message) = none := by
  obtain ⟨noLoading, noError, noResult⟩ := not_mode h
  simp [errorEdits, lastOf?, visibleFor?, noLoading, noError, noResult]

theorem visibleFor?_loadingEdits_other {id : RegionId} (h : id ∉ modes) :
    lastOf? (visibleFor? id) loadingEdits = none := by
  obtain ⟨noLoading, noError, noResult⟩ := not_mode h
  simp [loadingEdits, lastOf?, visibleFor?, noLoading, noError, noResult]

theorem visibleFor?_resultEdits_other {id : RegionId} (h : id ∉ modes) (zone : Calendar.Zone)
    (fetched : FetchedOrder) : lastOf? (visibleFor? id) (resultEdits zone fetched) = none := by
  obtain ⟨noLoading, _, noResult⟩ := not_mode h
  rw [ResultPage.visibleFor?_resultEdits]
  simp [lastOf?, visibleFor?, noLoading, noResult]

namespace Surface

/-! ### Loads that fail -/

theorem OnlyFailed.trans {first second third : Surface} (h : first.OnlyFailed second)
    (h' : second.OnlyFailed third) : first.OnlyFailed third where
  regions id mode message := (h'.regions id mode message).trans (h.regions id mode message)
  modeTexts mode member := (h'.modeTexts mode member).trans (h.modeTexts mode member)
  messageVisible := h'.messageVisible.trans h.messageVisible
  lists id := (h'.lists id).trans (h.lists id)

theorem list_of_entries {s t : Surface} (h : t.entries = s.entries) (id : RegionId) :
    t.list id = s.list id := by
  rw [list, list, h]

/-- Edits that write no text but the message and create nothing. -/
theorem onlyFailed_applyAll (s : Surface) {edits : List Edit}
    (texts : ∀ id, errorMessage ≠ id → lastOf? (textFor? id) edits = none)
    (visible : ∀ id, id ∉ modes → lastOf? (visibleFor? id) edits = none)
    (creates : ∀ id, Edit.ensure id ∉ edits)
    (entries : edits.foldl Edit.entriesAfter s.entries = s.entries) :
    s.OnlyFailed (s.applyAll edits) where
  regions id mode message :=
    region?_applyAll_same (texts id (Ne.symm message)) (visible id mode) (creates id)
  modeTexts mode member := by
    have other : errorMessage ≠ mode := by
      rintro rfl
      exact absurd member (by decide)
    exact text?_applyAll_same (texts mode other) (creates mode)
  messageVisible :=
    isVisible_applyAll_same (visible errorMessage (by decide)) (creates errorMessage)
  lists id := list_of_entries ((entries_applyAll s edits).trans entries) id

theorem onlyFailed_errorEdits (s : Surface) (message : String) :
    s.OnlyFailed (s.applyAll (errorEdits message)) :=
  onlyFailed_applyAll s (fun id other => by rw [textFor?_errorEdits, if_neg other])
    (fun _ mode => visibleFor?_errorEdits_other mode message) (fun id => by simp [errorEdits]) rfl

theorem onlyFailed_loadingEdits (s : Surface) : s.OnlyFailed (s.applyAll loadingEdits) :=
  onlyFailed_applyAll s (fun id _ => textFor?_loadingEdits id)
    (fun _ mode => visibleFor?_loadingEdits_other mode) (fun id => by simp [loadingEdits]) rfl

/-! ### What the surface shows after each kind of edits -/

variable {s : Surface} {rendered : List Rendering} {message : Option String}

theorem errorMessage_apart : ∀ id ∈ recordRegions ++ [itemsCount, executionTime],
    errorMessage ≠ id := by decide

theorem header_mem {f : FieldView Order} (h : f ∈ Order.fields) : f.region ∈ recordRegions :=
  List.mem_append_left _ (List.mem_append_left _ (List.mem_map_of_mem h))

theorem delivery_mem {f : FieldView Delivery} (h : f ∈ Delivery.fields) :
    f.region ∈ recordRegions :=
  List.mem_append_left _ (List.mem_append_right _ (List.mem_map_of_mem h))

theorem payment_mem {f : FieldView Payment} (h : f ∈ Payment.fields) : f.region ∈ recordRegions :=
  List.mem_append_right _ (List.mem_map_of_mem h)

/-- A surface that differs as after a failure shows the same but for the message. -/
theorem Shows.onlyFailed {t : Surface} (h : s.Shows rendered message) (failed : s.OnlyFailed t)
    {message' : Option String} (shown : t.text? errorMessage = some (message'.getD "")) :
    t.Shows rendered message' := by
  have same : ∀ id ∈ recordRegions ++ [itemsCount, executionTime], t.text? id = s.text? id := by
    intro id member
    have mode : id ∉ modes := by
      have apart : ∀ id ∈ recordRegions ++ [itemsCount, executionTime], id ∉ modes := by decide
      exact apart id member
    rw [text?, text?, failed.regions id mode (Ne.symm (errorMessage_apart id member))]
  have record {id : RegionId} (member : id ∈ recordRegions) : t.text? id = s.text? id :=
    same id (List.mem_append_left _ member)
  exact {
    header field member := by
      obtain ⟨f, listed, rfl⟩ := mem_texts headerTexts_eq member
      exact (record (header_mem listed)).trans (h.header _ member)
    delivery field member := by
      obtain ⟨f, listed, rfl⟩ := mem_texts deliveryTexts_eq member
      exact (record (delivery_mem listed)).trans (h.delivery _ member)
    payment field member := by
      obtain ⟨f, listed, rfl⟩ := mem_texts paymentTexts_eq member
      exact (record (payment_mem listed)).trans (h.payment _ member)
    count := (same itemsCount (by simp)).trans h.count
    items := (failed.lists itemsList).trans h.items
    time := (same executionTime (by simp)).trans h.time
    message := shown }

theorem Shows.fail (h : s.Shows rendered message) (text : String) :
    (s.applyAll (errorEdits text)).Shows rendered (some text) := by
  apply h.onlyFailed (onlyFailed_errorEdits s text)
  rw [text?_applyAll (isSome_region?_of_text? h.message), textFor?_errorEdits, if_pos rfl]
  rfl

theorem Shows.wait (h : s.Shows rendered message) :
    (s.applyAll loadingEdits).Shows rendered message := by
  apply h.onlyFailed (onlyFailed_loadingEdits s)
  rw [text?_applyAll_same (textFor?_loadingEdits _) (by simp [loadingEdits]), h.message]

theorem textAfter_concat {α : Type} (value : Calendar.Zone → α → String)
    (records : List (Calendar.Zone × α)) (zone : Calendar.Zone) (a : α) :
    textAfter value (records ++ [(zone, a)]) = value zone a := by
  simp [textAfter]

/-- A field of a part that may be lacking. -/
theorem text?_part {α : Type} {id : RegionId} {value : Calendar.Zone → α → String}
    {records : List (Calendar.Zone × α)} (h : s.text? id = some (textAfter value records))
    {zone : Calendar.Zone} (part : Option α) {edits : List Edit}
    (texts : lastOf? (textFor? id) edits = part.map (value zone)) :
    (s.applyAll edits).text? id =
      some (textAfter value (records ++ (part.map (zone, ·)).toList)) := by
  rw [text?_applyAll (isSome_region?_of_text? h), texts, h]
  cases part with
  | none => simp
  | some a => simp [textAfter_concat]

theorem filterMap_concat {α β : Type} (g : α → Option β) (as : List α) (a : α) :
    (as ++ [a]).filterMap g = as.filterMap g ++ (g a).toList := by
  rw [List.filterMap_append]
  cases h : g a <;> simp [h]

theorem entries_result (s : Surface) (zone : Calendar.Zone) (fetched : FetchedOrder) :
    (s.applyAll (resultEdits zone fetched)).entries = itemEntries fetched.order.items := by
  rw [resultEdits, applyAll_append, entries_applyAll, entries_render]
  rfl

theorem Shows.render (h : s.Shows rendered message) (r : Rendering) :
    (s.applyAll (resultEdits r.zone r.fetched)).Shows (rendered ++ [r]) message where
  header field member := by
    obtain ⟨f, listed, rfl⟩ := mem_texts headerTexts_eq member
    rw [List.map_append]
    exact text?_part (h.header _ member) (some r.fetched.order)
      (by rw [textFor?_resultEdits, textFor?_renderEdits_order listed]; rfl)
  delivery field member := by
    obtain ⟨f, listed, rfl⟩ := mem_texts deliveryTexts_eq member
    rw [filterMap_concat]
    exact text?_part (h.delivery _ member) r.fetched.order.delivery
      (by rw [textFor?_resultEdits, textFor?_renderEdits_delivery listed])
  payment field member := by
    obtain ⟨f, listed, rfl⟩ := mem_texts paymentTexts_eq member
    rw [filterMap_concat]
    exact text?_part (h.payment _ member) r.fetched.order.payment
      (by rw [textFor?_resultEdits, textFor?_renderEdits_payment listed])
  count := by
    rw [text?_applyAll (isSome_region?_of_text? h.count), textFor?_resultEdits,
      textFor?_renderEdits_other (by decide), List.getLast?_concat]
    rfl
  items := by
    rw [list, if_pos rfl, entries_result, List.getLast?_concat]
    rfl
  time := by
    rw [resultEdits, applyAll_append, text?_applyAll_same rfl (by simp), text?_render_time,
      List.getLast?_concat]
    rfl
  message := by
    rw [text?_applyAll (isSome_region?_of_text? h.message), textFor?_resultEdits,
      textFor?_renderEdits_other (by decide), h.message]
    rfl

end Surface

/-! ### Runs -/

theorem renderings_cons (t : Turn) (turns : List Turn) :
    renderings (t :: turns) = renderings [t] ++ renderings turns := by
  simp [renderings]

theorem lastMessage?_cons (t : Turn) (turns : List Turn) :
    lastMessage? (t :: turns) = (lastMessage? turns).or t.message? := by
  rw [lastMessage?, List.filterMap_cons]
  cases t.message? with
  | none => exact Option.or_none.symm
  | some text =>
    rw [List.getLast?_cons, lastMessage?]
    cases (turns.filterMap Turn.message?).getLast? <;> rfl

theorem Surface.shows_blank : Surface.blank.Shows [] none := by
  have inText : ∀ id ∈ recordRegions ++ [itemsCount, errorMessage], id ∈ textRegions := by decide
  have text {id : RegionId} (member : id ∈ recordRegions ++ [itemsCount, errorMessage]) :
      Surface.blank.text? id = some "" := by
    rw [text?, region?_blank_text (inText id member)]
    rfl
  have record {id : RegionId} (member : id ∈ recordRegions) : Surface.blank.text? id = some "" :=
    text (List.mem_append_left _ member)
  have noTime : executionTime ∉ textRegions ∧ executionTime ∉ modes := by decide
  exact {
    header field member := by
      obtain ⟨f, listed, rfl⟩ := mem_texts headerTexts_eq member
      exact record (header_mem listed)
    delivery field member := by
      obtain ⟨f, listed, rfl⟩ := mem_texts deliveryTexts_eq member
      exact record (delivery_mem listed)
    payment field member := by
      obtain ⟨f, listed, rfl⟩ := mem_texts paymentTexts_eq member
      exact record (payment_mem listed)
    count := text (by simp)
    items := rfl
    time := by
      rw [text?, region?_blank, if_neg noTime.1, if_neg noTime.2]
      rfl
    message := text (by simp) }

namespace ResultPage

variable {page : ResultPage} {rendered : List Rendering} {message : Option String}

theorem fail_shows (h : page.surface.Shows rendered message) (text : String) :
    (page.fail text).surface.Shows rendered (some text) :=
  h.fail text

theorem waiting_shows (h : page.surface.Shows rendered message) :
    page.waiting.surface.Shows rendered message :=
  h.wait

theorem result_shows (h : page.surface.Shows rendered message) (r : Rendering) :
    (page.enter .result (resultEdits r.zone r.fetched)).surface.Shows (rendered ++ [r])
      message := by
  rw [surface_enter]
  exact h.render r

/-- One load adds what the source brings to what is shown. -/
theorem loadTurn_shows (h : page.surface.Shows rendered message) (uid : Option String)
    (outcome : FetchOutcome) :
    (page.loadTurn uid outcome).after.surface.Shows
      (rendered ++ renderings [page.loadTurn uid outcome])
      ((page.loadTurn uid outcome).message?.or message) := by
  rcases page.loadTurn_cases uid outcome with
    ⟨text, refused, turn⟩ | ⟨id, e, accepted, rfl, turn⟩ | ⟨id, fetched, accepted, rfl, turn⟩
  · rw [turn, show renderings [_] = [] from rfl, List.append_nil]
    simp only [Turn.message?, refused]
    exact fail_shows h text
  · rw [turn, show renderings [_] = [] from rfl, List.append_nil]
    simp only [Turn.message?, accepted]
    exact fail_shows (waiting_shows h) e.message
  · rw [turn]
    simp only [Turn.message?, accepted]
    exact result_shows (waiting_shows h) ⟨page.zone, fetched⟩

/-- A run adds to what is shown on the surface that it starts with. -/
theorem run_shows (h : page.surface.Shows rendered message) (actions : List Action) :
    (page.run actions).surface.Shows (rendered ++ renderings (page.turns actions))
      ((lastMessage? (page.turns actions)).or message) := by
  -- Generalized over what is shown already, since each turn adds to that of the turns before it.
  induction actions generalizing page rendered message with
  | nil =>
    rw [run, turns, show renderings [] = [] from rfl, List.append_nil]
    exact h
  | cons action later ih =>
    cases action with
    | load uid outcome =>
      have next := ih (loadTurn_shows h uid outcome)
      rw [turns, run, renderings_cons, lastMessage?_cons, ← List.append_assoc, Option.or_assoc]
      exact next
    | visit location outcome =>
      have next := ih (loadTurn_shows h (orderUid? location) outcome)
      rw [turns, run, visitTurn_eq, renderings_cons, lastMessage?_cons, ← List.append_assoc,
        Option.or_assoc]
      exact next
    | renew zone =>
      have same : (fresh zone page.surface).surface.Shows rendered message := h
      exact ih same

/-! ### Frames -/

theorem fail_onlyFailed (page : ResultPage) (text : String) :
    page.surface.OnlyFailed (page.fail text).surface :=
  page.surface.onlyFailed_errorEdits text

theorem waiting_onlyFailed (page : ResultPage) :
    page.surface.OnlyFailed page.waiting.surface :=
  page.surface.onlyFailed_loadingEdits

def Frames (t : Turn) : Prop :=
  (t.returned = .error ↔ t.message?.isSome = true) ∧
    (t.returned = .error → t.before.surface.OnlyFailed t.after.surface) ∧
    ∀ id ∉ modes, (t.before.surface.region? id).isSome = true →
      t.after.surface.isVisible id = t.before.surface.isVisible id

theorem isVisible_enter {id : RegionId} (present : (page.surface.region? id).isSome = true)
    {edits : List Edit} (visible : lastOf? (visibleFor? id) edits = none) (phase : Phase) :
    (page.enter phase edits).surface.isVisible id = page.surface.isVisible id := by
  rw [surface_enter, Surface.isVisible_applyAll present, visible]
  rfl

theorem isSome_waiting {id : RegionId} (present : (page.surface.region? id).isSome = true) :
    (page.waiting.surface.region? id).isSome = true :=
  Surface.isSome_region?_applyAll present loadingEdits

theorem loadTurn_frames (page : ResultPage) (uid : Option String) (outcome : FetchOutcome) :
    Frames (page.loadTurn uid outcome) := by
  have waits {id : RegionId} (other : id ∉ modes)
      (present : (page.surface.region? id).isSome = true) :
      page.waiting.surface.isVisible id = page.surface.isVisible id :=
    isVisible_enter present (visibleFor?_loadingEdits_other other) .loading
  rcases page.loadTurn_cases uid outcome with
    ⟨text, refused, turn⟩ | ⟨id, e, accepted, rfl, turn⟩ | ⟨id, fetched, accepted, rfl, turn⟩
  · rw [turn]
    refine ⟨by simp [Turn.message?, refused], fun _ => page.fail_onlyFailed text, ?_⟩
    intro id other present
    exact isVisible_enter present (visibleFor?_errorEdits_other other text) .error
  · rw [turn]
    refine ⟨by simp [Turn.message?, accepted], fun _ =>
      page.waiting_onlyFailed.trans (page.waiting.fail_onlyFailed e.message), ?_⟩
    intro id other present
    exact (isVisible_enter (isSome_waiting present)
      (visibleFor?_errorEdits_other other e.message) .error).trans (waits other present)
  · rw [turn]
    refine ⟨by simp [Turn.message?, accepted], nofun, ?_⟩
    intro id other present
    exact (isVisible_enter (isSome_waiting present)
      (visibleFor?_resultEdits_other other page.zone fetched) .result).trans (waits other present)

theorem loadTurn_failure (page : ResultPage) (uid : Option String) (e : FetchError) :
    (page.loadTurn uid (.error e)).returned = .error ∧
      page.surface.OnlyFailed (page.loadTurn uid (.error e)).after.surface := by
  rcases page.loadTurn_cases uid (.error e) with
    ⟨text, _, turn⟩ | ⟨id, e, _, _, turn⟩ | ⟨id, fetched, _, other, _⟩
  · rw [turn]
    exact ⟨rfl, page.fail_onlyFailed text⟩
  · rw [turn]
    exact ⟨rfl, page.waiting_onlyFailed.trans (page.waiting.fail_onlyFailed e.message)⟩
  · cases other

/-- After any run from the blank surface, with pages put over it one after the other, the surface
shows what the source has brought and the message of the last load that failed. A load that fails
changes only the modes and the message, and no load shows or hides any other region. -/
theorem run_shows_history (zone : Calendar.Zone) (actions : List Action) :
    let page := fresh zone .blank
    (page.run actions).surface.Shows (renderings (page.turns actions))
        (lastMessage? (page.turns actions)) ∧
      ∀ t ∈ page.turns actions,
        (t.returned = .error ↔ t.message?.isSome = true) ∧
          (t.returned = .error → t.before.surface.OnlyFailed t.after.surface) ∧
          ∀ id ∉ modes, (t.before.surface.region? id).isSome = true →
            t.after.surface.isVisible id = t.before.surface.isVisible id := by
  intro page
  have start : page.surface.Shows [] none := Surface.shows_blank
  have shown := run_shows start actions
  rw [List.nil_append, Option.or_none] at shown
  refine ⟨shown, ?_⟩
  exact forall_turns (P := fun _ => True) (Q := Frames)
    (fun page uid outcome _ => ⟨loadTurn_frames page uid outcome, trivial⟩) trivial actions

/-- An order without a delivery, a refusal and then, on a new page, an order without a payment: each
part of the surface is as recent as what has been brought for it. -/
theorem history_of_three_loads :
    let uid := some "b563feb7b2b84b6test0"
    let p : Payment := ⟨"b563", none, "USD", "wbpay", 1817, 1637907727, "alpha", 1500, 317, 0⟩
    let d : Delivery := ⟨"Test", "+972", "2639809", "Kiryat", "Ploshad 15", "Kraiot", "a@b.c"⟩
    let earlier : Order := ⟨"b563feb7b2b84b6test0", "WBIL", "WBIL", none, some p, [], "en",
      some "signed", "test", "meest", "9", 99, "2021-11-26T06:22:19Z", "1"⟩
    let later : Order := { earlier with
      orderUid := "b563feb7b2b84b6test1", delivery := some d, payment := none,
      internalSignature := none }
    let actions : List Action := [.load uid (.ok ⟨earlier, 42, .server⟩),
      .load uid (.error (.reported "closed")), .renew .utc, .load uid (.ok ⟨later, 7, .client⟩)]
    let shown := ((fresh (.fixed 10800) .blank).run actions).surface
    shown.text? "orderUid" = some "b563feb7b2b84b6test1" ∧
      shown.text? "internalSignature" = some "" ∧ shown.text? "deliveryName" = some "Test" ∧
      shown.text? "paymentTransaction" = some "b563" ∧
      shown.text? "paymentDt" = some "26.11.2021, 09:22:07" ∧ shown.text? itemsCount = some "0" ∧
      shown.text? executionTime = some "Request completed in 7 ms" ∧
      shown.text? errorMessage = some "closed" := by
  intro uid p d earlier later actions shown
  have ⟨shows, _⟩ := run_shows_history (.fixed 10800) actions
  have brought : renderings ((fresh (.fixed 10800) .blank).turns actions) =
      [⟨.fixed 10800, ⟨earlier, 42, .server⟩⟩, ⟨.utc, ⟨later, 7, .client⟩⟩] := rfl
  have message : lastMessage? ((fresh (.fixed 10800) .blank).turns actions) = some "closed" := rfl
  rw [brought, message] at shows
  have paidAt : Calendar.formatEpoch (.fixed 10800) (some p.paidAt.toInt) =
      "26.11.2021, 09:22:07" := by decide +kernel
  have zero : natText 0 = "0" := by decide +kernel
  have seven : "Request completed in " ++ natText 7 ++ " ms" = "Request completed in 7 ms" := by
    decide +kernel
  rw [← paidAt, ← zero, ← seven]
  exact ⟨shows.header ("orderUid", fun _ o => o.orderUid) (List.mem_of_getElem? (i := 0) rfl),
    shows.header ("internalSignature", fun _ o => o.internalSignature.getD "")
      (List.mem_of_getElem? (i := 4) rfl),
    shows.delivery ("deliveryName", fun _ d => d.name) (List.mem_of_getElem? (i := 0) rfl),
    shows.payment ("paymentTransaction", fun _ p => p.transaction)
      (List.mem_of_getElem? (i := 0) rfl),
    shows.payment ("paymentDt", fun zone p => Calendar.formatEpoch zone (some p.paidAt.toInt))
      (List.mem_of_getElem? (i := 5) rfl),
    shows.count, shows.time, shows.message⟩

end ResultPage

end OrderLookup.Page
