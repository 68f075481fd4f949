import OrderLookup.Proofs.Page.Render
import OrderLookup.Proofs.Page.Run

/-!
# One mode at a time

`turns_show_phase`: whatever surface a page starts on and whatever its phase, after each load the
page shows the mode region of its phase and no other, and the same holds while it waits for the
source. A load that fails sets all three modes itself; one that succeeds relies on what waiting
has hidden.
-/

namespace OrderLookup.Page

open Edit (textFor? visibleFor?)

def Phase.mode? : Phase → Option RegionId
  | .idle => none
  | .loading => some Page.loading
  | .result => some Page.result
  | .error => some Page.error

namespace ResultPage

/-- Of the mode regions just the one of the page's phase is visible. -/
def ShowsPhase (page : ResultPage) : Prop :=
  ∀ mode ∈ modes, page.surface.isVisible mode = decide (page.phase.mode? = some mode)

theorem surface_enter (page : ResultPage) (phase : Phase) (edits : List Edit) :
    (page.enter phase edits).surface = page.surface.applyAll edits := rfl

theorem complete_enter {page : ResultPage} (h : page.surface.Complete) (phase : Phase)
    (edits : List Edit) : (page.enter phase edits).surface.Complete :=
  h.applyAll edits

theorem mem_modes {mode : RegionId} (h : mode ∈ modes) :
    mode = loading ∨ mode = error ∨ mode = result := by
  simpa [modes] using h

theorem visibleFor?_errorEdits {mode : RegionId} (h : mode ∈ modes) (message : String) :
    lastOf? (visibleFor? mode) (errorEdits message) = some (decide (some error = some mode)) := by
  rcases mem_modes h with rfl | rfl | rfl <;> rfl

theorem visibleFor?_loadingEdits {mode : RegionId} (h : mode ∈ modes) :
    lastOf? (visibleFor? mode) loadingEdits = some (decide (some loading = some mode)) := by
  rcases mem_modes h with rfl | rfl | rfl <;> rfl

/-- Showing a result says nothing of the error region. -/
theorem visibleFor?_resultEdits (id : RegionId) (zone : Calendar.Zone) (fetched : FetchedOrder) :
    lastOf? (visibleFor? id) (resultEdits zone fetched) =
      lastOf? (visibleFor? id) [.setVisible loading false, .setVisible result true] := by
  rw [resultEdits, lastOf?_append, visibleFor?_renderEdits, Option.or_none]

theorem fail_showsPhase {page : ResultPage} (complete : page.surface.Complete) (message : String) :
    (page.fail message).ShowsPhase := by
  intro mode member
  rw [fail, surface_enter, Surface.isVisible_applyAll (complete.mode member),
    visibleFor?_errorEdits member]
  rfl

theorem waiting_showsPhase {page : ResultPage} (complete : page.surface.Complete) :
    page.waiting.ShowsPhase := by
  intro mode member
  rw [waiting, surface_enter, Surface.isVisible_applyAll (complete.mode member),
    visibleFor?_loadingEdits member]
  rfl

theorem result_showsPhase {page : ResultPage} (complete : page.surface.Complete)
    (waits : page.ShowsPhase) (loads : page.phase = .loading) (zone : Calendar.Zone)
    (fetched : FetchedOrder) : (page.enter .result (resultEdits zone fetched)).ShowsPhase := by
  intro mode member
  have before := waits mode member
  rw [loads] at before
  rw [surface_enter, Surface.isVisible_applyAll (complete.mode member), visibleFor?_resultEdits,
    before]
  rcases mem_modes member with rfl | rfl | rfl <;> rfl

def KeepsModes (t : Turn) : Prop :=
  t.returned = t.after.phase ∧ (t.after.phase = .result ∨ t.after.phase = .error) ∧
    t.after.ShowsPhase ∧
    ∀ inquiry ∈ t.inquiries, inquiry.page.phase = .loading ∧ inquiry.page.ShowsPhase

theorem loadTurn_keepsModes {page : ResultPage} (complete : page.surface.Complete)
    (uid : Option String) (outcome : FetchOutcome) :
    KeepsModes (page.loadTurn uid outcome) ∧
      (page.loadTurn uid outcome).after.surface.Complete := by
  have waits := waiting_showsPhase complete
  have still : page.waiting.surface.Complete := complete_enter complete .loading loadingEdits
  have asks {id : OrderId} : ∀ inquiry ∈ [Inquiry.mk page.waiting id outcome],
      inquiry.page.phase = .loading ∧ inquiry.page.ShowsPhase :=
    List.forall_mem_singleton.mpr ⟨rfl, waits⟩
  rcases page.loadTurn_cases uid outcome with
    ⟨message, _, turn⟩ | ⟨id, e, _, _, turn⟩ | ⟨id, fetched, _, _, turn⟩
  · rw [turn]
    exact ⟨⟨rfl, Or.inr rfl, fail_showsPhase complete message, by simp⟩,
      complete_enter complete .error (errorEdits message)⟩
  · rw [turn]
    exact ⟨⟨rfl, Or.inr rfl, fail_showsPhase still e.message, asks⟩,
      complete_enter still .error (errorEdits e.message)⟩
  · rw [turn]
    exact ⟨⟨rfl, Or.inl rfl, result_showsPhase still waits rfl page.zone fetched, asks⟩,
      complete_enter still .result (resultEdits page.zone fetched)⟩

/-- After every load of a run, over any reachable surface and from any phase, the page is in the
phase it returns, which is a result or an error, and shows the mode of that phase alone; whenever
the source is asked, the page is loading and shows that alone. -/
theorem turns_show_phase (edits : List Edit) (zone : Calendar.Zone) (phase : Phase)
    (actions : List Action) :
    ∀ t ∈ (ResultPage.mk zone (Surface.blank.applyAll edits) phase).turns actions,
      t.returned = t.after.phase ∧ (t.after.phase = .result ∨ t.after.phase = .error) ∧
        t.after.ShowsPhase ∧
        ∀ inquiry ∈ t.inquiries, inquiry.page.phase = .loading ∧ inquiry.page.ShowsPhase := by
  have start := Surface.complete_blank.applyAll edits
  exact forall_turns (P := Surface.Complete) (Q := KeepsModes)
    (fun page uid outcome complete => loadTurn_keepsModes complete uid outcome) start actions

/-- A page that shows two modes, as one does whose load was left, shows one after it is told that
there is no such order. -/
theorem failed_load_shows_error :
    let page := ResultPage.mk .utc
      (Surface.blank.applyAll [.setVisible loading true, .setVisible result true]) .loading
    let uid := some "b563feb7b2b84b6test0"
    let outcome := .error (.reported "order not found")
    ¬page.ShowsPhase ∧
      ∃ t ∈ page.turns [.load uid outcome],
        t.returned = .error ∧ t.inquiries.length = 1 ∧ t.after.ShowsPhase := by
  intro page uid outcome
  have two : ¬page.ShowsPhase := by
    intro shows
    have hidden := shows result (by decide)
    exact absurd hidden (by decide)
  have member : page.loadTurn uid outcome ∈ page.turns [.load uid outcome] := List.mem_cons_self
  have ⟨_, _, shows, _⟩ := turns_show_phase [.setVisible loading true, .setVisible result true] .utc
    .loading [.load uid outcome] (page.loadTurn uid outcome) member
  exact ⟨two, page.loadTurn uid outcome, member, rfl, rfl, shows⟩

end ResultPage

end OrderLookup.Page
