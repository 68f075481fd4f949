import OrderLookup.Page.Result

/-!
# Runs of result pages

A run is a list of actions on the pages over one surface, each load with the outcome that the source
brings if it is asked. Loads run against a source that records what it is asked, so that each leaves
a turn: the inquiries of the source and the page before, during and after. `loadTurn_cases` says
everything that a turn can be.
-/

namespace OrderLookup.Page

structure Inquiry where
  page : ResultPage
  id : OrderId
  outcome : FetchOutcome

/-- A source that brings `outcome` whenever it is asked, and records what it is asked. -/
def recording (outcome : FetchOutcome) (page : ResultPage) (id : OrderId) :
    StateM (List Inquiry) FetchOutcome := do
  modify (· ++ [⟨page, id, outcome⟩])
  return outcome

/-- One load: what it is given, what the source is asked, and what it leads to. -/
structure Turn where
  before : ResultPage
  uid : Option String
  outcome : FetchOutcome
  inquiries : List Inquiry
  returned : Phase
  after : ResultPage

inductive Action where
  | load (uid : Option String) (outcome : FetchOutcome)
  | visit (location : String) (outcome : FetchOutcome)
  /-- Puts a new page over the same surface. -/
  | renew (zone : Calendar.Zone)

namespace ResultPage

def loadTurn (page : ResultPage) (uid : Option String) (outcome : FetchOutcome) : Turn :=
  let ((returned, after), inquiries) := (page.load (recording outcome) uid).run []
  { before := page, uid, outcome, inquiries, returned, after }

def visitTurn (page : ResultPage) (location : String) (outcome : FetchOutcome) : Turn :=
  let ((returned, after), inquiries) := (page.visit (recording outcome) location).run []
  { before := page, uid := orderUid? location, outcome, inquiries, returned, after }

def turns (page : ResultPage) : List Action → List Turn
  | [] => []
  | .load uid outcome :: later =>
    page.loadTurn uid outcome :: (page.loadTurn uid outcome).after.turns later
  | .visit location outcome :: later =>
    page.visitTurn location outcome :: (page.visitTurn location outcome).after.turns later
  | .renew zone :: later => (fresh zone page.surface).turns later

def run (page : ResultPage) : List Action → ResultPage
  | [] => page
  | .load uid outcome :: later => (page.loadTurn uid outcome).after.run later
  | .visit location outcome :: later => (page.visitTurn location outcome).after.run later
  | .renew zone :: later => (fresh zone page.surface).run later

end ResultPage

/-- The id that a load asks the source for, or the message that it shows instead. -/
def asked (uid : Option String) : Except String OrderId :=
  match uid.filter (!·.isEmpty) with
  | none => .error missingIdMessage
  | some raw => (OrderId.parse raw).mapError InvalidId.message

theorem asked_of_ne_empty {raw : String} (filled : raw ≠ "") :
    asked (some raw) = (OrderId.parse raw).mapError InvalidId.message := by
  have kept : raw.isEmpty = false := String.isEmpty_eq_false_iff.mpr filled
  simp only [asked, Option.filter, kept, Bool.not_false, if_true]

def Turn.message? (t : Turn) : Option String :=
  match asked t.uid, t.outcome with
  | .error message, _ => some message
  | .ok _, .error e => some e.message
  | .ok _, .ok _ => none

namespace ResultPage

def waiting (page : ResultPage) : ResultPage :=
  page.enter .loading loadingEdits

theorem start_eq (page : ResultPage) (uid : Option String) :
    page.start uid =
      match asked uid with
      | .error message => .settled (page.fail message)
      | .ok id => .waiting id page.waiting := by
  unfold start asked
  cases uid with
  | none => rfl
  | some raw =>
    cases empty : raw.isEmpty with
    | true => simp [Option.filter, empty]
    | false =>
      cases parsed : OrderId.parse raw <;>
        simp only [Option.filter, empty, parsed, Bool.not_false, if_true, Bool.false_eq_true,
          if_false] <;> rfl

theorem visitTurn_eq (page : ResultPage) (location : String) (outcome : FetchOutcome) :
    page.visitTurn location outcome = page.loadTurn (orderUid? location) outcome := rfl

theorem loadTurn_of_error {uid : Option String} {message : String} (h : asked uid = .error message)
    (page : ResultPage) (outcome : FetchOutcome) :
    page.loadTurn uid outcome = ⟨page, uid, outcome, [], .error, page.fail message⟩ := by
  simp only [loadTurn, load, start_eq, h]
  rfl

theorem loadTurn_of_ok {uid : Option String} {id : OrderId} (h : asked uid = .ok id)
    (page : ResultPage) (outcome : FetchOutcome) :
    page.loadTurn uid outcome =
      ⟨page, uid, outcome, [⟨page.waiting, id, outcome⟩], (page.waiting.settle outcome).phase,
        page.waiting.settle outcome⟩ := by
  simp only [loadTurn, load, start_eq, h]
  rfl

/-- A load fails for want of an id without asking the source, or asks it once and shows what it
brings. -/
theorem loadTurn_cases (page : ResultPage) (uid : Option String) (outcome : FetchOutcome) :
    (∃ message, asked uid = .error message ∧
      page.loadTurn uid outcome = ⟨page, uid, outcome, [], .error, page.fail message⟩) ∨
    (∃ id e, asked uid = .ok id ∧ outcome = .error e ∧
      page.loadTurn uid outcome =
        ⟨page, uid, outcome, [⟨page.waiting, id, outcome⟩], .error,
          page.waiting.fail e.message⟩) ∨
    ∃ id fetched, asked uid = .ok id ∧ outcome = .ok fetched ∧
      page.loadTurn uid outcome =
        ⟨page, uid, outcome, [⟨page.waiting, id, outcome⟩], .result,
          page.waiting.enter .result (resultEdits page.zone fetched)⟩ := by
  cases h : asked uid with
  | error message => exact Or.inl ⟨message, rfl, loadTurn_of_error h page outcome⟩
  | ok id =>
    cases outcome with
    | error e => exact Or.inr (Or.inl ⟨id, e, rfl, rfl, loadTurn_of_ok h page (.error e)⟩)
    | ok fetched =>
      exact Or.inr (Or.inr ⟨id, fetched, rfl, rfl, loadTurn_of_ok h page (.ok fetched)⟩)

/-- What holds of every turn that starts on a surface with `P`, and keeps `P`, holds of the turns of
every run. -/
theorem forall_turns {P : Surface → Prop} {Q : Turn → Prop}
    (step : ∀ (page : ResultPage) uid outcome, P page.surface →
      Q (page.loadTurn uid outcome) ∧ P (page.loadTurn uid outcome).after.surface)
    {page : ResultPage} (start : P page.surface) (actions : List Action) :
    ∀ t ∈ page.turns actions, Q t := by
  induction actions generalizing page with
  | nil => simp [turns]
  | cons action later ih =>
    cases action with
    | load uid outcome =>
      have ⟨now, next⟩ := step page uid outcome start
      rw [turns, List.forall_mem_cons]
      exact ⟨now, ih next⟩
    | visit location outcome =>
      have ⟨now, next⟩ := step page (orderUid? location) outcome start
      rw [turns, visitTurn_eq, List.forall_mem_cons]
      exact ⟨now, ih next⟩
    | renew zone =>
      have same : P (fresh zone page.surface).surface := start
      exact ih same

end ResultPage

end OrderLookup.Page
