import Mathlib.Data.List.Basic
import Mathlib.Logic.Function.Basic
import OrderLookup.Proofs.Page.Search

/-!
# What the source is asked

Calls on any number of pages ask their source for the valid ids among the values they are given, for
each once and in the order of the calls, whatever comes of it (`turnsOf_inquiries`). A call with any
other value asks nothing and shows why.
-/

namespace OrderLookup.Page

open OrderLookup.Text

/-- The value that a load is given as an id; putting a new page over a surface is no load. -/
def Action.value? : Action → Option (Option String)
  | .load uid _ => some uid
  | .visit location _ => some (orderUid? location)
  | .renew _ => none

/-- The id in a value: what is left of a text that is not empty once the white space around it is
gone, if that is twenty characters. -/
def acceptedUid? (value : Option String) : Option String :=
  match value with
  | none => none
  | some raw =>
    let trimmed := trim raw.toList
    if raw ≠ "" ∧ trimmed.length = 20 then some (String.ofList trimmed) else none

def refusal (value : Option String) : String :=
  match value with
  | none => missingIdMessage
  | some raw =>
    let trimmed := trim raw.toList
    if raw = "" then missingIdMessage
    else if trimmed = [] then InvalidId.empty.message
    else (InvalidId.wrongLength trimmed.length).message

theorem asked_cases (value : Option String) :
    (∃ id, asked value = .ok id ∧ acceptedUid? value = some id.text) ∨
      (asked value = .error (refusal value) ∧ acceptedUid? value = none) := by
  cases value with
  | none => exact Or.inr ⟨rfl, rfl⟩
  | some raw =>
    by_cases empty : raw = ""
    · subst empty
      exact Or.inr ⟨rfl, rfl⟩
    · rw [asked_of_ne_empty empty]
      unfold OrderId.parse acceptedUid? refusal
      dsimp only
      rw [if_neg empty]
      split
      · next none =>
        have nothing : trim raw.toList = [] := List.isEmpty_iff.mp none
        rw [if_pos nothing, nothing]
        exact Or.inr ⟨rfl, if_neg (by simp)⟩
      · next some =>
        have something : trim raw.toList ≠ [] := fun none => some (List.isEmpty_iff.mpr none)
        rw [if_neg something]
        split
        · next twenty => exact Or.inl ⟨_, rfl, if_pos ⟨empty, twenty⟩⟩
        · next other => exact Or.inr ⟨rfl, if_neg fun both => other both.2⟩

def Turn.AsksValid (t : Turn) : Prop :=
  t.inquiries.map (·.id.text) = (acceptedUid? t.uid).toList ∧
    (acceptedUid? t.uid = none →
      t.returned = .error ∧ t.after.phase = .error ∧
        t.after.surface.text? errorMessage = some (refusal t.uid))

namespace ResultPage

theorem loadTurn_asksValid {page : ResultPage} (complete : page.surface.Complete)
    (uid : Option String) (outcome : FetchOutcome) :
    (page.loadTurn uid outcome).AsksValid ∧
      (page.loadTurn uid outcome).after.surface.Complete := by
  refine ⟨?_, (loadTurn_keepsModes complete uid outcome).2⟩
  rcases asked_cases uid with ⟨id, accepted, text⟩ | ⟨refused, nothing⟩
  · rw [page.loadTurn_of_ok accepted, Turn.AsksValid, text]
    exact ⟨rfl, nofun⟩
  · rw [page.loadTurn_of_error refused, Turn.AsksValid, nothing]
    exact ⟨rfl, fun _ => ⟨rfl, rfl, text?_fail complete (refusal uid)⟩⟩

theorem complete_run {page : ResultPage} (complete : page.surface.Complete)
    (actions : List Action) : (page.run actions).surface.Complete := by
  induction actions generalizing page with
  | nil => exact complete
  | cons action later ih =>
    cases action with
    | load uid outcome => exact ih (loadTurn_asksValid complete uid outcome).2
    | visit location outcome =>
      exact ih (loadTurn_asksValid complete (orderUid? location) outcome).2
    | renew zone => exact ih complete

theorem uid_turns (page : ResultPage) (action : Action) :
    (page.turns [action]).map (·.uid) = action.value?.toList := by
  cases action <;> rfl

end ResultPage

/-! ### Several pages -/

section Pages

variable {ι : Type} [DecidableEq ι]

/-- The turns that actions on pages make, in order; each action comes with the page it is on. -/
def turnsOf (pages : ι → ResultPage) : List (ι × Action) → List Turn
  | [] => []
  | (i, action) :: later =>
    (pages i).turns [action] ++
      turnsOf (Function.update pages i ((pages i).run [action])) later

theorem uid_turnsOf (pages : ι → ResultPage) (calls : List (ι × Action)) :
    (turnsOf pages calls).map (·.uid) = calls.filterMap (·.2.value?) := by
  induction calls generalizing pages with
  | nil => rfl
  | cons call later ih =>
    obtain ⟨i, action⟩ := call
    rw [turnsOf, List.map_append, ih, ResultPage.uid_turns, List.filterMap_cons]
    cases action.value? <;> rfl

theorem turnsOf_asksValid {pages : ι → ResultPage} (complete : ∀ i, (pages i).surface.Complete)
    (calls : List (ι × Action)) : ∀ t ∈ turnsOf pages calls, t.AsksValid := by
  induction calls generalizing pages with
  | nil => simp [turnsOf]
  | cons call later ih =>
    obtain ⟨i, action⟩ := call
    have now : ∀ t ∈ (pages i).turns [action], t.AsksValid :=
      ResultPage.forall_turns (P := Surface.Complete) (Q := Turn.AsksValid)
        (fun page uid outcome h => page.loadTurn_asksValid h uid outcome) (complete i) [action]
    have next (j : ι) :
        (Function.update pages i ((pages i).run [action]) j).surface.Complete := by
      rcases eq_or_ne j i with rfl | other
      · rw [Function.update_self]
        exact ResultPage.complete_run (complete j) [action]
      · rw [Function.update_of_ne other]
        exact complete j
    rw [turnsOf, List.forall_mem_append]
    exact ⟨now, ih next⟩

/-- However calls on pages over reachable surfaces follow each other, and whatever the source
brings, it is asked for the ids in the values that the calls are given, once each and in their
order. A call whose value has none asks nothing and ends in an error that says so. -/
theorem turnsOf_inquiries (zone : ι → Calendar.Zone) (edits : ι → List Edit) (phase : ι → Phase)
    (calls : List (ι × Action)) :
    let turns := turnsOf (fun i => ⟨zone i, Surface.blank.applyAll (edits i), phase i⟩) calls
    turns.map (·.uid) = calls.filterMap (·.2.value?) ∧
      (turns.flatMap (·.inquiries)).map (·.id.text) =
        (calls.filterMap (·.2.value?)).filterMap acceptedUid? ∧
      ∀ t ∈ turns,
        t.inquiries.map (·.id.text) = (acceptedUid? t.uid).toList ∧
          (acceptedUid? t.uid = none →
            t.returned = .error ∧ t.after.phase = .error ∧
              t.after.surface.text? errorMessage = some (refusal t.uid)) := by
  intro turns
  have values : turns.map (·.uid) = calls.filterMap (·.2.value?) := uid_turnsOf _ calls
  have each : ∀ t ∈ turns, t.AsksValid :=
    turnsOf_asksValid (fun i => Surface.complete_blank.applyAll (edits i)) calls
  refine ⟨values, ?_, each⟩
  calc (turns.flatMap (·.inquiries)).map (·.id.text)
    _ = turns.flatMap fun t => t.inquiries.map (·.id.text) := List.map_flatMap
    _ = turns.flatMap fun t => (acceptedUid? t.uid).toList :=
      List.flatMap_congr fun t member => (each t member).1
    _ = (turns.map (·.uid)).filterMap acceptedUid? := by
      rw [List.filterMap_map, List.filterMap_eq_flatMap_toList]
      rfl
    _ = (calls.filterMap (·.2.value?)).filterMap acceptedUid? := by rw [values]

end Pages

end OrderLookup.Page
