import OrderLookup.Page.Section

/-!
# Surfaces under edits

`text?_applyAll` and `isVisible_applyAll` say what any list of edits leaves in a region that exists:
the last text and the last visibility it is given, or what it had before. Regions never go away, so
that a surface reached from the blank one has all regions that the blank one has.
-/

namespace OrderLookup.Page

namespace Edit

def textFor? (id : RegionId) : Edit → Option String
  | .setText key text => if key = id then some text else none
  | _ => none

def visibleFor? (id : RegionId) : Edit → Option Bool
  | .setVisible key visible => if key = id then some visible else none
  | _ => none

def entriesAfter (entries : List Entry) : Edit → List Entry
  | .clear id => if id = itemsList then [] else entries
  | .append id entry => if id = itemsList then entries ++ [entry] else entries
  | _ => entries

end Edit

open Edit (textFor? visibleFor?)

def lastOf? {β : Type} (given : Edit → Option β) (edits : List Edit) : Option β :=
  (edits.filterMap given).getLast?

variable {β : Type} {given : Edit → Option β}

theorem lastOf?_append (first later : List Edit) :
    lastOf? given (first ++ later) = (lastOf? given later).or (lastOf? given first) := by
  rw [lastOf?, List.filterMap_append, List.getLast?_append]
  rfl

theorem lastOf?_singleton (edit : Edit) : lastOf? given [edit] = given edit := by
  rw [lastOf?, List.filterMap_cons]
  cases given edit <;> rfl

theorem lastOf?_cons (edit : Edit) (edits : List Edit) :
    lastOf? given (edit :: edits) = (lastOf? given edits).or (given edit) := by
  have one : lastOf? given [edit] = given edit := lastOf?_singleton edit
  rw [← one]
  exact lastOf?_append [edit] edits

theorem lastOf?_eq_none {edits : List Edit} (h : ∀ edit ∈ edits, given edit = none) :
    lastOf? given edits = none := by
  rw [lastOf?, List.filterMap_eq_nil_iff.mpr h]
  rfl

def Region.after (r : Region) (id : RegionId) (edits : List Edit) : Region :=
  ⟨(lastOf? (textFor? id) edits).getD r.text, (lastOf? (visibleFor? id) edits).getD r.visible⟩

namespace Surface

theorem applyAll_append (s : Surface) (first later : List Edit) :
    s.applyAll (first ++ later) = (s.applyAll first).applyAll later :=
  List.foldl_append

/-! ### One edit -/

theorem lookup_map_snd (f : RegionId → Region → Region) (id : RegionId)
    (regions : List (RegionId × Region)) :
    (regions.map fun (key, r) => (key, f key r)).lookup id = (regions.lookup id).map (f id) := by
  induction regions with
  | nil => rfl
  | cons pair regions ih =>
    obtain ⟨key, r⟩ := pair
    rw [List.map_cons, List.lookup_cons, List.lookup_cons, ih]
    cases same : id == key with
    | true =>
      obtain rfl := eq_of_beq same
      rfl
    | false => rfl

theorem region?_modify (s : Surface) (key id : RegionId) (f : Region → Region) :
    (s.modify key f).region? id = (s.region? id).map fun r => if id = key then f r else r :=
  lookup_map_snd (fun k r => if k = key then f r else r) id s.regions

theorem region?_register (s : Surface) (key id : RegionId) (visible : Bool) :
    (s.register key visible).region? id =
      (s.region? id).or (if id = key then some ⟨"", visible⟩ else none) := by
  rw [region?, register, List.lookup_append, List.lookup_cons]
  by_cases same : id = key
  · simp [same, region?]
  · have different : (id == key) = false := beq_false_of_ne same
    simp [same, different, region?]

/-- What an edit does to a region that exists. -/
theorem region?_apply {s : Surface} {id : RegionId} {r : Region} (h : s.region? id = some r)
    (edit : Edit) :
    (s.apply edit).region? id =
      some ⟨(edit.textFor? id).getD r.text, (edit.visibleFor? id).getD r.visible⟩ := by
  cases edit with
  | setText key text =>
    rw [apply, region?_modify, h]
    by_cases same : id = key
    · simp [textFor?, visibleFor?, same]
    · simp [textFor?, visibleFor?, same, Ne.symm same]
  | setVisible key visible =>
    rw [apply, region?_modify, h]
    by_cases same : id = key
    · simp [textFor?, visibleFor?, same]
    · simp [textFor?, visibleFor?, same, Ne.symm same]
  | clear key =>
    rw [apply]
    split <;> exact h
  | append key entry =>
    rw [apply]
    split <;> exact h
  | ensure key =>
    rw [apply]
    split
    · exact h
    · rw [region?_register, h]
      rfl

/-- An edit creates no region but one that it ensures. -/
theorem region?_apply_none {s : Surface} {id : RegionId} (h : s.region? id = none) {edit : Edit}
    (other : edit ≠ .ensure id) : (s.apply edit).region? id = none := by
  cases edit with
  | setText key text => rw [apply, region?_modify, h]; rfl
  | setVisible key visible => rw [apply, region?_modify, h]; rfl
  | clear key =>
    rw [apply]
    split <;> exact h
  | append key entry =>
    rw [apply]
    split <;> exact h
  | ensure key =>
    have different : id ≠ key := fun same => other (by rw [same])
    rw [apply]
    split
    · exact h
    · rw [region?_register, h, if_neg different]
      rfl

theorem isSome_region?_ensure (s : Surface) (id : RegionId) :
    ((s.apply (.ensure id)).region? id).isSome = true := by
  rw [apply]
  split
  · assumption
  · rw [region?_register, if_pos rfl]
    cases s.region? id <;> rfl

theorem entries_apply (s : Surface) (edit : Edit) :
    (s.apply edit).entries = edit.entriesAfter s.entries := by
  cases edit with
  | setText | setVisible => rfl
  | clear => rw [apply]; split <;> simp [Edit.entriesAfter, *]
  | append => rw [apply]; split <;> simp [Edit.entriesAfter, *]
  | ensure => rw [apply]; split <;> rfl

/-! ### Lists of edits -/

theorem region?_applyAll {s : Surface} {id : RegionId} {r : Region} (h : s.region? id = some r)
    (edits : List Edit) :
    (s.applyAll edits).region? id =
      some ⟨(lastOf? (textFor? id) edits).getD r.text,
        (lastOf? (visibleFor? id) edits).getD r.visible⟩ := by
  induction edits generalizing s r with
  | nil => exact h
  | cons edit edits ih =>
    rw [applyAll, List.foldl_cons, ← applyAll, ih (region?_apply h edit), lastOf?_cons,
      lastOf?_cons]
    cases lastOf? (textFor? id) edits <;> cases lastOf? (visibleFor? id) edits <;> rfl

theorem region?_applyAll_none {s : Surface} {id : RegionId} (h : s.region? id = none)
    {edits : List Edit} (other : Edit.ensure id ∉ edits) :
    (s.applyAll edits).region? id = none := by
  induction edits generalizing s with
  | nil => exact h
  | cons edit edits ih =>
    simp only [List.mem_cons, not_or] at other
    exact ih (region?_apply_none h (Ne.symm other.1)) other.2

theorem text?_applyAll {s : Surface} {id : RegionId} (present : (s.region? id).isSome = true)
    (edits : List Edit) :
    (s.applyAll edits).text? id = (lastOf? (textFor? id) edits).or (s.text? id) := by
  obtain ⟨r, h⟩ := Option.isSome_iff_exists.mp present
  rw [text?, region?_applyAll h, text?, h]
  cases lastOf? (textFor? id) edits <;> rfl

theorem isSome_region?_of_text? {s : Surface} {id : RegionId} {text : String}
    (h : s.text? id = some text) : (s.region? id).isSome = true := by
  rw [text?, Option.map_eq_some_iff] at h
  obtain ⟨r, found, _⟩ := h
  rw [found]
  rfl

theorem isVisible_applyAll {s : Surface} {id : RegionId} (present : (s.region? id).isSome = true)
    (edits : List Edit) :
    (s.applyAll edits).isVisible id = (lastOf? (visibleFor? id) edits).getD (s.isVisible id) := by
  obtain ⟨r, h⟩ := Option.isSome_iff_exists.mp present
  rw [isVisible, region?_applyAll h, isVisible, h]
  rfl

theorem isSome_region?_applyAll {s : Surface} {id : RegionId}
    (present : (s.region? id).isSome = true) (edits : List Edit) :
    ((s.applyAll edits).region? id).isSome = true := by
  obtain ⟨r, h⟩ := Option.isSome_iff_exists.mp present
  rw [region?_applyAll h]
  rfl

theorem entries_applyAll (s : Surface) (edits : List Edit) :
    (s.applyAll edits).entries = edits.foldl Edit.entriesAfter s.entries := by
  induction edits generalizing s with
  | nil => rfl
  | cons edit edits ih =>
    rw [applyAll, List.foldl_cons, ← applyAll, ih, entries_apply, List.foldl_cons]

/-! ### Edits that leave a region alone -/

theorem text?_applyAll_same {s : Surface} {id : RegionId} {edits : List Edit}
    (texts : lastOf? (textFor? id) edits = none) (creates : Edit.ensure id ∉ edits) :
    (s.applyAll edits).text? id = s.text? id := by
  cases h : s.region? id with
  | none => rw [text?, region?_applyAll_none h creates, text?, h]
  | some r => rw [text?_applyAll (by rw [h]; rfl), texts, Option.none_or]

theorem region?_applyAll_same {s : Surface} {id : RegionId} {edits : List Edit}
    (texts : lastOf? (textFor? id) edits = none) (visible : lastOf? (visibleFor? id) edits = none)
    (creates : Edit.ensure id ∉ edits) : (s.applyAll edits).region? id = s.region? id := by
  cases h : s.region? id with
  | none => exact region?_applyAll_none h creates
  | some r => rw [region?_applyAll h, texts, visible]; rfl

theorem isVisible_applyAll_same {s : Surface} {id : RegionId} {edits : List Edit}
    (visible : lastOf? (visibleFor? id) edits = none) (creates : Edit.ensure id ∉ edits) :
    (s.applyAll edits).isVisible id = s.isVisible id := by
  cases h : s.region? id with
  | none => rw [isVisible, region?_applyAll_none h creates, isVisible, h]
  | some r => rw [isVisible_applyAll (by rw [h]; rfl), visible]; rfl

/-! ### The blank surface -/

theorem lookup_map_const (id : RegionId) (r : Region) (ids : List RegionId) :
    (ids.map (·, r)).lookup id = if id ∈ ids then some r else none := by
  induction ids with
  | nil => rfl
  | cons key ids ih =>
    rw [List.map_cons, List.lookup_cons, ih]
    by_cases same : id = key
    · simp [same]
    · have different : (id == key) = false := beq_false_of_ne same
      simp [same, different]

theorem region?_blank (id : RegionId) :
    blank.region? id =
      if id ∈ textRegions then some ⟨"", true⟩
      else if id ∈ modes then some ⟨"", false⟩ else none := by
  rw [region?, blank, List.lookup_append, lookup_map_const, lookup_map_const]
  split
  · rfl
  · rw [Option.none_or]

theorem modes_not_text : ∀ mode ∈ modes, mode ∉ textRegions := by decide

theorem region?_blank_text {id : RegionId} (h : id ∈ textRegions) :
    blank.region? id = some ⟨"", true⟩ := by
  rw [region?_blank, if_pos h]

theorem region?_blank_mode {mode : RegionId} (h : mode ∈ modes) :
    blank.region? mode = some ⟨"", false⟩ := by
  rw [region?_blank, if_neg (modes_not_text mode h), if_pos h]

def Complete (s : Surface) : Prop :=
  ∀ id ∈ textRegions ++ modes, (s.region? id).isSome = true

theorem complete_blank : Complete blank := by
  intro id member
  rcases List.mem_append.mp member with text | mode
  · rw [region?_blank_text text]; rfl
  · rw [region?_blank_mode mode]; rfl

theorem Complete.applyAll {s : Surface} (h : Complete s) (edits : List Edit) :
    Complete (s.applyAll edits) :=
  fun id member => isSome_region?_applyAll (h id member) edits

theorem Complete.text {s : Surface} (h : Complete s) {id : RegionId} (member : id ∈ textRegions) :
    (s.region? id).isSome = true :=
  h id (List.mem_append_left _ member)

theorem Complete.mode {s : Surface} (h : Complete s) {id : RegionId} (member : id ∈ modes) :
    (s.region? id).isSome = true :=
  h id (List.mem_append_right _ member)

end Surface

end OrderLookup.Page
