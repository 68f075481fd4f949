import OrderLookup.Proofs.Json.Record

/-!
# Whole documents, and what their records have to hold

`Codec.decode_iff` takes reading to a whole document, `Codec.decode_write` is the round trip.
`Slot.exists_describes_iff` says which members describe some record, and `Slot.Rearranged.describes`
that neither their order nor members that the record does not know make a difference.
-/

namespace OrderLookup.Json

namespace Codec

variable {β : Type} {c : Codec β} {m : Meaning β}

theorem decode_iff (reads : c.Reads m) {v : Value} {s : List UInt8} (h : Spells (.value v) s)
    {front back : List UInt8} (before : Blank front) (after : Blank back) {b : β} :
    c.decode (front ++ (s ++ back)) = .ok b ↔ m v b := by
  have ends : Ends back := List.append_nil back ▸ ends_append after ends_nil
  have nothing : skipBlanks back = [] := List.append_nil back ▸ skipBlanks_append after []
  change (c.read _ >>= _) = _ ↔ _
  simp only [bind_eq_ok, Prod.exists, reads h before ends]
  constructor
  · rintro ⟨b, _, ⟨means, rfl⟩, found⟩
    rw [nothing] at found
    obtain rfl := Except.ok.inj found
    exact means
  · intro means
    refine ⟨b, _, ⟨means, rfl⟩, ?_⟩
    rw [nothing]
    rfl

theorem decode_write (reads : c.Reads m) (writes : c.Writes m) (b : β) :
    c.decode (c.write b) = .ok b := by
  obtain ⟨v, spelled, means⟩ := writes b
  have decoded := (decode_iff reads spelled blank_nil blank_nil).mpr means
  rwa [List.nil_append, List.append_nil] at decoded

end Codec

namespace Slot

variable {α : Type} {slots : List (Slot α)}

/-! ### Which members describe a record -/

structure Fits (slots : List (Slot α)) (ms : Members) : Prop where
  once : ∀ slot ∈ slots, occurrences ms slot.key ≤ 1
  required : ∀ slot ∈ slots, slot.optional = false → occurrences ms slot.key ≠ 0
  typed : ∀ slot ∈ slots, ∀ v, (some slot.key, v) ∈ ms → ∃ b, slot.meaning v b

def Accepted (slots : List (Slot α)) (ms : Members) : Prop :=
  (∀ m ∈ ms, m.1.isSome = true) ∧ Fits slots ms

/-- A key that does not occur twice has one value. -/
theorem value_unique {ms : Members} {key : String} (once : occurrences ms key ≤ 1) {v w : Value}
    (h : (some key, v) ∈ ms) (h' : (some key, w) ∈ ms) : v = w := by
  induction ms with
  | nil => cases h
  | cons m ms ih =>
    obtain ⟨found, x⟩ := m
    rw [occurrences_cons] at once
    rw [List.mem_cons, Prod.mk.injEq] at h h'
    by_cases same : found = some key
    · rw [if_pos same] at once
      have absent : occurrences ms key = 0 := by omega
      have last (u) (h : some key = found ∧ u = x ∨ (some key, u) ∈ ms) : u = x :=
        h.elim And.right fun later => (occurrences_eq_zero.mp absent u later).elim
      rw [last v h, last w h']
    · rw [if_neg same] at once
      have later (u) (h : some key = found ∧ u = x ∨ (some key, u) ∈ ms) : (some key, u) ∈ ms :=
        h.resolve_left fun both => same both.1.symm
      exact ih once (later v h) (later w h')

theorem Describes.content {blank a : α} {ms : Members} (h : Describes slots blank ms a)
    {slot : Slot α} (listed : slot ∈ slots) :
    (∀ v, (some slot.key, v) ∈ ms → slot.meaning v (slot.get a)) ∧
      (occurrences ms slot.key = 0 → slot.get a = slot.get blank) := by
  rcases h.each slot listed with ⟨w, found, means⟩ | ⟨_, absent, left⟩
  · refine ⟨fun v member => ?_, fun absent => (occurrences_eq_zero.mp absent w found).elim⟩
    rwa [value_unique (h.once slot listed) member found]
  · exact ⟨fun v member => (occurrences_eq_zero.mp absent v member).elim, fun _ => left⟩

/-- Slots that leave each other alone can be given any contents. -/
theorem Independent.exists_record (independent : Independent slots)
    {P : (slot : Slot α) → slot.β → Prop} (h : ∀ slot ∈ slots, ∃ b, P slot b) (blank : α) :
    ∃ a, ∀ slot ∈ slots, P slot (slot.get a) := by
  suffices some : ∀ part : List (Slot α), part ⊆ slots → (part.map (·.key)).Nodup →
      ∃ a, ∀ slot ∈ part, P slot (slot.get a) from
    some slots (List.Subset.refl slots) independent.distinct
  intro part
  induction part with
  | nil => exact fun _ _ => ⟨blank, by simp⟩
  | cons slot part ih =>
    intro subset distinct
    rw [List.map_cons, List.nodup_cons] at distinct
    have listed : slot ∈ slots := subset List.mem_cons_self
    have later : part ⊆ slots := fun _ member => subset (List.mem_cons_of_mem slot member)
    obtain ⟨a, contents⟩ := ih later distinct.2
    obtain ⟨b, content⟩ := h slot listed
    refine ⟨slot.set b a, List.forall_mem_cons.mpr ⟨?_, fun other member => ?_⟩⟩
    · rwa [slot.get_set]
    · have differs : other.key ≠ slot.key := fun same =>
        distinct.1 (List.mem_map.mpr ⟨other, member, same⟩)
      rw [independent.frame listed (later member) differs]
      exact contents other member

theorem exists_describes_iff (independent : Independent slots) {blank : α} {ms : Members} :
    (∃ a, Describes slots blank ms a) ↔ Accepted slots ms := by
  constructor
  · rintro ⟨a, h⟩
    refine ⟨h.named, h.once, fun slot listed required => ?_, fun slot listed v member =>
      ⟨_, (h.content listed).1 v member⟩⟩
    rcases h.each slot listed with given | ⟨optional, _⟩
    · exact given.occurs
    · rw [required] at optional
      cases optional
  · rintro ⟨named, fits⟩
    have contents : ∀ slot ∈ slots, ∃ b, slot.Given ms b ∨
        slot.optional = true ∧ occurrences ms slot.key = 0 ∧ b = slot.get blank := by
      intro slot listed
      by_cases absent : occurrences ms slot.key = 0
      · refine ⟨slot.get blank, Or.inr ⟨?_, absent, rfl⟩⟩
        rw [← Bool.not_eq_false]
        exact fun required => fits.required slot listed required absent
      · rw [occurrences_eq_zero, not_forall_not] at absent
        obtain ⟨v, member⟩ := absent
        obtain ⟨b, means⟩ := fits.typed slot listed v member
        exact ⟨b, Or.inl ⟨v, member, means⟩⟩
    obtain ⟨a, each⟩ := independent.exists_record contents blank
    exact ⟨a, named, fits.once, each⟩

/-! ### Rearranged members -/

def Unknown (slots : List (Slot α)) (ms : Members) : Prop :=
  ∀ m ∈ ms, ∃ key, m.1 = some key ∧ ∀ slot ∈ slots, slot.key ≠ key

/-- The same members in another order, with values that mean the same to the record, among others
that it does not know. -/
def Rearranged (slots : List (Slot α)) (ms ms' : Members) : Prop :=
  ∃ unknown same, Unknown slots unknown ∧
    List.Forall₂ (fun m m' => m'.1 = m.1 ∧ ∀ slot ∈ slots, m.1 = some slot.key →
      ∀ b, slot.meaning m'.2 b ↔ slot.meaning m.2 b) ms same ∧
    ms'.Perm (unknown ++ same)

theorem occurrences_append (ms later : Members) (key : String) :
    occurrences (ms ++ later) key = occurrences ms key + occurrences later key := by
  rw [occurrences, List.map_append, List.count_append, occurrences, occurrences]

theorem given_append (slot : Slot α) (ms later : Members) (b : slot.β) :
    slot.Given (ms ++ later) b ↔ slot.Given ms b ∨ slot.Given later b := by
  simp only [Given, List.mem_append, or_and_right, exists_or]

theorem Unknown.absent {unknown : Members} (h : Unknown slots unknown) {slot : Slot α}
    (listed : slot ∈ slots) : occurrences unknown slot.key = 0 := by
  rw [occurrences_eq_zero]
  intro v member
  obtain ⟨key, same, unlisted⟩ := h _ member
  exact unlisted slot listed (Option.some.inj same)

theorem given_agree {slot : Slot α} {ms same : Members} {b : slot.β}
    (agree : List.Forall₂ (fun m m' => m'.1 = m.1 ∧
      (m.1 = some slot.key → (slot.meaning m'.2 b ↔ slot.meaning m.2 b))) ms same) :
    slot.Given same b ↔ slot.Given ms b := by
  induction agree with
  | nil => rfl
  | @cons m m' _ _ first _ ih =>
    obtain ⟨key, v⟩ := m
    obtain ⟨key', v'⟩ := m'
    obtain ⟨rfl, means⟩ := first
    rw [given_cons, given_cons, ih]
    refine or_congr_left (and_congr_right fun own => means own)

theorem keys_agree {ms same : Members} {P : Option String × Value → Option String × Value → Prop}
    (agree : List.Forall₂ (fun m m' => m'.1 = m.1 ∧ P m m') ms same) :
    same.map (·.1) = ms.map (·.1) := by
  induction agree with
  | nil => rfl
  | cons first _ ih => rw [List.map_cons, List.map_cons, first.1, ih]

theorem named_iff {ms : Members} :
    (∀ m ∈ ms, m.1.isSome = true) ↔ ∀ key ∈ ms.map (·.1), key.isSome = true := by
  rw [List.forall_mem_map]

theorem Rearranged.describes {ms ms' : Members} (h : Rearranged slots ms ms') {blank a : α} :
    Describes slots blank ms' a ↔ Describes slots blank ms a := by
  obtain ⟨unknown, same, unlisted, agree, perm⟩ := h
  have keys := keys_agree agree
  have named : (∀ m ∈ ms', m.1.isSome = true) ↔ ∀ m ∈ ms, m.1.isSome = true := by
    have others : ∀ m ∈ unknown, m.1.isSome = true := by
      intro m member
      obtain ⟨key, same, _⟩ := unlisted m member
      rw [same, Option.isSome_some]
    simp only [perm.mem_iff, List.forall_mem_append]
    rw [and_iff_right others, named_iff, keys, named_iff]
  have count (slot) (listed : slot ∈ slots) :
      occurrences ms' slot.key = occurrences ms slot.key := by
    have all : occurrences ms' slot.key = occurrences (unknown ++ same) slot.key :=
      (perm.map _).count_eq _
    rw [all, occurrences_append, unlisted.absent listed, Nat.zero_add, occurrences, keys,
      occurrences]
  have given (slot : Slot α) (listed : slot ∈ slots) (b : slot.β) :
      slot.Given ms' b ↔ slot.Given ms b := by
    have all : slot.Given ms' b ↔ slot.Given (unknown ++ same) b := by
      simp only [Given, perm.mem_iff]
    have none : ¬slot.Given unknown b := fun given => given.occurs (unlisted.absent listed)
    rw [all, given_append, or_iff_right none]
    exact given_agree (agree.imp fun _ _ first => ⟨first.1, fun own => first.2 slot listed own b⟩)
  rw [describes_completes, describes_completes]
  constructor
  · exact fun h => h.of_same (named.mp h.named) (fun slot listed => (count slot listed).symm)
      fun slot listed b => (given slot listed b).symm
  · exact fun h => h.of_same (named.mpr h.named) count given

end Slot

end OrderLookup.Json
