import Mathlib.Data.List.Nodup
import Mathlib.Data.List.Pairwise
import OrderLookup.Proofs.Json.Meaning
import OrderLookup.Proofs.Json.Sequence
import OrderLookup.Proofs.Json.Skip

/-!
# Objects are read from members that describe

The reader of objects goes through the members once, with the keys that have occurred and the record
so far. `Slot.entries_iff` says what that comes to, `Slot.describes_iff` that it does not depend on
the order.
-/

namespace OrderLookup.Json

/-! ### Members one after another -/

namespace Remaining

variable {first : Bool} {s : List UInt8}

theorem close_members (h : Remaining .members first [] s) (rest : List UInt8) :
    Shape.nextKey first (s ++ ascii '}' :: rest) = .ok (none, rest) := by
  have blank : Blank s := by
    cases h with
    | all members => cases members with | noMember blank => exact blank
    | done blank => exact blank
  rw [Shape.nextKey, nextByte_mark (by decide) blank]
  rfl

theorem split_members {key : Option String} {v : Value} {ms : Members}
    (h : Spells (.members ((key, v) :: ms)) s) :
    ∃ before literal after gap w tail,
      s = before ++ (literal ++ (after ++ ascii ':' :: (gap ++ (w ++ tail)))) ∧ Blank before ∧
      Quoted key literal ∧ Blank after ∧ Blank gap ∧ Spells (.value v) w ∧
      Remaining .members false ms tail := by
  cases h with
  | member member =>
    cases member with
    | keyed before quoted after padded =>
      cases padded with
      | padded gap value back =>
        exact ⟨_, _, _, _, _, _, rfl, before, quoted, after, gap, value, .done back⟩
  | moreMembers member later =>
    cases member with
    | keyed before quoted after padded =>
      cases padded with
      | padded gap value back =>
        refine ⟨_, _, _, _, _, _, ?_, before, quoted, after, gap, value, .comma back later⟩
        simp only [List.append_assoc, List.cons_append]

theorem nextKey_lead {l : List UInt8} (lead : Lead first l) {gap : List UInt8}
    (blank : Blank gap) (t : List UInt8) :
    Shape.nextKey first (l ++ (gap ++ ascii '"' :: t)) =
      readQuoted t >>= fun p => .ok (some p.1, p.2) := by
  cases lead with
  | none =>
    rw [List.nil_append, Shape.nextKey, nextByte_mark (by decide) blank]
    rfl
  | comma front =>
    rw [List.append_assoc, List.singleton_append, Shape.nextKey,
      nextByte_mark (by decide) front, ok_bind]
    dsimp only
    rw [if_neg (by decide), nextByte_mark (by decide) blank]
    rfl

theorem key_iff {key : Option String} {t : List UInt8}
    (read : ∀ rest found r, readQuoted (t ++ rest) = .ok (found, r) ↔ key = some found ∧ r = rest)
    {rest : List UInt8} {found : Option String} {r : List UInt8} :
    (readQuoted (t ++ rest) >>= fun p => .ok (some p.1, p.2)) = .ok (found, r) ↔
      ∃ k, key = some k ∧ found = some k ∧ r = rest := by
  simp only [bind_eq_ok, Prod.exists, read]
  constructor
  · rintro ⟨k, _, ⟨text, rfl⟩, same⟩
    obtain ⟨rfl, rfl⟩ := Prod.mk.inj (Except.ok.inj same)
    exact ⟨k, text, rfl, rfl⟩
  · rintro ⟨k, text, rfl, rfl⟩
    exact ⟨k, _, ⟨text, rfl⟩, rfl⟩

theorem afterColon_append {gap : List UInt8} (blank : Blank gap) (rest : List UInt8) :
    Shape.afterColon ((gap ++ [ascii ':']) ++ rest) = .ok rest := by
  rw [Shape.afterColon, List.append_assoc, List.singleton_append, nextByte_mark (by decide) blank]
  rfl

/-- The key that comes next, if it is a text, the value behind its colon and what remains. -/
theorem next_member {key : Option String} {v : Value} {ms : Members}
    (h : Remaining .members first ((key, v) :: ms) s) :
    ∃ colon gap w tail, Blank gap ∧ Spells (.value v) w ∧ Remaining .members false ms tail ∧
      tail.length < s.length ∧ (∀ rest, Shape.afterColon (colon ++ rest) = .ok rest) ∧
      ∀ rest found r, Shape.nextKey first (s ++ rest) = .ok (found, r) ↔
        ∃ k, key = some k ∧ found = some k ∧ r = colon ++ (gap ++ (w ++ (tail ++ rest))) := by
  obtain ⟨l, u, rfl, lead, members⟩ := h.lead
  obtain ⟨before, literal, after, gap, w, tail, rfl, blank, quoted, back, between, value, later⟩ :=
    split_members members
  obtain ⟨t, rfl, read⟩ := quoted.read_iff
  refine ⟨after ++ [ascii ':'], gap, w, tail, between, value, later, ?_, afterColon_append back,
    fun rest found r => ?_⟩
  · simp only [List.length_append, List.length_cons]
    omega
  · rw [← key_iff read, ← nextKey_lead lead blank]
    simp only [List.append_assoc, List.cons_append, List.nil_append]

end Remaining

namespace Slot

variable {α : Type} {slots : List (Slot α)}

def content (a : α) (slot : Slot α) : (β : Type) × β :=
  ⟨slot.β, slot.get a⟩

/-- Slots that each store at their own place only, and that restore any record together, are
independent. -/
theorem independent_of_stores (distinct : (slots.map (·.key)).Nodup)
    (alone : ∀ a a', slots.map (fun slot => slots.map (content (slot.set (slot.get a') a))) =
      slots.zipIdx.map fun place => (slots.map (content a)).set place.2 (content a' place.1))
    (together : ∀ a a', slots.foldl (fun draft slot => slot.set (slot.get a') draft) a = a') :
    Independent slots := by
  have frame {i j : Nat} (hi : i < slots.length) (hj : j < slots.length) (differs : i ≠ j)
      (b : slots[i].β) (a : α) : slots[j].get (slots[i].set b a) = slots[j].get a := by
    -- Anything that can be stored is what the slot holds in the record that stores it.
    have row := List.getElem_of_eq (alone a (slots[i].set b a)) (i := i) (by simpa using hi)
    rw [List.getElem_map, List.getElem_map, List.getElem_zipIdx, slots[i].get_set] at row
    have entry := List.getElem_of_eq row (i := j) (by simpa using hj)
    simp only [Nat.zero_add, List.getElem_map, List.getElem_set_ne differs] at entry
    exact eq_of_heq (Sigma.mk.inj entry).2
  refine ⟨distinct, ?_, fun a a' same => ?_⟩
  · rw [List.pairwise_iff_getElem]
    intro i j hi hj before
    exact ⟨frame hi hj (Nat.ne_of_lt before), frame hj hi (Nat.ne_of_gt before)⟩
  · have restored : slots.foldl (fun draft slot => slot.set (slot.get a) draft) a =
        slots.foldl (fun draft slot => slot.set (slot.get a') draft) a :=
      List.foldl_ext _ _ _ fun draft slot listed => by rw [same slot listed]
    rwa [together, together] at restored

theorem Independent.eq_of_key (h : Independent slots) {slot other : Slot α} (listed : slot ∈ slots)
    (listed' : other ∈ slots) (same : slot.key = other.key) : slot = other :=
  List.inj_on_of_nodup_map h.distinct listed listed' same

instance : Std.Symm (@Apart α) where
  symm _ _ h := ⟨h.2, h.1⟩

theorem Independent.frame (h : Independent slots) {slot other : Slot α} (listed : slot ∈ slots)
    (listed' : other ∈ slots) (differs : other.key ≠ slot.key) (b : slot.β) (a : α) :
    other.get (slot.set b a) = other.get a := by
  have apart := h.apart.forall listed listed' fun same => differs (congrArg key same).symm
  exact apart.1 b a

theorem member_read (slot : Slot α) {v : Value} {s : List UInt8} (h : Spells (.value v) s)
    {gap rest : List UInt8} (blank : Blank gap) (ends : Ends rest) (store : α → α)
    (r : List UInt8) :
    slot.member.read (gap ++ (s ++ rest)) = .ok (store, r) ↔
      ∃ b, slot.meaning v b ∧ store = slot.set b ∧ r = rest := by
  have read := slot.reads h blank ends
  change (slot.codec.read _ >>= _) = _ ↔ _
  simp only [bind_eq_ok, Prod.exists, read]
  constructor
  · rintro ⟨b, _, ⟨means, rfl⟩, same⟩
    obtain ⟨rfl, rfl⟩ := Prod.mk.inj (Except.ok.inj same)
    exact ⟨b, means, rfl, rfl⟩
  · rintro ⟨b, means, rfl, rfl⟩
    exact ⟨b, _, ⟨means, rfl⟩, rfl⟩

theorem find?_member (slots : List (Slot α)) (key : String) :
    (slots.map member).find? (·.key == key) = (slots.find? (·.key == key)).map member :=
  List.find?_map ..

/-! ### Objects -/

/-- What reading members one by one comes to, from the keys and the record read so far. -/
def Stored (slots : List (Slot α)) : List String → α → Members → α → Prop
  | seen, draft, [], a =>
    (∀ slot ∈ slots, slot.optional = false → slot.key ∈ seen) ∧ a = draft
  | seen, draft, (key, v) :: ms, a =>
    (∃ slot ∈ slots, key = some slot.key ∧ slot.key ∉ seen ∧
      ∃ b, slot.meaning v b ∧ Stored slots (slot.key :: seen) (slot.set b draft) ms a) ∨
    ∃ unknown, key = some unknown ∧ (∀ slot ∈ slots, slot.key ≠ unknown) ∧
      Stored slots seen draft ms a

theorem known_or_unknown (slots : List (Slot α)) (key : String) :
    (∃ slot ∈ slots, slot.key = key) ∨ ∀ slot ∈ slots, slot.key ≠ key := by
  by_cases known : ∃ slot ∈ slots, slot.key = key
  · exact Or.inl known
  · exact Or.inr fun slot listed same => known ⟨slot, listed, same⟩

theorem stored_known (independent : Independent slots) {slot : Slot α} (listed : slot ∈ slots)
    {seen : List String} {draft a : α} {v : Value} {ms : Members} :
    Stored slots seen draft ((some slot.key, v) :: ms) a ↔
      slot.key ∉ seen ∧ ∃ b, slot.meaning v b ∧
        Stored slots (slot.key :: seen) (slot.set b draft) ms a := by
  rw [Stored]
  constructor
  · rintro (⟨other, listed', same, new, stored⟩ | ⟨_, same, unlisted, _⟩)
    · obtain rfl := independent.eq_of_key listed listed' (Option.some.inj same)
      exact ⟨new, stored⟩
    · exact (unlisted slot listed (Option.some.inj same)).elim
  · rintro ⟨new, stored⟩
    exact Or.inl ⟨slot, listed, rfl, new, stored⟩

theorem stored_unknown {key : String} (unlisted : ∀ slot ∈ slots, slot.key ≠ key)
    {seen : List String} {draft a : α} {v : Value} {ms : Members} :
    Stored slots seen draft ((some key, v) :: ms) a ↔ Stored slots seen draft ms a := by
  rw [Stored]
  constructor
  · rintro (⟨slot, listed, same, _⟩ | ⟨_, _, _, stored⟩)
    · exact (unlisted slot listed (Option.some.inj same).symm).elim
    · exact stored
  · exact fun stored => Or.inr ⟨key, rfl, unlisted, stored⟩

theorem not_stored_unnamed {seen : List String} {draft a : α} {v : Value} {ms : Members} :
    ¬Stored slots seen draft ((none, v) :: ms) a := by
  rw [Stored]
  rintro (⟨_, _, same, _⟩ | ⟨_, same, _⟩) <;> cases same

theorem missing_eq_none {shape : Shape α} (same : shape.members = slots.map member)
    {seen : List String} :
    shape.members.find? (fun m => !m.optional && !seen.contains m.key) = none ↔
      ∀ slot ∈ slots, slot.optional = false → slot.key ∈ seen := by
  rw [same, List.find?_eq_none, List.forall_mem_map]
  refine forall₂_congr fun slot _ => ?_
  change ¬(!slot.optional && !seen.contains slot.key) = true ↔ _
  simp

theorem find?_of_mem (independent : Independent slots) {slot : Slot α} (listed : slot ∈ slots) :
    slots.find? (·.key == slot.key) = some slot := by
  cases found : slots.find? (·.key == slot.key) with
  | none =>
    have other := List.find?_eq_none.mp found slot listed
    simp at other
  | some other =>
    have key : other.key = slot.key := by simpa using List.find?_some found
    rw [independent.eq_of_key (List.mem_of_find?_eq_some found) listed key]

theorem find?_of_unlisted {key : String} (unlisted : ∀ slot ∈ slots, slot.key ≠ key) :
    slots.find? (·.key == key) = none := by
  rw [List.find?_eq_none]
  exact fun slot listed => by simpa using unlisted slot listed

theorem entries_key {shape : Shape α} {fuel : Nat} {first : Bool} {s : List UInt8} {key : String}
    {rest : List UInt8} (next : Shape.nextKey first s = .ok (some key, rest)) (seen : List String)
    (draft : α) :
    shape.entries (fuel + 1) first seen draft s =
      match shape.members.find? (·.key == key) with
      | some m =>
        if seen.contains key then .error (.mismatch (.duplicate key))
        else
          Shape.afterColon rest >>= fun rest => m.read rest >>= fun p =>
            shape.entries fuel false (key :: seen) (p.1 draft) p.2
      | none =>
        Shape.afterColon rest >>= fun rest => skipValue rest >>= fun rest =>
          shape.entries fuel false seen draft rest := by
  rw [Shape.entries, next, ok_bind]
  dsimp only
  cases shape.members.find? (·.key == key) with
  | none => rfl
  | some m =>
    dsimp only
    split <;> rfl

theorem entries_iff (independent : Independent slots) {shape : Shape α}
    (same : shape.members = slots.map member) {ms : Members} {first : Bool} {s : List UInt8}
    (h : Remaining .members first ms s) {fuel : Nat} (enough : s.length < fuel)
    (rest : List UInt8) (seen : List String) (draft a : α) (r : List UInt8) :
    shape.entries fuel first seen draft (s ++ ascii '}' :: rest) = .ok (a, r) ↔
      Stored slots seen draft ms a ∧ r = rest := by
  -- Every member takes a byte at least, so that the fuel lasts.
  induction ms generalizing first s fuel seen draft with
  | nil =>
    obtain ⟨fuel, rfl⟩ := Nat.exists_eq_add_one_of_ne_zero (Nat.ne_zero_of_lt enough)
    rw [Shape.entries, h.close_members, ok_bind]
    dsimp only
    rw [Stored, ← missing_eq_none same]
    cases shape.members.find? fun m => !m.optional && !seen.contains m.key with
    | none =>
      constructor
      · intro read
        obtain ⟨rfl, rfl⟩ := Prod.mk.inj (Except.ok.inj read)
        exact ⟨⟨rfl, rfl⟩, rfl⟩
      · rintro ⟨⟨_, rfl⟩, rfl⟩
        rfl
    | some m => exact ⟨nofun, nofun⟩
  | cons m ms ih =>
    obtain ⟨fuel, rfl⟩ := Nat.exists_eq_add_one_of_ne_zero (Nat.ne_zero_of_lt enough)
    obtain ⟨key, v⟩ := m
    obtain ⟨colon, gap, w, tail, blank, value, later, shorter, afterColon, next⟩ := h.next_member
    have ends := later.ends (b := ascii '}') (by decide) rest
    cases key with
    | none =>
      rw [Shape.entries, bind_eq_ok]
      simp only [Prod.exists, next]
      exact ⟨nofun, fun h => (not_stored_unnamed h.1).elim⟩
    | some key =>
      rw [entries_key ((next _ _ _).mpr ⟨key, rfl, rfl, rfl⟩), same, find?_member]
      rcases known_or_unknown slots key with ⟨slot, listed, rfl⟩ | unlisted
      · rw [find?_of_mem independent listed, stored_known independent listed]
        dsimp only [Option.map_some]
        by_cases repeated : slot.key ∈ seen
        · rw [if_pos (by simpa using repeated)]
          exact ⟨nofun, fun h => (h.1.1 repeated).elim⟩
        · rw [if_neg (by simpa using repeated), afterColon, ok_bind]
          simp only [bind_eq_ok, Prod.exists, member_read slot value blank ends]
          constructor
          · rintro ⟨_, _, ⟨b, means, rfl, rfl⟩, read⟩
            obtain ⟨stored, rfl⟩ := (ih later (by omega) _ _).mp read
            exact ⟨⟨repeated, b, means, stored⟩, rfl⟩
          · rintro ⟨⟨_, b, means, stored⟩, rfl⟩
            exact ⟨_, _, ⟨b, means, rfl, rfl⟩, (ih later (by omega) _ _).mpr ⟨stored, rfl⟩⟩
      · rw [find?_of_unlisted unlisted, stored_unknown unlisted]
        dsimp only [Option.map_none]
        rw [afterColon, ok_bind, value.skipValue blank ends, ok_bind, ih later (by omega)]

/-! ### Members that describe -/

theorem occurrences_cons (key : Option String) (v : Value) (ms : Members) (wanted : String) :
    occurrences ((key, v) :: ms) wanted =
      occurrences ms wanted + if key = some wanted then 1 else 0 := by
  rw [occurrences, List.map_cons, List.count_cons]
  simp [occurrences]

theorem occurrences_eq_zero {ms : Members} {key : String} :
    occurrences ms key = 0 ↔ ∀ v, (some key, v) ∉ ms := by
  rw [occurrences, List.count_eq_zero, List.mem_map]
  constructor
  · exact fun absent v member => absent ⟨_, member, rfl⟩
  · rintro absent ⟨⟨_, v⟩, member, rfl⟩
    exact absent v member

theorem given_cons (slot : Slot α) (key : Option String) (v : Value) (ms : Members) (b : slot.β) :
    slot.Given ((key, v) :: ms) b ↔ key = some slot.key ∧ slot.meaning v b ∨ slot.Given ms b := by
  simp only [Given, List.mem_cons, Prod.mk.injEq]
  constructor
  · rintro ⟨_, ⟨rfl, rfl⟩ | member, means⟩
    · exact Or.inl ⟨rfl, means⟩
    · exact Or.inr ⟨_, member, means⟩
  · rintro (⟨rfl, means⟩ | ⟨_, member, means⟩)
    · exact ⟨v, Or.inl ⟨rfl, rfl⟩, means⟩
    · exact ⟨_, Or.inr member, means⟩

theorem occurrences_cons_of_ne {key : Option String} {wanted : String} (h : key ≠ some wanted)
    (v : Value) (ms : Members) : occurrences ((key, v) :: ms) wanted = occurrences ms wanted := by
  rw [occurrences_cons, if_neg h, Nat.add_zero]

theorem given_cons_of_ne {slot : Slot α} {key : Option String} (h : key ≠ some slot.key) (v : Value)
    (ms : Members) (b : slot.β) : slot.Given ((key, v) :: ms) b ↔ slot.Given ms b := by
  rw [given_cons, or_iff_right fun both => h both.1]

theorem Given.occurs {slot : Slot α} {ms : Members} {b : slot.β} (h : slot.Given ms b) :
    occurrences ms slot.key ≠ 0 := by
  obtain ⟨v, member, _⟩ := h
  exact fun absent => occurrences_eq_zero.mp absent v member

structure Completes (slots : List (Slot α)) (seen : List String) (draft : α) (ms : Members)
    (a : α) : Prop where
  named : ∀ m ∈ ms, m.1.isSome = true
  once : ∀ slot ∈ slots, occurrences ms slot.key + seen.count slot.key ≤ 1
  each : ∀ slot ∈ slots, slot.Given ms (slot.get a) ∨
    (slot.optional = true ∨ slot.key ∈ seen) ∧ occurrences ms slot.key = 0 ∧
      slot.get a = slot.get draft

theorem completes_nil (independent : Independent slots) {seen : List String}
    (distinct : seen.Nodup) {draft a : α} :
    Completes slots seen draft [] a ↔ Stored slots seen draft [] a := by
  rw [Stored]
  constructor
  · intro h
    have rest (slot) (listed : slot ∈ slots) :
        (slot.optional = true ∨ slot.key ∈ seen) ∧ occurrences [] slot.key = 0 ∧
          slot.get a = slot.get draft := (h.each slot listed).resolve_left (by simp [Given])
    refine ⟨fun slot listed required => ?_, independent.ext a draft fun slot listed =>
      (rest slot listed).2.2⟩
    exact (rest slot listed).1.resolve_left (by simp [required])
  · rintro ⟨complete, rfl⟩
    refine ⟨by simp, fun slot _ => ?_, fun slot listed => Or.inr ⟨?_, rfl, rfl⟩⟩
    · simpa [occurrences] using List.nodup_iff_count_le_one.mp distinct slot.key
    · cases optional : slot.optional with
      | true => exact Or.inl rfl
      | false => exact Or.inr (complete slot listed optional)

/-- Only the keys, how often they occur and what is given matter. -/
theorem Completes.of_same {seen : List String} {draft a : α} {ms ms' : Members}
    (h : Completes slots seen draft ms a) (named : ∀ m ∈ ms', m.1.isSome = true)
    (count : ∀ slot ∈ slots, occurrences ms' slot.key = occurrences ms slot.key)
    (given : ∀ slot ∈ slots, ∀ b, slot.Given ms' b ↔ slot.Given ms b) :
    Completes slots seen draft ms' a := by
  refine ⟨named, fun slot listed => ?_, fun slot listed => ?_⟩
  · rw [count slot listed]
    exact h.once slot listed
  · rw [count slot listed, given slot listed]
    exact h.each slot listed

theorem completes_unknown {seen : List String} {draft a : α} {key : String} {v : Value}
    {ms : Members} (unlisted : ∀ slot ∈ slots, slot.key ≠ key) :
    Completes slots seen draft ((some key, v) :: ms) a ↔ Completes slots seen draft ms a := by
  have other (slot) (listed : slot ∈ slots) : some key ≠ some slot.key :=
    fun same => unlisted slot listed (Option.some.inj same).symm
  have count (slot) (listed : slot ∈ slots) :
      occurrences ((some key, v) :: ms) slot.key = occurrences ms slot.key :=
    occurrences_cons_of_ne (other slot listed) v ms
  have given (slot : Slot α) (listed : slot ∈ slots) (b : slot.β) :
      slot.Given ((some key, v) :: ms) b ↔ slot.Given ms b :=
    given_cons_of_ne (other slot listed) v ms b
  constructor
  · intro h
    exact h.of_same (List.forall_mem_cons.mp h.named).2 (fun slot listed => (count slot listed).symm)
      fun slot listed b => (given slot listed b).symm
  · exact fun h => h.of_same (List.forall_mem_cons.mpr ⟨rfl, h.named⟩) count given

theorem completes_known (independent : Independent slots) {seen : List String} {draft a : α}
    {slot : Slot α} (listed : slot ∈ slots) {v : Value} {ms : Members} :
    Completes slots seen draft ((some slot.key, v) :: ms) a ↔
      slot.key ∉ seen ∧ ∃ b, slot.meaning v b ∧
        Completes slots (slot.key :: seen) (slot.set b draft) ms a := by
  have count (key : String) : occurrences ((some slot.key, v) :: ms) key + seen.count key =
      occurrences ms key + (slot.key :: seen).count key := by
    rw [occurrences_cons, List.count_cons]
    simp only [Option.some.injEq, beq_iff_eq]
    omega
  have own : (slot.key :: seen).count slot.key = seen.count slot.key + 1 := List.count_cons_self
  have other {next : Slot α} (listed' : next ∈ slots) (differs : next.key ≠ slot.key)
      (b : slot.β) :
      (next.Given ((some slot.key, v) :: ms) (next.get a) ∨
          (next.optional = true ∨ next.key ∈ seen) ∧
            occurrences ((some slot.key, v) :: ms) next.key = 0 ∧ next.get a = next.get draft) ↔
        (next.Given ms (next.get a) ∨ (next.optional = true ∨ next.key ∈ slot.key :: seen) ∧
          occurrences ms next.key = 0 ∧ next.get a = next.get (slot.set b draft)) := by
    have noKey : some slot.key ≠ some next.key := fun same => differs (Option.some.inj same).symm
    have seen' : next.key ∈ slot.key :: seen ↔ next.key ∈ seen := by
      rw [List.mem_cons, or_iff_right differs]
    rw [given_cons_of_ne noKey, occurrences_cons_of_ne noKey, seen',
      independent.frame listed listed' differs]
  constructor
  · intro h
    -- The member at the front counts once, so the key is new and does not occur later.
    have once := h.once slot listed
    rw [count, own] at once
    have absent : occurrences ms slot.key = 0 := by omega
    have means : slot.meaning v (slot.get a) := by
      rcases h.each slot listed with given | ⟨_, none, _⟩
      · rcases (given_cons ..).mp given with ⟨_, means⟩ | later
        · exact means
        · exact (later.occurs absent).elim
      · rw [occurrences_cons, if_pos rfl] at none
        cases none
    refine ⟨List.count_eq_zero.mp (by omega), slot.get a, means,
      (List.forall_mem_cons.mp h.named).2, fun next listed' => ?_, fun next listed' => ?_⟩
    · rw [← count]
      exact h.once next listed'
    · by_cases same : next.key = slot.key
      · obtain rfl := independent.eq_of_key listed' listed same
        exact Or.inr ⟨Or.inr List.mem_cons_self, absent, (next.get_set _ _).symm⟩
      · exact (other listed' same _).mp (h.each next listed')
  · rintro ⟨new, b, means, h⟩
    refine ⟨List.forall_mem_cons.mpr ⟨rfl, h.named⟩, fun next listed' => ?_, fun next listed' => ?_⟩
    · rw [count]
      exact h.once next listed'
    · by_cases same : next.key = slot.key
      · obtain rfl := independent.eq_of_key listed' listed same
        have once := h.once next listed
        rw [own] at once
        rcases h.each next listed with given | ⟨_, _, stored⟩
        · exact (given.occurs (by omega)).elim
        · rw [stored, next.get_set]
          exact Or.inl ((given_cons ..).mpr (Or.inl ⟨rfl, means⟩))
      · exact (other listed' same b).mpr (h.each next listed')

theorem completes_iff (independent : Independent slots) {seen : List String}
    (distinct : seen.Nodup) {draft a : α} {ms : Members} :
    Completes slots seen draft ms a ↔ Stored slots seen draft ms a := by
  induction ms generalizing seen draft with
  | nil => exact completes_nil independent distinct
  | cons m ms ih =>
    obtain ⟨key, v⟩ := m
    cases key with
    | none =>
      refine ⟨fun h => ?_, fun stored => (not_stored_unnamed stored).elim⟩
      cases h.named _ List.mem_cons_self
    | some key =>
      rcases known_or_unknown slots key with ⟨slot, listed, rfl⟩ | unlisted
      · rw [completes_known independent listed, stored_known independent listed]
        refine and_congr_right fun new => ?_
        simp only [ih (List.nodup_cons.mpr ⟨new, distinct⟩)]
      · rw [completes_unknown unlisted, stored_unknown unlisted, ih distinct]

theorem describes_completes {blank a : α} {ms : Members} :
    Describes slots blank ms a ↔ Completes slots [] blank ms a := by
  constructor
  · rintro ⟨named, once, each⟩
    exact ⟨named, once, fun slot listed => (each slot listed).imp_right fun h => ⟨Or.inl h.1, h.2⟩⟩
  · rintro ⟨named, once, each⟩
    exact ⟨named, once, fun slot listed => (each slot listed).imp_right fun h =>
      ⟨h.1.resolve_right List.not_mem_nil, h.2⟩⟩

theorem describes_iff (independent : Independent slots) {blank a : α} {ms : Members} :
    Describes slots blank ms a ↔ Stored slots [] blank ms a := by
  rw [describes_completes, completes_iff independent List.nodup_nil]

end Slot

end OrderLookup.Json
