import Mathlib.Data.List.Forall2
import OrderLookup.Json.Shape
import OrderLookup.Proofs.Json.Token

/-!
# What values mean

For each kind of codec, which values it stands for. A record is declared by its slots: an object
describes the record whose slots its members give, an array lists the slots in order.
-/

namespace OrderLookup.Json

abbrev Meaning (β : Type) := Value → β → Prop

namespace Meaning

variable {β : Type}

def text : Meaning String := fun v s =>
  v = .string (some s)

/-- An integer literal, but not minus zero. -/
def integer : Meaning Int64 := fun v z =>
  ∃ minus digits, v = .number minus ⟨digits, [], none⟩ ∧
    (minus = true → Literal.natOf digits ≠ 0) ∧
    z.toInt = if minus then -(Literal.natOf digits : Int) else (Literal.natOf digits : Int)

def nullable (m : Meaning β) : Meaning (Option β)
  | v, none => v = .null
  | v, some b => v ≠ .null ∧ m v b

def list (m : Meaning β) : Meaning (List β) := fun v bs =>
  ∃ vs, v = .array vs ∧ List.Forall₂ m vs bs

def listOrNull (m : Meaning β) : Meaning (List β) := fun v bs =>
  v = .null ∧ bs = [] ∨ list m v bs

end Meaning

/-- A codec reads the values that mean something, and refuses the others. -/
def Codec.Reads {β : Type} (c : Codec β) (m : Meaning β) : Prop :=
  ∀ {v s}, Spells (.value v) s → ∀ {gap rest}, Blank gap → Ends rest → ∀ b r,
    c.read (gap ++ (s ++ rest)) = .ok (b, r) ↔ m v b ∧ r = rest

def Codec.Writes {β : Type} (c : Codec β) (m : Meaning β) : Prop :=
  ∀ b, ∃ v, Spells (.value v) (c.write b) ∧ m v b

/-- A member as a record declares it: its key, whether it may be left out, and which values stand
for which contents of its field. -/
structure Slot (α : Type) where
  key : String
  optional : Bool
  {β : Type}
  codec : Codec β
  meaning : Meaning β
  get : α → β
  set : β → α → α
  reads : codec.Reads meaning
  writes : codec.Writes meaning
  get_set : ∀ b a, get (set b a) = b

namespace Slot

variable {α : Type}

def member (slot : Slot α) : Member α :=
  slot.codec.member slot.key slot.optional slot.get slot.set

def Apart (slot other : Slot α) : Prop :=
  (∀ b a, other.get (slot.set b a) = other.get a) ∧ ∀ b a, slot.get (other.set b a) = slot.get a

/-- The slots of a record have keys of their own, leave each other alone and make up the record. -/
structure Independent (slots : List (Slot α)) : Prop where
  distinct : (slots.map (·.key)).Nodup
  apart : slots.Pairwise Apart
  ext : ∀ a a', (∀ slot ∈ slots, slot.get a = slot.get a') → a = a'

def Given (slot : Slot α) (ms : Members) (b : slot.β) : Prop :=
  ∃ v, (some slot.key, v) ∈ ms ∧ slot.meaning v b

def occurrences (ms : Members) (key : String) : Nat :=
  (ms.map (·.1)).count (some key)

/-- The members describe the record `a`: every key is a text, no declared key occurs twice, and each
slot has the content of its member, or that of `blank` if it may be left out and is. -/
structure Describes (slots : List (Slot α)) (blank : α) (ms : Members) (a : α) : Prop where
  named : ∀ m ∈ ms, m.1.isSome = true
  once : ∀ slot ∈ slots, occurrences ms slot.key ≤ 1
  each : ∀ slot ∈ slots, slot.Given ms (slot.get a) ∨
    slot.optional = true ∧ occurrences ms slot.key = 0 ∧ slot.get a = slot.get blank

/-- The values list the slots of the record `a` in order; slots that may be left out can be missing
at the end. -/
def Lists (blank : α) : List (Slot α) → List Value → α → Prop
  | [], vs, _ => vs = []
  | slot :: later, [], a =>
    slot.optional = true ∧ slot.get a = slot.get blank ∧ Lists blank later [] a
  | slot :: later, v :: vs, a => slot.meaning v (slot.get a) ∧ Lists blank later vs a

def record (slots : List (Slot α)) (blank : α) : Meaning α
  | .object ms, a => Describes slots blank ms a
  | .array vs, a => Lists blank slots vs a
  | _, _ => False

end Slot

end OrderLookup.Json
