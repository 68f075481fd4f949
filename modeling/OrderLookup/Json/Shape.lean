import OrderLookup.Json.Codec

/-!
# Records

A shape lists the members of a record in order. A record is read from an object with its members in
any order, or from an array of its members in the listed order; unknown members of an object are
skipped. It is written as an object in the listed order.
-/

namespace OrderLookup.Json

/-- A member of a record of type `α`. Reading its value gives the change that stores it. -/
structure Member (α : Type) where
  key : String
  /-- The member may be left out. -/
  optional : Bool
  read : Reader (α → α)
  write : α → List UInt8

def Codec.member {α β : Type} (c : Codec β) (key : String) (optional : Bool) (get : α → β)
    (set : β → α → α) : Member α where
  key := key
  optional := optional
  read s := do
    let (value, rest) ← c.read s
    return (set value, rest)
  write a := c.write (get a)

/-- A kind of record. `blank` is what reading starts from; members that are left out stay as they
are there. -/
structure Shape (α : Type) where
  name : String
  blank : α
  members : List (Member α)

namespace Shape

variable {α : Type}

def positions (shape : Shape α) : List (Member α) → Nat → Bool → α → Reader α
  | [], _, _, draft, s => do
    let rest ← Codec.closeArray s
    return (draft, rest)
  | m :: later, count, first, draft, s => do
    match ← Codec.nextElement first s with
    | some s =>
      let (store, s) ← m.read s
      positions shape later (count + 1) false (store draft) s
    | none =>
      if m.optional then positions shape later (count + 1) first draft s
      else throw (.mismatch (.tooShort count shape.name shape.members.length))

def nextKey (first : Bool) (s : List UInt8) : Except Failure (Option String × List UInt8) := do
  let (b, rest) ← nextByte s
  if b = ascii '}' then return (none, rest)
  let (b, rest) ← if first then pure (b, rest) else
    if b = ascii ',' then nextByte rest else throw .illFormed
  if b ≠ ascii '"' then throw .illFormed
  let (key, rest) ← readQuoted rest
  return (some key, rest)

def afterColon (s : List UInt8) : Except Failure (List UInt8) := do
  let (b, rest) ← nextByte s
  if b = ascii ':' then return rest else throw .illFormed

/-- The members of an object up to its end; `seen` holds the keys that have occurred. Each member
takes at least one byte, so that `fuel` is enough if it is no less than the length of the input. -/
def entries (shape : Shape α) : Nat → Bool → List String → α → Reader α
  | 0, _, _, _, _ => .error .cutShort
  | fuel + 1, first, seen, draft, s => do
    match ← nextKey first s with
    | (none, rest) =>
      match shape.members.find? fun m => !m.optional && !seen.contains m.key with
      | some m => throw (.mismatch (.missing m.key))
      | none => return (draft, rest)
    | (some key, rest) =>
      match shape.members.find? (·.key == key) with
      | some m =>
        if seen.contains key then throw (.mismatch (.duplicate key))
        let rest ← afterColon rest
        let (store, rest) ← m.read rest
        entries shape fuel false (key :: seen) (store draft) rest
      | none =>
        let rest ← afterColon rest
        let rest ← skipValue rest
        entries shape fuel false seen draft rest

def writeMember (a : α) (m : Member α) : List UInt8 :=
  quote m.key ++ ascii ':' :: m.write a

def codec (shape : Shape α) : Codec α where
  read s := do
    let (b, rest) ← nextByte s
    if b = ascii '[' then positions shape shape.members 0 true shape.blank rest
    else if b = ascii '{' then entries shape (rest.length + 1) true [] shape.blank rest
    else throw (refuse (.record shape.name) b rest)
  write a :=
    ascii '{' :: Codec.separated (shape.members.map (writeMember a)) ++ [ascii '}']

end Shape

end OrderLookup.Json
