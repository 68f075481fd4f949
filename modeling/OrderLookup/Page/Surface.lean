import OrderLookup.Text.Decimal

/-!
# The surface of a page

A surface holds named regions, each with a text and a visibility, and one list of entries. It is
changed by edits. An edit of a region or a list that does not exist changes nothing.
-/

namespace OrderLookup.Page

abbrev RegionId := String

structure Region where
  text : String
  visible : Bool
  deriving DecidableEq

structure Card where
  title : String
  fields : List (String × String)
  deriving DecidableEq

inductive Entry where
  | placeholder (text : String)
  | card (card : Card)
  deriving DecidableEq

structure Surface where
  regions : List (RegionId × Region)
  entries : List Entry
  deriving DecidableEq

inductive Edit where
  | setText (region : RegionId) (text : String)
  | setVisible (region : RegionId) (visible : Bool)
  | clear (list : RegionId)
  | append (list : RegionId) (entry : Entry)
  /-- Creates a region that does not exist yet. -/
  | ensure (region : RegionId)
  deriving DecidableEq

def itemsList : RegionId := "itemsList"

namespace Surface

def region? (s : Surface) (id : RegionId) : Option Region :=
  s.regions.lookup id

def text? (s : Surface) (id : RegionId) : Option String :=
  (s.region? id).map (·.text)

def isVisible (s : Surface) (id : RegionId) : Bool :=
  (s.region? id).any (·.visible)

def list (s : Surface) (id : RegionId) : List Entry :=
  if id = itemsList then s.entries else []

def modify (s : Surface) (id : RegionId) (f : Region → Region) : Surface :=
  { s with regions := s.regions.map fun (key, r) => (key, if key = id then f r else r) }

def register (s : Surface) (id : RegionId) (visible : Bool) : Surface :=
  { s with regions := s.regions ++ [(id, ⟨"", visible⟩)] }

def apply (s : Surface) : Edit → Surface
  | .setText id text => s.modify id fun r => { r with text }
  | .setVisible id visible => s.modify id fun r => { r with visible }
  | .clear id => if id = itemsList then { s with entries := [] } else s
  | .append id entry => if id = itemsList then { s with entries := s.entries ++ [entry] } else s
  | .ensure id => if (s.region? id).isSome then s else s.register id true

def creates (s : Surface) : Edit → Bool
  | .ensure id => (s.region? id).isNone
  | _ => false

def applyAll (s : Surface) (edits : List Edit) : Surface :=
  edits.foldl apply s

end Surface

end OrderLookup.Page
