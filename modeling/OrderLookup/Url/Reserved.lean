import OrderLookup.Text.Percent

/-!
# Reserved characters

For each component of a URL, the ASCII characters that are percent-encoded in it.
-/

namespace OrderLookup.Url.Reserved

def control (c : Char) : Bool :=
  c.toNat < 0x20 || c.toNat == 0x7F

def fragment (c : Char) : Bool :=
  control c || c ∈ [' ', '"', '<', '>', '\x60']

def query (c : Char) : Bool :=
  control c || c ∈ [' ', '"', '#', '<', '>']

/-- In a query of a web or file URL. -/
def specialQuery (c : Char) : Bool :=
  query c || c == '\''

def path (c : Char) : Bool :=
  fragment c || c ∈ ['#', '?', '{', '}']

def credentials (c : Char) : Bool :=
  path c || c ∈ ['/', ':', ';', '=', '@', '[', '\\', ']', '^', '|']

/-- In a segment that is added to a path. -/
def segment (c : Char) : Bool :=
  path c || c ∈ ['/', '%']

/-- In a segment that is added to the path of a web or file URL. -/
def specialSegment (c : Char) : Bool :=
  segment c || c == '\\'

end OrderLookup.Url.Reserved
