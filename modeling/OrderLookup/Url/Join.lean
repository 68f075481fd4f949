import OrderLookup.Url.Parse

/-!
# References

A reference that is found at a web address stands for a URL. What it leaves out is taken from the
address.
-/

namespace OrderLookup.Url

open OrderLookup.Text

def startsAuthority (kind : Kind) : List Char → Bool
  | a :: b :: _ => Path.isSlash kind a && Path.isSlash kind b
  | _ => false

/-- The URL of a reference behind its scheme, if it has that of the address or none. -/
def relative? (base : Url) (s : List Char) : Option Url :=
  let (front, fragment) := cut '#' s
  let (front, query) := cut '?' front
  let query := query.map (Percent.encode Reserved.specialQuery)
  let fragment := fragment.map (Percent.encode Reserved.fragment)
  let isSlash := Path.isSlash base.kind
  if startsAuthority base.kind front then
    match readBody base.scheme (query.isSome || fragment.isSome) front with
    | .ok (authority, path) => some ⟨base.scheme, authority, path, query, fragment⟩
    | .error _ => none
  else
    match front with
    | [] => some { base with query := query <|> base.query, fragment }
    | a :: rest =>
      if isSlash a then
        some { base with path := .rooted (Path.parse base.kind rest), query, fragment }
      else
        match base.path with
        | .rooted segments =>
          let more := (splitAt isSlash front).map (Percent.encode Reserved.path)
          let path := Path.addAll base.kind segments.dropLast more
          some { base with path := .rooted path, query, fragment }
        | .unstructured _ => none

/-- The URL that a reference stands for at a web address. With the scheme of the address it counts
as one without a scheme, unless two slashes follow. -/
def join? (base : Url) (reference : String) : Option Url :=
  match readScheme? (clean reference.toList) with
  | none => base.relative? (clean reference.toList)
  | some (scheme, rest) =>
    if scheme = base.scheme ∧ !startsAuthority base.kind rest then base.relative? rest
    else (parse reference).toOption

end OrderLookup.Url
