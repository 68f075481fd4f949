import OrderLookup.Proofs.Service.Endpoint
import OrderLookup.Proofs.Url.Segments

/-!
# Endpoints below a base URL

An endpoint is the base URL with a longer path: a slash at the end of the path is given up, and the
segments of the endpoint follow. `endpoints_below` says so of the texts, where an id is written byte
by byte.
-/

namespace OrderLookup

open OrderLookup.Text

namespace Url

/-- The text of a path without a slash at its end. Nothing is left of the root. -/
def trunk (path : List Char) : List Char :=
  let shorter := if path.getLast? = some '/' then path.dropLast else path
  if shorter = ['/'] then [] else shorter

namespace Path

variable {segments : List (List Char)}

theorem chars_eq_slash_iff : (Path.rooted segments).chars = ['/'] ↔ segments = [[]] := by
  constructor
  · intro slash
    cases segments with
    | nil => cases slash
    | cons segment later =>
      rw [chars_cons, List.cons_inj_right, List.append_eq_nil_iff] at slash
      obtain ⟨rfl, nothing⟩ := slash
      cases later with
      | nil => rfl
      | cons next later => rw [chars_cons] at nothing; cases nothing
  · rintro rfl
    rfl

/-- The segments that are left of a path when its last slash is given up. -/
theorem chars_below : (Path.rooted (below segments)).chars =
    if (Path.rooted segments).chars = ['/'] then [] else (Path.rooted segments).chars := by
  simp only [chars_eq_slash_iff, below]
  split <;> rfl

theorem popIfEmpty_of_named (named : segments.getLast? ≠ some []) : popIfEmpty segments = segments :=
  if_neg fun h => named h.2

theorem popIfEmpty_concat_nil (some : segments ≠ []) : popIfEmpty (segments ++ [[]]) = segments := by
  have long : 2 ≤ (segments ++ [[]]).length ∧ (segments ++ [[]]).getLast? = .some [] := by
    have := List.length_pos_iff.mpr some
    rw [List.length_append, List.getLast?_concat, List.length_singleton]
    exact ⟨by omega, rfl⟩
  rw [popIfEmpty, if_pos long, List.dropLast_concat]

theorem chars_below_popIfEmpty (free : SlashFree segments) :
    (Path.rooted (below (popIfEmpty segments))).chars = trunk (Path.rooted segments).chars := by
  rcases List.eq_nil_or_concat' segments with rfl | ⟨front, last, rfl⟩
  · rfl
  by_cases empty : last = []
  · subst empty
    have slash : (Path.rooted (front ++ [[]])).chars = (Path.rooted front).chars ++ ['/'] :=
      chars_concat front []
    rw [trunk, slash, List.getLast?_concat, if_pos rfl, List.dropLast_concat]
    cases front with
    | nil => rfl
    | cons segment later => rw [popIfEmpty_concat_nil (List.cons_ne_nil segment later), chars_below]
  · have named : (front ++ [last]).getLast? ≠ some [] := by
      rw [List.getLast?_concat]
      exact fun same => empty (Option.some.inj same)
    have free' : '/' ∉ last := free last (List.mem_append_right front (List.mem_singleton.mpr rfl))
    have noSlash : (Path.rooted (front ++ [last])).chars.getLast? ≠ some '/' := by
      rw [chars_concat, List.getLast?_append_of_ne_nil _ (List.cons_ne_nil _ _),
        List.getLast?_cons_of_ne_nil empty]
      exact fun same => free' (List.mem_of_getLast? same)
    rw [popIfEmpty_of_named named, chars_below, trunk, if_neg noSlash]

end Path

end Url

namespace Service

open Url Url.Path

variable {base : Url} {segments : List (List Char)}

theorem healthUrl_eq (web : base.kind = .web) (rooted : base.path = .rooted segments) :
    healthUrl base =
      .ok { base with path := .rooted (front segments ++ ["health".toList]) } := by
  have health : push .web (popIfEmpty segments) "health".toList =
      front segments ++ ["health".toList] := by
    rw [push_web (by decide) (by decide), show encodeSegment .web "health".toList =
      "health".toList by decide]
    rfl
  simp only [healthUrl, endpoint, Url.extend?, rooted, web, List.foldl_cons, List.foldl_nil, health]

theorem chars_order (free : SlashFree segments) (segment : List Char) :
    (Path.rooted (front segments ++ ["order".toList, segment])).chars =
      trunk (Path.rooted segments).chars ++ "/order/".toList ++ segment := by
  have split : front segments ++ ["order".toList, segment] =
      front segments ++ ["order".toList] ++ [segment] := by simp
  rw [split, chars_concat, chars_concat, front, chars_below_popIfEmpty free]
  simp

theorem chars_health (free : SlashFree segments) :
    (Path.rooted (front segments ++ ["health".toList])).chars =
      trunk (Path.rooted segments).chars ++ "/health".toList := by
  rw [chars_concat, front, chars_below_popIfEmpty free]
  rfl

/-- A slash more at the end of a path makes no difference. -/
theorem front_concat_nil (noSlash : (Path.rooted segments).chars.getLast? ≠ some '/') :
    front (segments ++ [[]]) = front segments := by
  have named : segments.getLast? ≠ some [] := by
    intro last
    obtain ⟨before, rfl⟩ := List.getLast?_eq_some_iff.mp last
    rw [chars_concat, List.getLast?_concat] at noSlash
    exact noSlash rfl
  cases segments with
  | nil => rfl
  | cons segment later =>
    rw [front, front, popIfEmpty_concat_nil (List.cons_ne_nil segment later),
      popIfEmpty_of_named named]

theorem endpoints_slashed {slashed : Url} (web : base.kind = .web)
    (rooted : base.path = .rooted segments)
    (same : slashed = { base with path := .rooted (segments ++ [[]]) })
    (noSlash : base.path.chars.getLast? ≠ some '/') :
    (∀ id, orderUrl slashed id = orderUrl base id) ∧ healthUrl slashed = healthUrl base := by
  have web' : slashed.kind = .web := by rw [same]; exact web
  have rooted' : slashed.path = .rooted (segments ++ [[]]) := by rw [same]
  rw [rooted] at noSlash
  constructor
  · intro id
    rw [orderUrl_eq web' rooted', orderUrl_eq web rooted, front_concat_nil noSlash, same]
  · rw [healthUrl_eq web' rooted', healthUrl_eq web rooted, front_concat_nil noSlash, same]

/-- Below every base URL that is accepted, the endpoints differ from it in the path alone: the path of
the base without a slash at its end, then the segments of the endpoint. An id none of whose
characters is dropped is the last segment, percent-encoded byte by byte, so that it is read back and
ends neither the segment nor the path. A slash at the end of the base makes no difference. -/
theorem endpoints_below {raw : String} {base : Url} (accepted : Config.parseBaseUrl raw = .ok base) :
    (∀ id : OrderId, (∀ c ∈ id.chars, isDropped c = false) →
      let segment := (Utf8.encode id.chars).flatMap (Percent.writeByte Reserved.segmentByte)
      (∃ url, orderUrl base id = .ok url ∧ url = { base with path := url.path } ∧
        url.path.chars = trunk base.path.chars ++ "/order/".toList ++ segment) ∧
      Utf8.decode? (Percent.decode segment) = some id.chars ∧
      ∀ c ∈ ['/', '?', '#', '\\'], c ∉ segment) ∧
    (∃ url, healthUrl base = .ok url ∧ url = { base with path := url.path } ∧
      url.path.chars = trunk base.path.chars ++ "/health".toList) ∧
    ∀ raw' slashed, Config.parseBaseUrl raw' = .ok slashed →
      slashed = { base with path := slashed.path } → base.path.chars.getLast? ≠ some '/' →
      slashed.path.chars = base.path.chars ++ ['/'] →
      (∀ id, orderUrl slashed id = orderUrl base id) ∧ healthUrl slashed = healthUrl base := by
  obtain ⟨web, _⟩ := Config.parseBaseUrl_ok accepted
  obtain ⟨segments, rooted, free⟩ := Config.parseBaseUrl_slashFree accepted
  refine ⟨fun id clean => ?_, ⟨_, healthUrl_eq web rooted, rfl, ?_⟩,
    fun raw' slashed accepted' same noSlash longer => ?_⟩
  · have whole : kept id.chars = id.chars := kept_eq_self_iff.mpr clean
    have noDots : id.kept ≠ ['.', '.'] := by
      rw [OrderId.kept, whole]
      exact id.chars_ne (by decide)
    have written : encodeSegment .web id.chars =
        (Utf8.encode id.chars).flatMap (Percent.writeByte Reserved.segmentByte) := by
      rw [encodeSegment_web, whole]
    intro segment
    rw [show segment = encodeSegment .web id.chars from written.symm]
    refine ⟨⟨_, orderUrl_of_text web rooted noDots, rfl, ?_⟩, ?_, fun c listed => ?_⟩
    · rw [rooted]
      exact chars_order free _
    · rw [decode_encodeSegment, whole, Utf8.decode?_encode]
    · simp only [List.mem_cons, List.not_mem_nil, or_false] at listed
      rcases listed with rfl | rfl | rfl | rfl
      all_goals exact Percent.not_mem_encode rfl rfl _
  · rw [rooted]
    exact chars_health free
  · obtain ⟨segments', rooted', free'⟩ := Config.parseBaseUrl_slashFree accepted'
    have slash : SlashFree (segments ++ [[]]) := free.append (slashFree_singleton List.not_mem_nil)
    rw [rooted, rooted', ← chars_concat] at longer
    obtain rfl := chars_injective free' slash longer
    rw [rooted'] at same
    exact endpoints_slashed web rooted same noSlash

/-- An id of separators below a base URL of all components, with and without a slash at its end. -/
theorem endpoints_below_all_components :
    ∃ base slashed id url,
      Config.parseBaseUrl "https://user:pw@orders.example.com:8443/api/v1?x=1#f" = .ok base ∧
        Config.parseBaseUrl "https://user:pw@orders.example.com:8443/api/v1/?x=1#f" = .ok slashed ∧
        OrderId.parse "a/b?c#d%é\\..jklmnopq" = .ok id ∧
        orderUrl base id = .ok url ∧ url = { base with path := url.path } ∧
        url.path.chars = "/api/v1/order/a%2Fb%3Fc%23d%25%C3%A9%5C..jklmnopq".toList ∧
        orderUrl slashed id = .ok url ∧ healthUrl slashed = healthUrl base := by
  let authority : Url.Authority :=
    ⟨"user".toList, some "pw".toList, "orders.example.com".toList, some 8443⟩
  let base : Url :=
    ⟨"https".toList, some authority, .rooted ["api".toList, "v1".toList], some "x=1".toList,
      some "f".toList⟩
  let slashed : Url := { base with path := .rooted ["api".toList, "v1".toList, []] }
  let id : OrderId := ⟨"a/b?c#d%é\\..jklmnopq".toList, by decide, by decide⟩
  have accepted :
      Config.parseBaseUrl "https://user:pw@orders.example.com:8443/api/v1?x=1#f" = .ok base := rfl
  have accepted' :
      Config.parseBaseUrl "https://user:pw@orders.example.com:8443/api/v1/?x=1#f" = .ok slashed :=
    rfl
  obtain ⟨order, _, slash⟩ := endpoints_below accepted
  obtain ⟨⟨url, made, frame, path⟩, _⟩ := order id (kept_eq_self_iff.mp rfl)
  obtain ⟨orders, health⟩ := slash _ slashed accepted' rfl (by decide) rfl
  refine ⟨base, slashed, id, url, accepted, accepted', rfl, made, frame, path.trans ?_, ?_, health⟩
  · decide +kernel
  · rw [orders, made]

end Service

end OrderLookup
