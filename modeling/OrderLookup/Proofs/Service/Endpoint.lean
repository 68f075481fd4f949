import OrderLookup.Proofs.Order.Id
import OrderLookup.Proofs.Url.Parse
import OrderLookup.Proofs.Url.Path
import OrderLookup.Service.Client

/-!
# What an order URL asks for

Below a base URL the id of an order is the last segment of the path, but without its tabs and line
breaks, which a URL does not keep. `orderUrl_asksFor_iff` says that the URL asks for the very id
just when there are none in it, and that two ids have the same URL just when they differ in these
alone.
-/

namespace OrderLookup

open OrderLookup.Text

namespace Url

def Path.lastTwo? (path : Path) : Option (List Char × List Char) := do
  let (front, last) ← cutLast? '/' path.chars
  let (_, before) ← cutLast? '/' front
  return (before, last)

/-- The last segment stands below `order` and is the text percent-encoded. -/
def AsksFor (url : Url) (text : List Char) : Prop :=
  ∃ segment, url.path.lastTwo? = some ("order".toList, segment) ∧
    Utf8.decode? (Percent.decode segment) = some text

theorem AsksFor.unique {url : Url} {s t : List Char} (h : url.AsksFor s) (h' : url.AsksFor t) :
    s = t := by
  obtain ⟨segment, last, read⟩ := h
  obtain ⟨segment', last', read'⟩ := h'
  rw [last, Option.some.injEq, Prod.mk.injEq] at last'
  rw [last'.2, read'] at read
  exact (Option.some.inj read).symm

theorem chars_concat (segments : List (List Char)) (segment : List Char) :
    (Path.rooted (segments ++ [segment])).chars =
      (Path.rooted segments).chars ++ '/' :: segment := by
  simp [Path.chars]

theorem lastTwo?_rooted {before last : List Char} (free : '/' ∉ before) (free' : '/' ∉ last)
    (segments : List (List Char)) :
    (Path.rooted (segments ++ [before, last])).lastTwo? = some (before, last) := by
  rw [show segments ++ [before, last] = segments ++ [before] ++ [last] by simp, Path.lastTwo?,
    chars_concat, cutLast?_append_cons free', chars_concat]
  change (cutLast? '/' _ >>= _) = _
  rw [cutLast?_append_cons free]
  rfl

/-- A path that ends with a slash asks for nothing. -/
theorem not_asksFor_of_empty {url : Url} {segments : List (List Char)} {text : List Char}
    (path : url.path = .rooted (segments ++ [[]])) (filled : text ≠ []) : ¬url.AsksFor text := by
  rintro ⟨segment, last, read⟩
  rw [path, Path.lastTwo?, chars_concat, cutLast?_append_cons (by simp)] at last
  change (cutLast? '/' _ >>= _) = _ at last
  cases front : cutLast? '/' (Path.rooted segments).chars with
  | none => rw [front] at last; cases last
  | some parts =>
    rw [front] at last
    have empty : segment = [] := ((Prod.mk.inj (Option.some.inj last)).2).symm
    rw [empty] at read
    exact filled (Option.some.inj read).symm

end Url

namespace OrderId

/-- What is left of an id in a URL. -/
def kept (id : OrderId) : List Char :=
  Url.Path.kept id.chars

theorem isBlank_of_isDropped {c : Char} (h : Url.Path.isDropped c = true) : isBlank c = true := by
  simp only [Url.Path.isDropped, Bool.or_eq_true, beq_iff_eq] at h
  rcases h with (rfl | rfl) | rfl <;> rfl

/-- The first and the last character of an id are kept. -/
theorem kept_ne_dot (id : OrderId) : id.kept ≠ ['.'] := by
  obtain ⟨first, middle, last, chars, front, back⟩ := id.exists_ends
  have keeps {c : Char} (h : isBlank c = false) : Url.Path.isDropped c = false := by
    rw [Bool.eq_false_iff]
    intro dropped
    rw [isBlank_of_isDropped dropped] at h
    cases h
  simp [kept, Url.Path.kept, chars, keeps front, keeps back]

theorem chars_ne {id : OrderId} {s : List Char} (other : s.length ≠ 20) : id.chars ≠ s := by
  rintro rfl
  exact other id.length_chars

end OrderId

namespace Service

open Url.Path

variable {base : Url} {segments : List (List Char)}

theorem encodeSegment_order : encodeSegment .web "order".toList = "order".toList := by decide

def front (segments : List (List Char)) : List (List Char) :=
  below (popIfEmpty segments)

theorem orderUrl_eq (web : base.kind = .web) (rooted : base.path = .rooted segments)
    (id : OrderId) :
    orderUrl base id =
      .ok { base with
        path := .rooted (push .web (front segments ++ ["order".toList]) id.chars) } := by
  have order : push .web (popIfEmpty segments) "order".toList =
      front segments ++ ["order".toList] := by
    rw [push_web (by decide) (by decide), encodeSegment_order]
    rfl
  simp only [orderUrl, endpoint, Url.extend?, rooted, web, List.foldl_cons, List.foldl_nil, order]

theorem orderUrl_of_dots (web : base.kind = .web) (rooted : base.path = .rooted segments)
    {id : OrderId} (dots : id.kept = ['.', '.']) :
    orderUrl base id = .ok { base with path := .rooted (front segments ++ [[]]) } := by
  rw [orderUrl_eq web rooted, push_web_dots dots (id.chars_ne (by decide)) (by decide) (by decide)]

theorem orderUrl_of_text (web : base.kind = .web) (rooted : base.path = .rooted segments)
    {id : OrderId} (noDots : id.kept ≠ ['.', '.']) :
    orderUrl base id =
      .ok { base with
        path := .rooted (front segments ++ ["order".toList, encodeSegment .web id.chars]) } := by
  rw [orderUrl_eq web rooted, push_web id.kept_ne_dot noDots, below_concat (by decide),
    List.append_assoc]
  rfl

theorem asksFor_of_text {url : Url} {id : OrderId}
    (path : url.path =
      .rooted (front segments ++ ["order".toList, encodeSegment .web id.chars])) :
    url.AsksFor id.kept := by
  refine ⟨_, path ▸ Url.lastTwo?_rooted (by decide) (slash_not_mem_encodeSegment _ _) _, ?_⟩
  rw [decode_encodeSegment, Utf8.decode?_encode]
  rfl

/-- Ids with the same URL below a base are left with the same text. -/
theorem kept_of_orderUrl_eq (web : base.kind = .web) (rooted : base.path = .rooted segments)
    {id other : OrderId} (same : orderUrl base other = orderUrl base id) :
    other.kept = id.kept := by
  by_cases dots : id.kept = ['.', '.']
  · by_cases otherDots : other.kept = ['.', '.']
    · rw [dots, otherDots]
    · rw [orderUrl_of_text web rooted otherDots, orderUrl_of_dots web rooted dots] at same
      have path := congrArg Url.path (Except.ok.inj same)
      simp at path
  · by_cases otherDots : other.kept = ['.', '.']
    · rw [orderUrl_of_dots web rooted otherDots, orderUrl_of_text web rooted dots] at same
      have path := congrArg Url.path (Except.ok.inj same)
      simp at path
    · rw [orderUrl_of_text web rooted otherDots, orderUrl_of_text web rooted dots] at same
      have path := congrArg Url.path (Except.ok.inj same)
      apply encodeSegment_injective .web
      simpa using path

theorem orderUrl_eq_of_kept (web : base.kind = .web) (rooted : base.path = .rooted segments)
    {id other : OrderId} (same : other.kept = id.kept) :
    orderUrl base other = orderUrl base id := by
  have segment : encodeSegment .web other.chars = encodeSegment .web id.chars :=
    congrArg (Percent.encode Url.Reserved.specialSegment) same
  by_cases dots : id.kept = ['.', '.']
  · rw [orderUrl_of_dots web rooted dots, orderUrl_of_dots web rooted (same.trans dots)]
  · rw [orderUrl_of_text web rooted dots, orderUrl_of_text web rooted (same ▸ dots), segment]

/-- Below every base URL that is accepted there is a URL for every id. It asks for the very id just
when no character of it is dropped, and for what is left of it unless that is two dots; and it is
the URL of just the ids that are left with the same text. -/
theorem orderUrl_asksFor_iff {raw : String} {base : Url}
    (accepted : Config.parseBaseUrl raw = .ok base) (id : OrderId) :
    ∃ url, orderUrl base id = .ok url ∧
      (url.AsksFor id.chars ↔ ∀ c ∈ id.chars, isDropped c = false) ∧
      (id.kept ≠ ['.', '.'] → url.AsksFor id.kept) ∧
      ∀ other : OrderId, orderUrl base other = .ok url ↔ other.kept = id.kept := by
  obtain ⟨web, segments, rooted⟩ := Config.parseBaseUrl_ok accepted
  have sameUrl {url : Url} (made : orderUrl base id = .ok url) (other : OrderId) :
      orderUrl base other = .ok url ↔ other.kept = id.kept := by
    rw [← made]
    exact ⟨kept_of_orderUrl_eq web rooted, orderUrl_eq_of_kept web rooted⟩
  by_cases dots : id.kept = ['.', '.']
  -- Two dots take back the segment `order`. Something was dropped, as an id is longer than that.
  · have made := orderUrl_of_dots web rooted dots
    have nothing : ¬Url.AsksFor { base with path := .rooted (front segments ++ [[]]) } id.chars :=
      Url.not_asksFor_of_empty rfl (id.chars_ne (by decide))
    refine ⟨_, made, ⟨fun asks => (nothing asks).elim, fun clean => ?_⟩,
      fun other => (other dots).elim, sameUrl made⟩
    have whole : id.kept = id.chars := kept_eq_self_iff.mpr clean
    exact (id.chars_ne (by decide) (whole.symm.trans dots)).elim
  · have made := orderUrl_of_text web rooted dots
    have asks : Url.AsksFor
        { base with
          path := .rooted (front segments ++ ["order".toList, encodeSegment .web id.chars]) }
        id.kept :=
      asksFor_of_text rfl
    refine ⟨_, made, ⟨fun whole => ?_, fun clean => ?_⟩, fun _ => asks, sameUrl made⟩
    · exact kept_eq_self_iff.mp (asks.unique whole)
    · rwa [OrderId.kept, kept_eq_self_iff.mpr clean] at asks

/-- An id of separators and dots is asked for below a base URL of all components. -/
theorem orderUrl_separators :
    ∃ base id url,
      Config.parseBaseUrl "https://user:pw@orders.example.com:8443/api/v1/?x=1#f" = .ok base ∧
        OrderId.parse "a/b?c#d%é\\..jklmnopq" = .ok id ∧
        orderUrl base id = .ok url ∧ url.AsksFor id.chars := by
  let authority : Url.Authority :=
    ⟨"user".toList, some "pw".toList, "orders.example.com".toList, some 8443⟩
  let base : Url :=
    ⟨"https".toList, some authority, .rooted ["api".toList, "v1".toList, []], some "x=1".toList,
      some "f".toList⟩
  let id : OrderId := ⟨"a/b?c#d%é\\..jklmnopq".toList, by decide, by decide⟩
  have accepted :
      Config.parseBaseUrl "https://user:pw@orders.example.com:8443/api/v1/?x=1#f" = .ok base := rfl
  obtain ⟨url, made, asks, _⟩ := orderUrl_asksFor_iff accepted id
  exact ⟨base, id, url, accepted, rfl, made, asks.mpr (kept_eq_self_iff.mp rfl)⟩

/-- A tab within an id is lost: the URL asks for what is left, and another id has the same URL. -/
theorem orderUrl_tab :
    ∃ base id other url,
      Config.parseBaseUrl "http://localhost:8081" = .ok base ∧
        OrderId.parse "ab\tcdefghijklmnopqrs" = .ok id ∧
        OrderId.parse "abcdefghij\tklmnopqrs" = .ok other ∧
        orderUrl base id = .ok url ∧ ¬url.AsksFor id.chars ∧
        other ≠ id ∧ orderUrl base other = .ok url := by
  let base : Url :=
    ⟨"http".toList, some ⟨[], none, "localhost".toList, some 8081⟩, .rooted [[]], none, none⟩
  let id : OrderId := ⟨"ab\tcdefghijklmnopqrs".toList, by decide, by decide⟩
  let other : OrderId := ⟨"abcdefghij\tklmnopqrs".toList, by decide, by decide⟩
  let url : Url :=
    { base with path := .rooted ["order".toList, "abcdefghijklmnopqrs".toList] }
  have left : url.AsksFor "abcdefghijklmnopqrs".toList := ⟨"abcdefghijklmnopqrs".toList, rfl, rfl⟩
  have lost : ¬url.AsksFor id.chars := by
    intro whole
    exact absurd (left.unique whole) (by decide)
  exact ⟨base, id, other, url, rfl, rfl, rfl, rfl, lost, by decide, rfl⟩

end Service

end OrderLookup
