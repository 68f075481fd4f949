import OrderLookup.Page.Location
import OrderLookup.Proofs.Url.Parse
import OrderLookup.Proofs.Url.Query

/-!
# Relative and absolute locations

A path asks for the same order as the absolute URL below `http://localhost` while its query comes
before its fragment. A question mark within the fragment tells the two apart:
`orderUid?_absolute_iff`.
-/

namespace OrderLookup.Page

open OrderLookup.Text
open Url (Path)

/-! ### The query of an absolute location -/

def origin : List Char := "http://localhost".toList

theorem clean_eq_self {c : Char} {s : List Char} (front : Url.isPadding c = false)
    (back : ∀ d, (c :: s).getLast? = some d → Url.isPadding d = false)
    (kept : ∀ d ∈ c :: s, Path.isDropped d = false) : Url.clean (c :: s) = c :: s := by
  have whole : ((c :: s).dropWhile Url.isPadding) = c :: s := by simp [front]
  have still : (c :: s).reverse.dropWhile Url.isPadding = (c :: s).reverse := by
    cases reversed : (c :: s).reverse with
    | nil => rfl
    | cons d rest =>
      have last : (c :: s).getLast? = some d := by
        rw [List.getLast?_eq_head?_reverse, reversed]
        rfl
      simp [back d last]
  rw [Url.clean, whole, still, List.reverse_reverse]
  exact List.filter_eq_self.mpr fun d member => by simp [kept d member]

theorem readBody_localhost (more : Bool) (s : List Char) :
    ∃ authority path, Url.readBody "http".toList more ("//localhost".toList ++ '/' :: s) =
      .ok (authority, path) := by
  have host : Url.readAuthority "http".toList more ("localhost".toList ++ '/' :: s) =
      .ok (⟨[], none, "localhost".toList, none⟩, '/' :: s) := rfl
  refine ⟨some ⟨[], none, "localhost".toList, none⟩, .rooted (Path.parse .web s), ?_⟩
  change ((Url.readAuthority "http".toList more ("localhost".toList ++ '/' :: s)) >>= _) = _
  rw [host]
  rfl

def queryBeforeFragment (s : List Char) : Option (List Char) :=
  (cut '?' (cut '#' s).1).2

theorem query_absolute {location : String} {s : List Char} (slash : location.toList = '/' :: s)
    (back : ∀ c, location.toList.getLast? = some c → Url.isPadding c = false)
    (kept : ∀ c ∈ location.toList, Path.isDropped c = false) :
    query ("http://localhost" ++ location) =
      (queryBeforeFragment location.toList).map (Percent.encode Url.Reserved.specialQuery) := by
  rw [slash] at back kept ⊢
  have text : ("http://localhost" ++ location).toList = origin ++ '/' :: s := by
    rw [String.toList_append, slash]
    rfl
  have cleaned : Url.clean (origin ++ '/' :: s) = origin ++ '/' :: s := by
    refine clean_eq_self (c := 'h') rfl (fun d last => back d ?_) fun d member => ?_
    · have whole : (origin ++ '/' :: s).getLast? = some d := last
      rw [List.getLast?_append] at whole
      simpa using whole
    · rcases List.mem_append.mp (show d ∈ origin ++ '/' :: s from member) with site | page
      · have none : origin.any Path.isDropped = false := by decide
        exact Bool.eq_false_iff.mpr (List.any_eq_false.mp none d site)
      · exact kept d page
  have scheme : Url.readScheme? (origin ++ '/' :: s) =
      some ("http".toList, "//localhost".toList ++ '/' :: s) := rfl
  have noHash : '#' ∉ "//localhost".toList := by decide
  have noMark : '?' ∉ "//localhost".toList := by decide
  have hash : cut '#' ("//localhost".toList ++ '/' :: s) =
      ("//localhost".toList ++ '/' :: (cut '#' s).1, (cut '#' s).2) := cut_append noHash _
  have mark : cut '?' ("//localhost".toList ++ '/' :: (cut '#' s).1) =
      ("//localhost".toList ++ '/' :: (cut '?' (cut '#' s).1).1, queryBeforeFragment s) :=
    cut_append noMark _
  obtain ⟨authority, path, body⟩ := readBody_localhost
    ((queryBeforeFragment s).isSome || (cut '#' s).2.isSome) (cut '?' (cut '#' s).1).1
  rw [query, Url.parse, text, cleaned, scheme]
  dsimp only
  rw [hash]
  dsimp only
  rw [mark]
  dsimp only
  rw [body]
  rfl

/-! ### Where the two readings meet -/

def uidIn (query : List Char) : Option String := do
  let (_, value) ← (Url.Form.read query).find? (·.1 == orderUidKey.toList)
  if value.isEmpty then none else some (String.ofList value)

theorem orderUid?_eq (location : String) : orderUid? location = (query location).bind uidIn := by
  rw [orderUid?]
  cases query location <;> rfl

theorem uidIn_encode (s : List Char) :
    uidIn (Percent.encode Url.Reserved.specialQuery s) = uidIn s := by
  rw [uidIn, uidIn, Url.Form.read_encode fun _ mark => Url.Reserved.specialQuery_of_isMark mark]

/-- Without a fragment before it, the first question mark starts the query in both readings. -/
theorem queryBeforeFragment_of_not_mem {s : List Char} (h : '#' ∉ (cut '?' s).1) :
    queryBeforeFragment s = (cut '?' s).2.map fun after => (cut '#' after).1 := by
  have free : '?' ∉ (cut '?' s).1 := not_mem_cut_fst '?' s
  rw [queryBeforeFragment]
  cases found : (cut '?' s).2 with
  | none =>
    have whole : (cut '?' s).1 = s := cut_eq_self found
    rw [whole] at h free
    rw [cut_of_not_mem h, cut_of_not_mem free]
    rfl
  | some after =>
    have parts : s = (cut '?' s).1 ++ '?' :: after := cut_eq_append found
    generalize (cut '?' s).1 = front at h free parts
    rw [parts, cut_append h]
    change (cut '?' (front ++ '?' :: (cut '#' after).1)).2 = _
    rw [cut_append_cons free]
    rfl

/-- The question mark of a fragment starts no query. -/
theorem queryBeforeFragment_of_mem {s : List Char} (h : '#' ∈ (cut '?' s).1) :
    queryBeforeFragment s = none := by
  obtain ⟨rest, parts⟩ := cut_fst_leads '?' s
  have free : '?' ∉ (cut '#' s).1 := by
    intro member
    rw [← parts, cut_fst_append_of_mem h] at member
    exact not_mem_cut_fst '?' s ((cut_fst_leads '#' _).subset member)
  rw [queryBeforeFragment, cut_of_not_mem free]

/-- For a location that starts with a slash, the query of the absolute URL is what stands between
the first question mark and the fragment. -/
theorem orderUid?_absolute_iff {location : String} {s : List Char}
    (slash : location.toList = '/' :: s)
    (back : ∀ c, location.toList.getLast? = some c → Url.isPadding c = false)
    (kept : ∀ c ∈ location.toList, Path.isDropped c = false) :
    orderUid? ("http://localhost" ++ location) =
        (queryBeforeFragment location.toList).bind uidIn ∧
      (orderUid? location = orderUid? ("http://localhost" ++ location) ↔
        ('#' ∈ (cut '?' location.toList).1 → orderUid? location = none)) := by
  have absolute : orderUid? ("http://localhost" ++ location) =
      (queryBeforeFragment location.toList).bind uidIn := by
    rw [orderUid?_eq, query_absolute slash back kept]
    cases queryBeforeFragment location.toList with
    | none => rfl
    | some q => exact uidIn_encode q
  have relative : query location = relativeQuery location := by
    rw [query, Url.parse_of_slash slash]
  refine ⟨absolute, ?_⟩
  by_cases early : '#' ∈ (cut '?' location.toList).1
  · rw [absolute, queryBeforeFragment_of_mem early]
    exact ⟨fun same _ => same, fun none => none early⟩
  · have same : orderUid? location = orderUid? ("http://localhost" ++ location) := by
      rw [absolute, queryBeforeFragment_of_not_mem early, orderUid?_eq, relative]
      rfl
    exact ⟨fun _ found => (early found).elim, fun _ => same⟩

theorem orderUid?_separators :
    let location := "/a;b//?x=%2&order_uid=a+b%2B'%C3é#top?order_uid=no&x"
    orderUid? location = orderUid? ("http://localhost" ++ location) ∧
      orderUid? location = some "a b+'\uFFFDé" := by
  intro location
  have slash : location.toList = '/' :: location.toList.tail := by decide
  have ends : location.toList.getLast? = some 'x' := by decide
  have back : ∀ c, location.toList.getLast? = some c → Url.isPadding c = false := by
    intro c last
    rw [ends] at last
    obtain rfl := Option.some.inj last
    rfl
  have none : location.toList.any Path.isDropped = false := by decide
  have kept : ∀ c ∈ location.toList, Path.isDropped c = false := fun c member =>
    Bool.eq_false_iff.mpr (List.any_eq_false.mp none c member)
  obtain ⟨_, same⟩ := orderUid?_absolute_iff slash back kept
  exact ⟨same.mpr fun early => absurd early (by decide), by decide +kernel⟩

/-- A question mark in the fragment of a path starts a query, in that of an absolute URL it does
not. -/
theorem orderUid?_fragment :
    orderUid? "/result.html#top?order_uid=abc" = some "abc" ∧
      orderUid? "http://localhost/result.html#top?order_uid=abc" = none := by
  constructor
  · rfl
  · rfl

end OrderLookup.Page
