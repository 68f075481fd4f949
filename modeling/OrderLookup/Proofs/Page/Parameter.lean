import OrderLookup.Proofs.Page.Location
import OrderLookup.Proofs.Url.Form

/-!
# The parameter of a location

Below a path, whatever pairs of texts the query is written from and whatever the fragment, the order
that a location asks for is the first pair with the right key: `orderUid?_write`.
-/

namespace OrderLookup.Page

open OrderLookup.Text

def FirstValue (key : List Char) (pairs : List (List Char × List Char)) (value : List Char) : Prop :=
  ∃ before later, pairs = before ++ (key, value) :: later ∧ ∀ pair ∈ before, pair.1 ≠ key

variable {key value : List Char} {pairs : List (List Char × List Char)}

theorem find?_eq_some_iff_firstValue {pair : List Char × List Char} :
    pairs.find? (·.1 == key) = some pair ↔ pair.1 = key ∧ FirstValue key pairs pair.2 := by
  obtain ⟨found, value⟩ := pair
  simp only [List.find?_eq_some_iff_append, beq_iff_eq, Bool.not_eq_true', beq_eq_false_iff_ne]
  refine and_congr_right ?_
  rintro rfl
  rfl

theorem FirstValue.find? (h : FirstValue key pairs value) :
    pairs.find? (·.1 == key) = some (key, value) :=
  find?_eq_some_iff_firstValue.mpr ⟨rfl, h⟩

theorem FirstValue.iff_eq (h : FirstValue key pairs value) {other : List Char} :
    FirstValue key pairs other ↔ other = value := by
  constructor
  · intro first
    have same := first.find?
    rw [h.find?] at same
    exact (Prod.mk.inj (Option.some.inj same)).2.symm
  · rintro rfl
    exact h

theorem FirstValue.not_absent (h : FirstValue key pairs value) :
    ¬∀ pair ∈ pairs, pair.1 ≠ key := by
  obtain ⟨before, later, rfl, _⟩ := h
  exact fun absent => absent (key, value) (List.mem_append_right before List.mem_cons_self) rfl

theorem query_write {path : List Char} (slash : path.head? = some '/') (noQuery : '?' ∉ path)
    (pairs : List (List Char × List Char)) (fragment : Option (List Char)) :
    query (String.ofList (path ++ '?' :: (Url.Form.write pairs ++ Url.marked '#' fragment))) =
      some (Url.Form.write pairs) := by
  obtain ⟨s, rfl⟩ := List.head?_eq_some_iff.mp slash
  have noHash : '#' ∉ Url.Form.write pairs :=
    Url.Form.not_mem_write rfl (by decide) (by decide) pairs
  have written : (cut '#' (Url.Form.write pairs ++ Url.marked '#' fragment)).1 =
      Url.Form.write pairs := by
    cases fragment with
    | none => rw [Url.marked, List.append_nil, cut_of_not_mem noHash]
    | some text => rw [Url.marked, cut_append_cons noHash]
  rw [List.cons_append, query, Url.parse_of_slash (String.toList_ofList ..)]
  dsimp only
  rw [relativeQuery, String.toList_ofList, ← List.cons_append, cut_append_cons noQuery]
  exact congrArg some written

theorem uidIn_write_cases (pairs : List (List Char × List Char)) :
    ((∀ pair ∈ pairs, pair.1 ≠ orderUidKey.toList) ∧ uidIn (Url.Form.write pairs) = none) ∨
    ∃ value, FirstValue orderUidKey.toList pairs value ∧
      uidIn (Url.Form.write pairs) =
        if value.isEmpty then none else some (String.ofList value) := by
  rw [uidIn, Url.Form.read_write]
  cases found : pairs.find? (·.1 == orderUidKey.toList) with
  | none =>
    refine Or.inl ⟨fun pair member same => ?_, rfl⟩
    exact List.find?_eq_none.mp found pair member (beq_iff_eq.mpr same)
  | some pair => exact Or.inr ⟨pair.2, (find?_eq_some_iff_firstValue.mp found).2, rfl⟩

/-- A location with a written query asks for the value of the first pair with the key of orders,
unless that is empty. No other pair matters, be it before or after, and no fragment. -/
theorem orderUid?_write {path : List Char} (slash : path.head? = some '/') (noQuery : '?' ∉ path)
    (pairs : List (List Char × List Char)) (fragment : Option (List Char)) :
    let location :=
      String.ofList (path ++ '?' :: (Url.Form.write pairs ++ Url.marked '#' fragment))
    (∀ uid, orderUid? location = some uid ↔
      uid.toList ≠ [] ∧ FirstValue orderUidKey.toList pairs uid.toList) ∧
    (orderUid? location = none ↔
      (∀ pair ∈ pairs, pair.1 ≠ orderUidKey.toList) ∨ FirstValue orderUidKey.toList pairs []) := by
  intro location
  have read : orderUid? location = uidIn (Url.Form.write pairs) := by
    rw [orderUid?_eq, query_write slash noQuery]
    rfl
  rw [read]
  rcases uidIn_write_cases pairs with ⟨absent, nothing⟩ | ⟨value, first, shown⟩
  · rw [nothing]
    exact ⟨fun uid => ⟨nofun, fun ⟨_, first⟩ => (first.not_absent absent).elim⟩,
      fun _ => Or.inl absent, fun _ => rfl⟩
  · simp only [shown, first.iff_eq, first.not_absent, false_or]
    cases empty : value.isEmpty with
    | true =>
      obtain rfl := List.isEmpty_iff.mp empty
      simp
    | false =>
      have filled := List.isEmpty_eq_false_iff.mp empty
      refine ⟨fun uid => ⟨?_, ?_⟩, nofun, fun same => (filled same.symm).elim⟩
      · intro same
        obtain rfl := Option.some.inj same
        exact ⟨by rwa [String.toList_ofList], String.toList_ofList⟩
      · rintro ⟨_, rfl⟩
        exact congrArg some String.ofList_toList

/-- Pairs full of separators before and after, and a fragment that looks like a query. An empty value
hides the ones after it. -/
theorem orderUid?_write_lookalikes :
    let pairs := [("order".toList, "uid".toList), ("a&order_uid=b".toList, "#?".toList),
      ("order_uid".toList, "é+ %".toList), ("order_uid".toList, "no".toList)]
    let fragment := some "x?order_uid=no&".toList
    let location := String.ofList ("/a b//".toList ++ '?' ::
      (Url.Form.write pairs ++ Url.marked '#' fragment))
    let hidden := String.ofList ("/a b//".toList ++ '?' ::
      (Url.Form.write (("order_uid".toList, []) :: pairs) ++ Url.marked '#' fragment))
    location = "/a b//?order=uid&a%26order_uid%3Db=%23%3F&order_uid=%C3%A9%2B+%25&order_uid=no" ++
        "#x?order_uid=no&" ∧
      orderUid? location = some "é+ %" ∧ orderUid? hidden = none := by
  intro pairs fragment location hidden
  have slash : "/a b//".toList.head? = some '/' := by decide
  obtain ⟨shown, _⟩ := orderUid?_write slash (by decide) pairs fragment
  obtain ⟨_, nothing⟩ :=
    orderUid?_write slash (by decide) (("order_uid".toList, []) :: pairs) fragment
  refine ⟨by decide +kernel, (shown _).mpr ⟨by decide, pairs.take 2, pairs.drop 3, rfl, ?_⟩,
    nothing.mpr (Or.inr ⟨[], pairs, rfl, nofun⟩)⟩
  decide

end OrderLookup.Page
