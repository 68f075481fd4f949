import OrderLookup.Proofs.Json.Passable
import OrderLookup.Proofs.Json.Written
import OrderLookup.Proofs.Page.Search
import OrderLookup.Proofs.Service.Classification

/-!
# The message of a failing server

`complaintMessage_iff`: which bodies give which message. A body may be any bytes, and the members
that are not the message are only passed over. Whatever the exchange, a load that ends in an error
shows some text.
-/

namespace OrderLookup

open Json Codec

/-! ### Bodies that give a message -/

namespace Service

/-- Members of an object as they are written, with their keys. Each has a value that suits the key,
and all but the first stand behind a comma. -/
inductive Entries (suits : Option String → List UInt8 → Prop) :
    Bool → List (Option String) → List UInt8 → Prop
  | done (first : Bool) {gap : List UInt8} (h : Blank gap) : Entries suits first [] gap
  | entry {first : Bool} {key : Option String} {keys : List (Option String)}
    {l before literal after gap w tail : List UInt8} (lead : Lead first l) (front : Blank before)
    (quoted : Quoted key literal) (back : Blank after) (between : Blank gap) (fits : suits key w)
    (later : Entries suits false keys tail) :
    Entries suits first (key :: keys)
      (l ++ (before ++ (literal ++ (after ++ ascii ':' :: (gap ++ (w ++ tail))))))

def Suits (message : String) (key : Option String) (value : List UInt8) : Prop :=
  if key = some "message" then Quoted (some message) value else Passable value

/-- A body with a message: an object with keys, the message once among them, or an array of the
message alone. -/
inductive Gives (message : String) : List (Option String) → List UInt8 → Prop
  | object {front inside back : List UInt8} {keys : List (Option String)} (before : Blank front)
    (entries : Entries (Suits message) true keys inside) (once : keys.count (some "message") = 1)
    (after : Blank back) :
    Gives message keys (front ++ (ascii '{' :: (inside ++ ascii '\x7d' :: back)))
  | array {front before literal after back : List UInt8} (outside : Blank front)
    (inside : Blank before) (quoted : Quoted (some message) literal) (inside' : Blank after)
    (outside' : Blank back) :
    Gives message [] (front ++ (ascii '[' :: (before ++ (literal ++ (after ++ ascii ']' :: back)))))

def Complains (message : String) (body : List UInt8) : Prop :=
  ∃ keys, Gives message keys body ∧ none ∉ keys

/-! ### Reading the message -/

theorem nullable_text_eq_ok {s r : List UInt8} {found : Option String} :
    (nullable text).read s = .ok (found, r) ↔ ∃ gap w, Blank gap ∧ s = gap ++ (w ++ r) ∧
      (found = none ∧ w = asciiBytes "null" ∨ ∃ t, found = some t ∧ Quoted (some t) w) := by
  constructor
  · intro h
    obtain ⟨⟨b, rest⟩, first, _⟩ := bind_eq_ok.mp h
    obtain ⟨gap, blank, token, rfl⟩ := nextByte_eq_ok.mp first
    rw [nullable_read text blank token] at h
    split at h
    · next null =>
      obtain ⟨left, read, same⟩ := bind_eq_ok.mp h
      obtain ⟨rfl, rfl⟩ := Prod.mk.inj (Except.ok.inj same)
      rw [word_eq_ok] at read
      exact ⟨gap, asciiBytes "null", blank, by rw [null, read]; rfl, Or.inl ⟨rfl, rfl⟩⟩
    · obtain ⟨⟨t, left⟩, read, same⟩ := bind_eq_ok.mp h
      obtain ⟨rfl, rfl⟩ := Prod.mk.inj (Except.ok.inj same)
      rw [← List.nil_append (b :: rest), text_read blank_nil token] at read
      split at read
      · next quote =>
        obtain ⟨u, rfl, quoted⟩ := readQuoted_eq_ok.mp read
        exact ⟨gap, ascii '"' :: u, blank, by rw [quote]; rfl, Or.inr ⟨t, rfl, quoted⟩⟩
      · cases read
  · rintro ⟨gap, w, blank, rfl, ⟨rfl, rfl⟩ | ⟨t, rfl, quoted⟩⟩
    · change (nullable text).read (gap ++ ascii 'n' :: (asciiBytes "ull" ++ r)) = _
      rw [nullable_read text blank (by decide), if_pos rfl, word_append, ok_bind]
    · obtain ⟨u, rfl, read⟩ := quoted.read_iff
      rw [List.cons_append, nullable_read text blank (by decide), if_neg (by decide),
        ← List.nil_append (ascii '"' :: (u ++ r)), text_read blank_nil (by decide), if_pos rfl,
        (read r t r).mpr ⟨rfl, rfl⟩]
      rfl

/-! ### Reading the members -/

def messageMember : Member Complaint :=
  (nullable text).member "message" true (·.message) fun v c => { c with message := v }

theorem find?_messageMember (key : String) :
    Complaint.shape.members.find? (·.key == key) =
      if key = "message" then some messageMember else none := by
  by_cases message : key = "message"
  · subst message
    rfl
  · have other : (messageMember.key == key) = false := beq_eq_false_iff_ne.mpr (Ne.symm message)
    rw [if_neg message]
    change List.find? _ [messageMember] = none
    rw [List.find?_singleton, other]
    rfl

theorem entries_key {fuel : Nat} {first : Bool} {s rest : List UInt8} {key : String}
    (next : Shape.nextKey first s = .ok (some key, rest)) (seen : List String)
    (draft : Complaint) :
    Complaint.shape.entries (fuel + 1) first seen draft s =
      if key = "message" then
        if "message" ∈ seen then .error (.mismatch (.duplicate "message"))
        else Shape.afterColon rest >>= fun rest => (nullable text).read rest >>= fun p =>
          Complaint.shape.entries fuel false ("message" :: seen) ⟨p.1⟩ p.2
      else Shape.afterColon rest >>= fun rest => skipValue rest >>= fun rest =>
        Complaint.shape.entries fuel false seen draft rest := by
  rw [Slot.entries_key next, find?_messageMember]
  by_cases message : key = "message"
  · subst message
    rw [if_pos rfl, if_pos rfl]
    simp only [List.contains_iff_mem]
    split
    · rfl
    · refine congrArg _ (funext fun rest => ?_)
      change ((nullable text).read rest >>= _) >>= _ = _
      cases (nullable text).read rest <;> rfl
  · rw [if_neg message, if_neg message]

theorem entries_close {fuel : Nat} {first : Bool} {s rest : List UInt8}
    (next : Shape.nextKey first s = .ok (none, rest)) (seen : List String) (draft : Complaint) :
    Complaint.shape.entries (fuel + 1) first seen draft s = .ok (draft, rest) := by
  rw [Shape.entries, next, ok_bind]
  rfl

/-- Where a message is found, it has been found already, or it is the only one. -/
theorem exists_entries {message : String} {fuel : Nat} {first : Bool} {seen : List String}
    {draft : Complaint} {s r : List UInt8}
    (h : Complaint.shape.entries fuel first seen draft s = .ok (⟨some message⟩, r)) :
    ∃ keys inside, Entries (Suits message) first keys inside ∧ s = inside ++ ascii '\x7d' :: r ∧
      none ∉ keys ∧ ("message" ∉ seen ∧ keys.count (some "message") = 1 ∨
        keys.count (some "message") = 0 ∧ draft = ⟨some message⟩) := by
  induction fuel generalizing first seen draft s with
  | zero => cases h
  | succ fuel ih =>
    obtain ⟨⟨ahead, rest⟩, next, _⟩ := bind_eq_ok.mp h
    cases ahead with
    | none =>
      rw [entries_close next] at h
      obtain ⟨rfl, rfl⟩ := Prod.mk.inj (Except.ok.inj h)
      obtain ⟨gap, blank, rfl⟩ := Shape.nextKey_eq_none.mp next
      exact ⟨[], gap, .done first blank, rfl, by simp, Or.inr ⟨rfl, rfl⟩⟩
    | some key =>
      rw [entries_key next] at h
      obtain ⟨l, before, t, lead, front, rfl, read⟩ := Shape.nextKey_eq_some.mp next
      obtain ⟨literal, rfl, quoted⟩ := readQuoted_eq_ok.mp read
      by_cases known : key = "message"
      · subst known
        rw [if_pos rfl] at h
        split at h
        · cases h
        next new =>
        obtain ⟨_, colon, valued⟩ := bind_eq_ok.mp h
        obtain ⟨⟨value, left⟩, found, entered⟩ := bind_eq_ok.mp valued
        obtain ⟨after, blank, rfl⟩ := Shape.afterColon_eq_ok.mp colon
        obtain ⟨gap, w, between, rfl, meaning⟩ := nullable_text_eq_ok.mp found
        obtain ⟨keys, inside, later, same, named, state⟩ := ih entered
        obtain ⟨noOther, stored⟩ := state.resolve_left (by simp)
        obtain rfl : value = some message := congrArg Complaint.message stored
        have fits : Suits message (some "message") w := by
          rw [Suits, if_pos rfl]
          rcases meaning with ⟨null, _⟩ | ⟨t, same, quoted⟩
          · cases null
          · exact same ▸ quoted
        refine ⟨some "message" :: keys, _, .entry lead front quoted blank between fits later, ?_,
          ?_, Or.inl ⟨new, ?_⟩⟩
        · subst same
          simp only [List.append_assoc, List.cons_append]
        · simpa using named
        · rw [List.count_cons_self, noOther]
      · rw [if_neg known] at h
        obtain ⟨_, colon, skipped⟩ := bind_eq_ok.mp h
        obtain ⟨left, found, entered⟩ := bind_eq_ok.mp skipped
        obtain ⟨after, blank, rfl⟩ := Shape.afterColon_eq_ok.mp colon
        obtain ⟨gap, w, between, passable, rfl⟩ := exists_of_skipValue found
        obtain ⟨keys, inside, later, same, named, state⟩ := ih entered
        have other : some key ≠ some "message" := fun same => known (Option.some.inj same)
        have fits : Suits message (some key) w := by
          rw [Suits, if_neg other]
          exact passable
        refine ⟨some key :: keys, _, .entry lead front quoted blank between fits later, ?_, ?_, ?_⟩
        · subst same
          simp only [List.append_assoc, List.cons_append]
        · simpa using named
        · rwa [List.count_cons_of_ne other]

theorem Entries.ends {suits : Option String → List UInt8 → Prop} {keys : List (Option String)}
    {s : List UInt8} (h : Entries suits false keys s) (rest : List UInt8) :
    Ends (s ++ ascii '\x7d' :: rest) := by
  cases h with
  | done _ blank => exact ends_append blank (ends_cons (by decide) rest)
  | entry lead =>
    cases lead with
    | comma blank =>
      simp only [List.append_assoc, List.singleton_append]
      exact ends_append blank (ends_cons (by decide) _)

/-- A message that has been found stays if there is no other, and the only one is found. -/
theorem entries_of_suits {message : String} {first : Bool} {keys : List (Option String)}
    {inside : List UInt8} (h : Entries (Suits message) first keys inside) (named : none ∉ keys)
    {fuel : Nat} (enough : inside.length < fuel) {seen : List String} {draft : Complaint}
    (state : "message" ∉ seen ∧ keys.count (some "message") = 1 ∨
      keys.count (some "message") = 0 ∧ draft = ⟨some message⟩) (r : List UInt8) :
    Complaint.shape.entries fuel first seen draft (inside ++ ascii '\x7d' :: r) =
      .ok (⟨some message⟩, r) := by
  induction h generalizing fuel seen draft with
  | done first blank =>
    obtain ⟨fuel, rfl⟩ := Nat.exists_eq_add_one_of_ne_zero (Nat.ne_zero_of_lt enough)
    rw [entries_close (Shape.nextKey_eq_none.mpr ⟨_, blank, rfl⟩)]
    rcases state with ⟨_, none⟩ | ⟨_, rfl⟩
    · cases none
    · rfl
  | @entry first key keys l before literal after gap w tail lead front quoted back between fits later
      ih =>
    obtain ⟨fuel, rfl⟩ := Nat.exists_eq_add_one_of_ne_zero (Nat.ne_zero_of_lt enough)
    simp only [List.mem_cons, not_or] at named
    obtain ⟨k, rfl⟩ := Option.ne_none_iff_exists'.mp (Ne.symm named.1)
    obtain ⟨t, rfl, read⟩ := quoted.read_iff
    have next : Shape.nextKey first ((l ++ (before ++ (ascii '"' :: t ++ (after ++ ascii ':' ::
        (gap ++ (w ++ tail)))))) ++ ascii '\x7d' :: r) =
        .ok (some k, after ++ ascii ':' :: (gap ++ (w ++ (tail ++ ascii '\x7d' :: r)))) := by
      refine Shape.nextKey_eq_some.mpr ⟨l, before, _, lead, front, ?_, (read _ _ _).mpr ⟨rfl, rfl⟩⟩
      simp only [List.append_assoc, List.cons_append]
    have shorter : tail.length < fuel := by
      simp only [List.length_append, List.length_cons] at enough
      omega
    rw [entries_key next, Shape.afterColon_eq_ok.mpr ⟨after, back, rfl⟩, ok_bind]
    by_cases known : k = "message"
    · subst known
      rw [Suits, if_pos rfl] at fits
      rw [List.count_cons_self] at state
      obtain ⟨new, once⟩ := state.resolve_right (by simp)
      have value : (nullable text).read (gap ++ (w ++ (tail ++ ascii '\x7d' :: r))) =
          .ok (some message, tail ++ ascii '\x7d' :: r) :=
        nullable_text_eq_ok.mpr ⟨gap, w, between, rfl, Or.inr ⟨message, rfl, fits⟩⟩
      rw [if_pos rfl, if_neg new, value, ok_bind]
      exact ih named.2 shorter (Or.inr ⟨Nat.succ.inj once, rfl⟩)
    · have other : some k ≠ some "message" := fun same => known (Option.some.inj same)
      rw [Suits, if_neg other] at fits
      rw [List.count_cons_of_ne other] at state
      rw [if_neg known, ok_bind, fits.skipValue between (later.ends r), ok_bind]
      exact ih named.2 shorter state

/-! ### Reading the body -/

theorem messageMember_read {s r : List UInt8} {store : Complaint → Complaint} :
    messageMember.read s = .ok (store, r) ↔
      ∃ found, (nullable text).read s = .ok (found, r) ∧ store = fun _ => ⟨found⟩ := by
  change ((nullable text).read s >>= _) = _ ↔ _
  simp only [bind_eq_ok, Prod.exists]
  constructor
  · rintro ⟨found, _, read, same⟩
    obtain ⟨rfl, rfl⟩ := Prod.mk.inj (Except.ok.inj same)
    exact ⟨found, read, rfl⟩
  · rintro ⟨found, read, rfl⟩
    exact ⟨found, r, read, rfl⟩

theorem positions_nil {count : Nat} {first : Bool} {draft found : Complaint} {s r : List UInt8} :
    Complaint.shape.positions [] count first draft s = .ok (found, r) ↔
      found = draft ∧ ∃ gap, Blank gap ∧ s = gap ++ ascii ']' :: r := by
  rw [Shape.positions, bind_eq_ok, ← closeArray_eq_ok]
  constructor
  · rintro ⟨_, close, same⟩
    obtain ⟨rfl, rfl⟩ := Prod.mk.inj (Except.ok.inj same)
    exact ⟨rfl, close⟩
  · rintro ⟨rfl, close⟩
    exact ⟨r, close, rfl⟩

/-- An array gives a message if that is its only element. -/
theorem positions_iff {message : String} {s r : List UInt8} :
    Complaint.shape.positions Complaint.shape.members 0 true Complaint.shape.blank s =
        .ok (⟨some message⟩, r) ↔
      ∃ before literal after, Blank before ∧ Quoted (some message) literal ∧ Blank after ∧
        s = before ++ (literal ++ (after ++ ascii ']' :: r)) := by
  change Complaint.shape.positions [messageMember] 0 true Complaint.shape.blank s = _ ↔ _
  rw [Shape.positions, bind_eq_ok]
  constructor
  · rintro ⟨ahead, next, found⟩
    cases ahead with
    | none =>
      dsimp only at found
      split at found
      · cases (positions_nil.mp found).1
      · cases found
    | some u =>
      obtain ⟨⟨store, left⟩, read, closed⟩ := bind_eq_ok.mp found
      obtain ⟨value, text, rfl⟩ := messageMember_read.mp read
      obtain ⟨same, after, blank', rfl⟩ := positions_nil.mp closed
      obtain rfl : some message = value := congrArg Complaint.message same
      obtain ⟨gap, w, between, written, meaning⟩ := nullable_text_eq_ok.mp text
      obtain ⟨l, before, b, t, lead, blank, _, _, rfl, _⟩ := nextElement_eq_some.mp next
      cases lead with
      | none =>
        rcases meaning with ⟨null, _⟩ | ⟨_, same, quoted⟩
        · cases null
        · refine ⟨before ++ gap, w, after, blank.append between, ?_, blank', ?_⟩
          · exact same ▸ quoted
          · rw [written, List.nil_append, List.append_assoc]
  · rintro ⟨before, literal, after, inside, quoted, inside', rfl⟩
    have text : (nullable text).read (literal ++ (after ++ ascii ']' :: r)) =
        .ok (some message, after ++ ascii ']' :: r) :=
      nullable_text_eq_ok.mpr ⟨[], literal, blank_nil, rfl, Or.inr ⟨message, rfl, quoted⟩⟩
    obtain ⟨t, rfl, _⟩ := quoted.read_iff
    refine ⟨_, nextElement_eq_some.mpr ⟨[], before, ascii '"', _, .none, inside, by decide,
      by decide, rfl, rfl⟩, ?_⟩
    refine bind_eq_ok.mpr ⟨_, messageMember_read.mpr ⟨some message, text, rfl⟩, ?_⟩
    exact positions_nil.mpr ⟨rfl, after, inside', rfl⟩

theorem decode_iff {message : String} {body : List UInt8} :
    Complaint.shape.codec.decode body = .ok ⟨some message⟩ ↔ Complains message body := by
  rw [decode_eq_ok]
  constructor
  · rintro ⟨back, read, after⟩
    obtain ⟨⟨b, rest⟩, first, _⟩ := bind_eq_ok.mp read
    obtain ⟨front, blank, token, rfl⟩ := nextByte_eq_ok.mp first
    rw [Slot.record_read Complaint.shape blank token] at read
    split at read
    · next array =>
      obtain ⟨before, literal, behind, inside, quoted, inside', rfl⟩ := positions_iff.mp read
      exact ⟨[], array ▸ .array blank inside quoted inside' after, by simp⟩
    split at read
    · next object =>
      obtain ⟨keys, inside, entries, rfl, named, state⟩ := exists_entries read
      obtain ⟨_, once⟩ := state.resolve_right (by simp [Complaint.shape])
      exact ⟨keys, object ▸ .object blank entries once after, named⟩
    · cases read
  · rintro ⟨keys, gives, named⟩
    cases gives with
    | @object front inside back _ blank entries once after =>
      refine ⟨back, ?_, after⟩
      rw [Slot.record_read Complaint.shape blank (by decide), if_neg (by decide), if_pos rfl]
      refine entries_of_suits entries named ?_ (Or.inl ⟨by simp, once⟩) back
      rw [List.length_append, List.length_cons]
      omega
    | @array front before literal behind back outside inside quoted inside' outside' =>
      refine ⟨back, ?_, outside'⟩
      rw [Slot.record_read Complaint.shape outside (by decide), if_pos rfl]
      exact positions_iff.mpr ⟨before, literal, behind, inside, quoted, inside', rfl⟩

theorem complaintMessage_of_complains {message : String} {body : List UInt8}
    (h : Complains message body) (some : message ≠ "") : complaintMessage body = message := by
  rw [complaintMessage, decode_iff.mpr h]
  dsimp only
  rw [if_neg (mt String.isEmpty_iff.mp some)]

theorem complaintMessage_general {body : List UInt8}
    (none : ∀ message, Complains message body → message = "") :
    complaintMessage body = "Server error" := by
  rw [complaintMessage]
  split
  · next message decoded =>
    rw [none message (decode_iff.mp decoded)]
    rfl
  · rfl

theorem complaintMessage_ne_empty (body : List UInt8) : complaintMessage body ≠ "" := by
  rw [complaintMessage]
  split
  · split
    · decide
    · next some => exact mt String.isEmpty_iff.mpr some
  · decide

/-! ### What a load shows -/

theorem message_ne_empty {e : FetchError} (h : ∀ message, e = .reported message → message ≠ "") :
    e.message ≠ "" := by
  cases e with
  | reported message => exact h message rfl
  | unreachable | malformed =>
    change "Error occurred while loading the order." ≠ ""
    decide

theorem order_message_ne_empty {exchange : Exchange} {e : FetchError}
    (h : exchange.order = .error e) : e.message ≠ "" := by
  refine message_ne_empty fun message reported => ?_
  subst reported
  cases exchange with
  | failed | brokenOff => cases h
  | answered r elapsed =>
    cases read : readBody Order.decode r with
    | ok order =>
      obtain ⟨ms, timing, brought, _⟩ := Exchange.order_of_ok read elapsed
      rw [brought] at h
      cases h
    | error other =>
      rw [Exchange.order_of_error read] at h
      obtain rfl := Except.error.inj h
      rw [readBody] at read
      split at read
      · split at read <;> cases read
      · cases read
        exact complaintMessage_ne_empty r.body

theorem fetchOrder_message_ne_empty {σ : Type} (get : Url → StateM σ Exchange) (base : Url)
    (id : OrderId) (state : σ) {e : FetchError}
    (h : ((fetchOrder get base id).run state).1 = .error e) : e.message ≠ "" := by
  rw [fetchOrder] at h
  cases made : orderUrl base id with
  | error cause =>
    rw [made] at h
    obtain rfl : cause = e := Except.error.inj h
    rw [orderUrl, endpoint] at made
    split at made
    · cases made
    · cases made
      refine message_ne_empty fun message reported => ?_
      cases reported
  | ok url =>
    rw [made] at h
    exact order_message_ne_empty h

end Service

namespace Page

open Service

theorem asked_message_ne_empty {uid : Option String} {message : String}
    (h : asked uid = .error message) : message ≠ "" := by
  rw [asked] at h
  split at h
  · obtain rfl := Except.error.inj h
    decide
  · next raw _ =>
    cases parsed : OrderId.parse raw with
    | ok id =>
      rw [parsed] at h
      cases h
    | error e =>
      rw [parsed] at h
      obtain rfl := Except.error.inj h
      cases e with
      | empty => decide
      | wrongLength =>
        change "Order UID must be exactly 20 symbols" ≠ ""
        decide

/-- A load over an exchange that ends in an error shows some text. -/
theorem load_error_text {σ : Type} (get : Url → StateM σ Exchange) (state : σ) (base : Url)
    {page : ResultPage} (complete : page.surface.Complete) (uid : Option String) :
    let ((returned, after), _) :=
      (page.load (fun _ id => fetchOrder get base id) uid).run state
    returned = .error → ∃ text, after.surface.text? errorMessage = some text ∧ text ≠ "" := by
  rw [ResultPage.load, ResultPage.start_eq]
  cases found : asked uid with
  | error message =>
    exact fun _ => ⟨message, text?_fail complete message, asked_message_ne_empty found⟩
  | ok id =>
    intro failed
    change (page.waiting.settle ((fetchOrder get base id).run state).1).phase = .error at failed
    change ∃ text, (page.waiting.settle ((fetchOrder get base id).run state).1).surface.text?
      errorMessage = some text ∧ text ≠ ""
    cases brought : ((fetchOrder get base id).run state).1 with
    | ok fetched =>
      rw [brought] at failed
      cases failed
    | error e =>
      have waits : page.waiting.surface.Complete := complete.applyAll loadingEdits
      exact ⟨e.message, text?_fail waits e.message,
        fetchOrder_message_ne_empty get base id state brought⟩

end Page

open Page Service

/-- A body gives a message just if it is an object whose only member for a message is one, all keys
being texts and all other values well formed as far as they are passed over, or an array of the
message alone. All other bodies give the same general text, no body gives an empty one, and whatever
is exchanged, a load that ends in an error shows some text. -/
theorem complaintMessage_iff :
    (∀ body message, complaintMessage body = message ↔
      message ≠ "" ∧ Complains message body ∨
        message = "Server error" ∧ ∀ other, Complains other body → other = "") ∧
    (∀ body, complaintMessage body ≠ "") ∧
    ∀ (zone : Calendar.Zone) (edits : List Edit) (phase : Phase) (σ : Type)
      (get : Url → StateM σ Exchange) (state : σ) (base : Url) (location : String),
      let page : ResultPage := ⟨zone, .applyAll .blank edits, phase⟩
      let ((returned, after), _) :=
        (page.visit (fun _ id => fetchOrder get base id) location).run state
      returned = .error → ∃ text, after.surface.text? errorMessage = some text ∧ text ≠ "" := by
  refine ⟨fun body message => ⟨?_, ?_⟩, complaintMessage_ne_empty, ?_⟩
  · rintro rfl
    by_cases complains : ∃ message, message ≠ "" ∧ Complains message body
    · obtain ⟨message, some, gives⟩ := complains
      rw [complaintMessage_of_complains gives some]
      exact Or.inl ⟨some, gives⟩
    · have none : ∀ other, Complains other body → other = "" := fun other gives =>
        by_contra fun some => complains ⟨other, some, gives⟩
      exact Or.inr ⟨complaintMessage_general none, none⟩
  · rintro (⟨some, gives⟩ | ⟨rfl, none⟩)
    · exact complaintMessage_of_complains gives some
    · exact complaintMessage_general none
  · intro zone edits phase σ get state base location page
    have complete : page.surface.Complete := Surface.complete_blank.applyAll edits
    exact load_error_text get state base complete (orderUid? location)

/-- A key that is no text, here an unpaired surrogate, spoils the message of an object. -/
theorem complaintMessage_unpaired :
    let body := asciiBytes "\x7b\"\\ud800\":0,\"message\":\"m\"\x7d"
    Gives "m" [none, some "message"] body ∧ complaintMessage body ≠ "m" := by
  intro body
  have key : Quoted none (asciiBytes "\"\\ud800\"") :=
    @Quoted.intro [.unit (ascii 'd') (ascii '8') (ascii '0') (ascii '0')] (by decide +kernel)
  have zero : (Literal.mk (asciiBytes "0") [] none).Valid :=
    ⟨⟨nofun, by decide +kernel⟩, fun _ => rfl, nofun, nofun⟩
  have number : Passable (asciiBytes "0") := Spells.passable (.number false zero .none)
  have message : Entries (Suits "m") false [some "message"] _ :=
    .entry (.comma blank_nil) blank_nil (quoted_quote "message") blank_nil blank_nil
      (quoted_quote "m") (.done false blank_nil)
  have entries : Entries (Suits "m") true [none, some "message"] _ :=
    .entry .none blank_nil key blank_nil blank_nil number message
  have gives := Gives.object blank_nil entries (by decide) blank_nil
  constructor
  · have same : body = ascii '{' :: (asciiBytes "\"\\ud800\"" ++ ascii ':' :: (asciiBytes "0" ++
        ascii ',' :: (quote "message" ++ ascii ':' :: (quote "m" ++ [ascii '\x7d'])))) := by
      decide +kernel
    rw [same]
    simpa using gives
  · decide +kernel

end OrderLookup
