import OrderLookup.App.Config

/-!
# Which texts are URLs

A text that starts with a slash is no absolute URL (`parse_of_slash`). The path of a web address is
made of segments (`parse_web_path`), so that a base URL can be extended.
-/

namespace OrderLookup.Url

open OrderLookup.Text

/-! ### Paths without a scheme -/

theorem clean_cons {c : Char} (padding : isPadding c = false) (dropped : Path.isDropped c = false)
    (s : List Char) : ∃ t, clean (c :: s) = c :: t := by
  have front : (c :: s).dropWhile isPadding = c :: s := by simp [padding]
  have back : ((c :: s).reverse.dropWhile isPadding).reverse =
      c :: (s.reverse.dropWhile isPadding).reverse := by
    rw [List.reverse_cons, List.dropWhile_append]
    split
    · next nothing =>
      rw [List.isEmpty_iff] at nothing
      simp [padding, nothing]
    · simp
  rw [clean, front, back, List.filter_cons_of_pos (by simp [dropped])]
  exact ⟨_, rfl⟩

theorem readScheme?_slash (s : List Char) : readScheme? ('/' :: s) = none := by
  have stays : ('/' :: s).dropWhile isSchemeChar = '/' :: s := rfl
  simp [readScheme?, stays]

theorem parse_of_slash {text : String} {s : List Char} (h : text.toList = '/' :: s) :
    parse text = .error .relative := by
  obtain ⟨t, cleaned⟩ := clean_cons (c := '/') rfl rfl s
  rw [parse, h, cleaned, readScheme?_slash]
  rfl

/-! ### Paths of web addresses -/

theorem bind_ok {ε α β : Type} {x : Except ε α} {f : α → Except ε β} {b : β}
    (h : x >>= f = .ok b) : ∃ a, x = .ok a ∧ f a = .ok b := by
  cases x with
  | error e => cases h
  | ok a => exact ⟨a, rfl, h⟩

theorem parse_ok {text : String} {url : Url} (h : parse text = .ok url) :
    ∃ more front, readBody url.scheme more front = .ok (url.authority, url.path) := by
  unfold parse at h
  split at h
  · cases h
  · obtain ⟨⟨authority, path⟩, body, made⟩ := bind_ok h
    cases made
    exact ⟨_, _, body⟩

theorem parse_web_path {text : String} {url : Url} (h : parse text = .ok url)
    (web : url.kind = .web) : ∃ s, url.path = .rooted (Path.parseAfterAuthority .web s) := by
  obtain ⟨more, front, body⟩ := parse_ok h
  unfold kind at web
  simp only [readBody, web] at body
  obtain ⟨⟨authority, path⟩, _, made⟩ := bind_ok body
  have rooted := (Prod.mk.inj (Except.ok.inj made)).2
  exact ⟨path, rooted.symm⟩

end OrderLookup.Url

namespace OrderLookup.Config

open OrderLookup.Url

theorem parseBaseUrl_parsed {raw : String} {base : Url} (h : parseBaseUrl raw = .ok base) :
    Url.parse (trimmed raw) = .ok base ∧ base.kind = .web := by
  unfold parseBaseUrl at h
  split at h
  · cases h
  · next url parsed =>
    split at h
    · next scheme =>
      obtain rfl := Except.ok.inj h
      have web : url.kind = .web := by
        rcases scheme with http | https
        · rw [kind, http]; decide
        · rw [kind, https]; decide
      exact ⟨parsed, web⟩
    · cases h

/-- A base URL is a web address, so that its path has segments. -/
theorem parseBaseUrl_ok {raw : String} {base : Url} (h : parseBaseUrl raw = .ok base) :
    base.kind = .web ∧ ∃ segments, base.path = .rooted segments := by
  obtain ⟨parsed, web⟩ := parseBaseUrl_parsed h
  obtain ⟨s, path⟩ := parse_web_path parsed web
  exact ⟨web, _, path⟩

end OrderLookup.Config
