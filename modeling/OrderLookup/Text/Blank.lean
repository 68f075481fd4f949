/-!
# White space

The characters with the Unicode property `White_Space`, and removing them from the ends of a text.
-/

namespace OrderLookup.Text

/-- Characters with the Unicode property `White_Space`. -/
def isBlank (c : Char) : Bool :=
  let n := c.toNat
  (0x09 ≤ n && n ≤ 0x0D) || n == 0x20 || n == 0x85 || n == 0xA0 || n == 0x1680 ||
    (0x2000 ≤ n && n ≤ 0x200A) || n == 0x2028 || n == 0x2029 || n == 0x202F || n == 0x205F ||
    n == 0x3000

def trimStart (s : List Char) : List Char :=
  s.dropWhile isBlank

def trimEnd (s : List Char) : List Char :=
  (s.reverse.dropWhile isBlank).reverse

def trim (s : List Char) : List Char :=
  trimEnd (trimStart s)

/-- No white space at the front. -/
theorem head?_trimStart {s : List Char} {c : Char} (h : (trimStart s).head? = some c) :
    isBlank c = false := by
  have found := List.head?_dropWhile_not isBlank s
  rw [trimStart] at h
  rw [h] at found
  exact found

theorem trimStart_eq_self {s : List Char} (h : ∀ c, s.head? = some c → isBlank c = false) :
    trimStart s = s := by
  cases s with
  | nil => rfl
  | cons c rest => simp [trimStart, h c rfl]

theorem trimEnd_prefix (s : List Char) : trimEnd s <+: s := by
  have suffix := List.dropWhile_suffix (l := s.reverse) isBlank
  simpa [trimEnd] using List.reverse_prefix.mpr suffix

theorem trimEnd_trimEnd (s : List Char) : trimEnd (trimEnd s) = trimEnd s := by
  have fixed := trimStart_eq_self (s := trimStart s.reverse) fun _ h => head?_trimStart h
  simp only [trimEnd, List.reverse_reverse]
  exact congrArg List.reverse fixed

/-- The front of a trimmed text is the front of the text trimmed there. -/
theorem trimStart_trim (s : List Char) : trimStart (trim s) = trim s := by
  apply trimStart_eq_self
  intro c h
  obtain ⟨rest, joined⟩ := trimEnd_prefix (trimStart s)
  apply head?_trimStart (s := s)
  rw [← joined, List.head?_append]
  simp only [trim] at h
  simp [h]

theorem trim_trim (s : List Char) : trim (trim s) = trim s := by
  have front := trimStart_trim s
  rw [trim, front]
  exact trimEnd_trimEnd _

end OrderLookup.Text
