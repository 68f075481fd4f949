import OrderLookup.Text.Utf8

/-!
# UTF-8 round trip

`scan_encodeChar_append` reads one written character back, whatever follows it. `decode?_encode` and
`decodeLossy_encode` say that both decoders undo `encode`, and `decode?_eq_some` that no other bytes
are decoded as a text.
-/

namespace OrderLookup.Text.Utf8

theorem toNat_toUInt8 {n : Nat} (h : n < 256) : n.toUInt8.toNat = n := by
  simpa using Nat.mod_eq_of_lt h

theorem toNat_ofNat {n : Nat} (h : n.isValidChar) : (Char.ofNat n).toNat = n := by
  rw [Char.ofNat, dif_pos h]
  rfl

theorem toUInt8_of_eq {b : UInt8} {n : Nat} (h : n = b.toNat) : n.toUInt8 = b := by
  subst h
  exact UInt8.ofNat_toNat

/-- The code points: surrogates are left out. -/
theorem toNat_range (c : Char) : c.toNat < 0xD800 ∨ 0xDFFF < c.toNat ∧ c.toNat < 0x110000 := c.valid

theorem scan_cons (state : State) (b : UInt8) (rest : List UInt8) :
    scan state (b :: rest) = (step state b.toNat).1 ++ scan (step state b.toNat).2 rest := rfl

/-- A byte in range that is not the last of its character. -/
theorem step_more {value missing low high b : Nat} (lower : low ≤ b) (upper : b ≤ high)
    (more : 1 < missing) :
    step (.within value missing low high) b =
      ([], .within (value * 64 + b % 64) (missing - 1) 0x80 0xBF) := by
  simp only [step, if_pos (And.intro lower upper)]
  rw [if_neg (by omega)]

/-- A byte in range that completes its character. -/
theorem step_last {value low high b : Nat} (lower : low ≤ b) (upper : b ≤ high) :
    step (.within value 1 low high) b = ([some (Char.ofNat (value * 64 + b % 64))], .start) := by
  simp [step, lower, upper]

/-! ### First bytes -/

theorem lead_two {b : Nat} (lower : 0xC2 ≤ b) (upper : b < 0xE0) :
    lead b = ([], .within (b - 0xC0) 1 0x80 0xBF) := by
  unfold lead
  rw [if_neg (by omega), if_neg (by omega), if_pos upper]

/-- The first of three bytes bounds the second one, so that nothing is written too long and no
surrogate is written. -/
theorem lead_three {b : Nat} (lower : 0xE0 ≤ b) (upper : b < 0xF0) :
    lead b = ([], .within (b - 0xE0) 2 (if b = 0xE0 then 0xA0 else 0x80)
      (if b = 0xED then 0x9F else 0xBF)) := by
  unfold lead
  rw [if_neg (by omega), if_neg (by omega), if_neg (by omega)]
  by_cases first : b = 0xE0
  · subst first; rfl
  · by_cases surrogates : b = 0xED
    · subst surrogates; rfl
    · simp only [first, surrogates, if_false, upper, if_true]

theorem lead_four {b : Nat} (lower : 0xF0 ≤ b) (upper : b ≤ 0xF4) :
    lead b = ([], .within (b - 0xF0) 3 (if b = 0xF0 then 0x90 else 0x80)
      (if b = 0xF4 then 0x8F else 0xBF)) := by
  unfold lead
  rw [if_neg (by omega), if_neg (by omega), if_neg (by omega), if_neg (by omega),
    if_neg (by omega), if_neg (by omega)]
  by_cases first : b = 0xF0
  · subst first; rfl
  · by_cases last : b = 0xF4
    · subst last; rfl
    · have between : b < 0xF4 := by omega
      simp only [first, last, if_false, between, if_true]

/-! ### Characters -/

theorem scan_one {n : Nat} (h : n < 0x80) (rest : List UInt8) :
    scan .start (n.toUInt8 :: rest) = some (Char.ofNat n) :: scan .start rest := by
  rw [scan_cons, toNat_toUInt8 (by omega), step, lead, if_pos h]
  rfl

theorem scan_two {n : Nat} (lower : 0x80 ≤ n) (upper : n < 0x800) (rest : List UInt8) :
    scan .start ((0xC0 + n / 64).toUInt8 :: (0x80 + n % 64).toUInt8 :: rest) =
      some (Char.ofNat n) :: scan .start rest := by
  rw [scan_cons, toNat_toUInt8 (by omega), step, lead_two (by omega) (by omega), scan_cons,
    toNat_toUInt8 (by omega), step_last (by omega) (by omega),
    show (0xC0 + n / 64 - 0xC0) * 64 + (0x80 + n % 64) % 64 = n by omega]
  rfl

theorem scan_three {n : Nat} (lower : 0x800 ≤ n) (upper : n < 0x10000)
    (valid : n < 0xD800 ∨ 0xDFFF < n) (rest : List UInt8) :
    scan .start ((0xE0 + n / 4096).toUInt8 :: (0x80 + n / 64 % 64).toUInt8 ::
        (0x80 + n % 64).toUInt8 :: rest) =
      some (Char.ofNat n) :: scan .start rest := by
  rw [scan_cons, toNat_toUInt8 (by omega), step, lead_three (by omega) (by omega), scan_cons,
    toNat_toUInt8 (by omega), step_more (by split <;> omega) (by split <;> omega) (by omega),
    scan_cons, toNat_toUInt8 (by omega), step_last (by omega) (by omega),
    show ((0xE0 + n / 4096 - 0xE0) * 64 + (0x80 + n / 64 % 64) % 64) * 64 +
      (0x80 + n % 64) % 64 = n by omega]
  rfl

theorem scan_four {n : Nat} (lower : 0x10000 ≤ n) (upper : n < 0x110000) (rest : List UInt8) :
    scan .start ((0xF0 + n / 262144).toUInt8 :: (0x80 + n / 4096 % 64).toUInt8 ::
        (0x80 + n / 64 % 64).toUInt8 :: (0x80 + n % 64).toUInt8 :: rest) =
      some (Char.ofNat n) :: scan .start rest := by
  rw [scan_cons, toNat_toUInt8 (by omega), step, lead_four (by omega) (by omega), scan_cons,
    toNat_toUInt8 (by omega), step_more (by split <;> omega) (by split <;> omega) (by omega),
    scan_cons, toNat_toUInt8 (by omega), step_more (by omega) (by omega) (by omega),
    scan_cons, toNat_toUInt8 (by omega), step_last (by omega) (by omega),
    show (((0xF0 + n / 262144 - 0xF0) * 64 + (0x80 + n / 4096 % 64) % 64) * 64 +
      (0x80 + n / 64 % 64) % 64) * 64 + (0x80 + n % 64) % 64 = n by omega]
  rfl

theorem scan_encodeChar_append (c : Char) (rest : List UInt8) :
    scan .start (encodeChar c ++ rest) = some c :: scan .start rest := by
  have range := toNat_range c
  have back : Char.ofNat c.toNat = c := Char.ofNat_toNat c
  simp only [encodeChar]
  split
  · next h => rw [List.singleton_append, scan_one h, back]
  split
  · next one h => exact (scan_two (by omega) h rest).trans (by rw [back])
  split
  · next one two h => exact (scan_three (by omega) h (by omega) rest).trans (by rw [back])
  · next one two three => exact (scan_four (by omega) (by omega) rest).trans (by rw [back])

/-- All bytes of a character beyond ASCII are above those of ASCII. -/
theorem le_of_mem_encodeChar {c : Char} (h : 0x80 ≤ c.toNat) {b : UInt8} (member : b ∈ encodeChar c) :
    0x80 ≤ b := by
  have range := toNat_range c
  have large {n : Nat} (lower : 0x80 ≤ n) (upper : n < 256) : (0x80 : UInt8) ≤ n.toUInt8 := by
    rw [UInt8.le_iff_toNat_le, toNat_toUInt8 upper]
    exact lower
  unfold encodeChar at member
  dsimp only at member
  split at member
  · omega
  split at member
  · simp only [List.mem_cons, List.not_mem_nil, or_false] at member
    rcases member with rfl | rfl <;> exact large (by omega) (by omega)
  split at member
  · simp only [List.mem_cons, List.not_mem_nil, or_false] at member
    rcases member with rfl | rfl | rfl <;> exact large (by omega) (by omega)
  · simp only [List.mem_cons, List.not_mem_nil, or_false] at member
    rcases member with rfl | rfl | rfl | rfl <;> exact large (by omega) (by omega)

/-! ### Texts -/

theorem scan_encode_append (s : List Char) (rest : List UInt8) :
    scan .start (encode s ++ rest) = s.map some ++ scan .start rest := by
  induction s with
  | nil => rfl
  | cons c s ih =>
    rw [encode, List.flatMap_cons, List.append_assoc, scan_encodeChar_append]
    exact congrArg (some c :: ·) ih

theorem scan_encode (s : List Char) : scan .start (encode s) = s.map some := by
  simpa [scan] using scan_encode_append s []

theorem decode?_encode (s : List Char) : decode? (encode s) = some s := by
  rw [decode?, scan_encode]
  induction s with
  | nil => rfl
  | cons c s ih => simp [List.mapM_cons, ih]

theorem decodeLossy_encode (s : List Char) : decodeLossy (encode s) = s := by
  rw [decodeLossy, scan_encode, List.map_map]
  exact List.map_id s

theorem encode_injective {s t : List Char} (h : encode s = encode t) : s = t := by
  rw [← decodeLossy_encode s, h, decodeLossy_encode]

/-! ### Bytes that are read as characters -/

/-- Where a character ends within what is scanned, the next byte is in range. -/
theorem scan_within {value missing low high : Nat} {bytes : List UInt8} {c : Char}
    {out : List (Option Char)}
    (h : scan (.within value (missing + 1) low high) bytes = some c :: out) :
    ∃ b rest, bytes = b :: rest ∧ low ≤ b.toNat ∧ b.toNat ≤ high ∧
      if missing = 0 then c = Char.ofNat (value * 64 + b.toNat % 64) ∧ scan .start rest = out
      else scan (.within (value * 64 + b.toNat % 64) missing 0x80 0xBF) rest = some c :: out := by
  cases bytes with
  | nil => cases h
  | cons b rest =>
    rw [scan_cons, step] at h
    dsimp only at h
    by_cases fits : low ≤ b.toNat ∧ b.toNat ≤ high
    · refine ⟨b, rest, rfl, fits.1, fits.2, ?_⟩
      rw [if_pos fits] at h
      cases missing with
      | zero =>
        rw [if_pos (by omega)] at h
        obtain ⟨same, later⟩ := List.cons.inj h
        exact ⟨(Option.some.inj same).symm, later⟩
      | succ missing =>
        rw [if_neg (by omega)] at h
        exact h
    · rw [if_neg fits] at h
      cases h

theorem encodeChar_one {b : UInt8} (h : b.toNat < 0x80) : encodeChar (Char.ofNat b.toNat) = [b] := by
  have same := toNat_ofNat (n := b.toNat) (Or.inl (by omega))
  rw [encodeChar, same, if_pos h, toUInt8_of_eq rfl]

theorem encodeChar_two {a b : UInt8} {n : Nat} (lower : 0x80 ≤ n) (upper : n < 0x800)
    (first : a.toNat = 0xC0 + n / 64) (second : b.toNat = 0x80 + n % 64) :
    encodeChar (Char.ofNat n) = [a, b] := by
  have same := toNat_ofNat (n := n) (Or.inl (by omega))
  rw [encodeChar, same, if_neg (by omega), if_pos upper, toUInt8_of_eq first.symm,
    toUInt8_of_eq second.symm]

theorem encodeChar_three {a b c : UInt8} {n : Nat} (lower : 0x800 ≤ n) (upper : n < 0x10000)
    (valid : n < 0xD800 ∨ 0xDFFF < n) (first : a.toNat = 0xE0 + n / 4096)
    (second : b.toNat = 0x80 + n / 64 % 64) (third : c.toNat = 0x80 + n % 64) :
    encodeChar (Char.ofNat n) = [a, b, c] := by
  have same := toNat_ofNat (n := n) (valid.imp_right fun h => ⟨h, by omega⟩)
  rw [encodeChar, same, if_neg (by omega), if_neg (by omega), if_pos upper,
    toUInt8_of_eq first.symm, toUInt8_of_eq second.symm, toUInt8_of_eq third.symm]

theorem encodeChar_four {a b c d : UInt8} {n : Nat} (lower : 0x10000 ≤ n) (upper : n < 0x110000)
    (first : a.toNat = 0xF0 + n / 262144) (second : b.toNat = 0x80 + n / 4096 % 64)
    (third : c.toNat = 0x80 + n / 64 % 64) (fourth : d.toNat = 0x80 + n % 64) :
    encodeChar (Char.ofNat n) = [a, b, c, d] := by
  have same := toNat_ofNat (n := n) (Or.inr ⟨by omega, upper⟩)
  rw [encodeChar, same, if_neg (by omega), if_neg (by omega), if_neg (by omega),
    toUInt8_of_eq first.symm, toUInt8_of_eq second.symm, toUInt8_of_eq third.symm,
    toUInt8_of_eq fourth.symm]

/-- A character that is scanned first is written first. -/
theorem scan_start {bytes : List UInt8} {c : Char} {out : List (Option Char)}
    (h : scan .start bytes = some c :: out) :
    ∃ rest, bytes = encodeChar c ++ rest ∧ scan .start rest = out := by
  cases bytes with
  | nil => cases h
  | cons a bytes =>
    rw [scan_cons, step] at h
    by_cases one : a.toNat < 0x80
    · rw [lead, if_pos one] at h
      obtain ⟨same, later⟩ := List.cons.inj h
      obtain rfl := Option.some.inj same
      exact ⟨bytes, by rw [encodeChar_one one]; rfl, later⟩
    by_cases stray : a.toNat < 0xC2
    · rw [lead, if_neg one, if_pos stray] at h
      cases h
    by_cases two : a.toNat < 0xE0
    · rw [lead_two (by omega) two] at h
      obtain ⟨b, rest, rfl, lower, upper, rfl, later⟩ := scan_within h
      refine ⟨rest, ?_, later⟩
      rw [encodeChar_two (a := a) (b := b) (by omega) (by omega) (by omega) (by omega)]
      rfl
    by_cases three : a.toNat < 0xF0
    · rw [lead_three (by omega) three] at h
      obtain ⟨b, _, rfl, lower, upper, h⟩ := scan_within h
      obtain ⟨c, rest, rfl, lower', upper', rfl, later⟩ := scan_within h
      have within : 0x80 ≤ b.toNat ∧ b.toNat ≤ 0xBF := by
        constructor
        · split at lower <;> omega
        · split at upper <;> omega
      have short : a.toNat = 0xE0 → 0xA0 ≤ b.toNat := fun same => by rwa [if_pos same] at lower
      have surrogate : a.toNat = 0xED → b.toNat ≤ 0x9F := fun same => by rwa [if_pos same] at upper
      clear lower upper h
      refine ⟨rest, ?_, later⟩
      rw [encodeChar_three (a := a) (b := b) (c := c) (by omega) (by omega) (by omega) (by omega)
        (by omega) (by omega)]
      rfl
    by_cases four : a.toNat ≤ 0xF4
    · rw [lead_four (by omega) four] at h
      obtain ⟨b, _, rfl, lower, upper, h⟩ := scan_within h
      obtain ⟨c, _, rfl, lower', upper', h⟩ := scan_within h
      obtain ⟨d, rest, rfl, lower'', upper'', rfl, later⟩ := scan_within h
      have within : 0x80 ≤ b.toNat ∧ b.toNat ≤ 0xBF := by
        constructor
        · split at lower <;> omega
        · split at upper <;> omega
      have short : a.toNat = 0xF0 → 0x90 ≤ b.toNat := fun same => by rwa [if_pos same] at lower
      have large : a.toNat = 0xF4 → b.toNat ≤ 0x8F := fun same => by rwa [if_pos same] at upper
      clear lower upper h
      refine ⟨rest, ?_, later⟩
      rw [encodeChar_four (a := a) (b := b) (c := c) (d := d) (by omega) (by omega) (by omega)
        (by omega) (by omega) (by omega)]
      rfl
    · rw [lead, if_neg (by omega), if_neg (by omega), if_neg (by omega), if_neg (by omega),
        if_neg (by omega), if_neg (by omega), if_neg (by omega), if_neg (by omega),
        if_neg (by omega)] at h
      cases h

theorem lead_visible (b : Nat) : (lead b).1 ≠ [] ∨ (lead b).2 ≠ .start := by
  unfold lead
  repeat' split
  all_goals simp

/-- A byte that completes nothing and is not ill-formed leaves a character unfinished. -/
theorem step_visible (state : State) (b : Nat) :
    (step state b).1 ≠ [] ∨ (step state b).2 ≠ .start := by
  cases state with
  | start => exact lead_visible b
  | within value missing low high =>
    rw [step]
    dsimp only
    split
    · split <;> simp
    · simp

theorem scan_eq_nil {state : State} {bytes : List UInt8} (h : scan state bytes = []) :
    state = .start ∧ bytes = [] := by
  induction bytes generalizing state with
  | nil =>
    rw [scan] at h
    split at h
    · next start => exact ⟨start, rfl⟩
    · cases h
  | cons b rest ih =>
    rw [scan_cons, List.append_eq_nil_iff] at h
    rcases step_visible state b.toNat with shown | within
    · exact (shown h.1).elim
    · exact (within (ih h.2).1).elim

theorem scan_eq_map_some {bytes : List UInt8} {s : List Char} :
    scan .start bytes = s.map some ↔ bytes = encode s := by
  constructor
  · intro h
    induction s generalizing bytes with
    | nil => exact (scan_eq_nil h).2
    | cons c s ih =>
      obtain ⟨rest, rfl, later⟩ := scan_start h
      rw [ih later, encode, encode, List.flatMap_cons]
  · rintro rfl
    exact scan_encode s

theorem mapM_id_eq_some {cs : List (Option Char)} {s : List Char} (h : cs.mapM id = some s) :
    cs = s.map some := by
  induction cs generalizing s with
  | nil =>
    obtain rfl := Option.some.inj h
    rfl
  | cons c cs ih =>
    rw [List.mapM_cons] at h
    obtain ⟨first, rfl, rest⟩ := Option.bind_eq_some_iff.mp h
    obtain ⟨later, read, same⟩ := Option.bind_eq_some_iff.mp rest
    obtain rfl := Option.some.inj same
    rw [ih read]
    rfl

/-- Bytes are decoded as a text just if they are those of the text. -/
theorem decode?_eq_some {bytes : List UInt8} {s : List Char} :
    decode? bytes = some s ↔ bytes = encode s := by
  constructor
  · exact fun h => scan_eq_map_some.mp (mapM_id_eq_some h)
  · rintro rfl
    exact decode?_encode s

/-! ### Bytes within a character -/

def IsTail (b : UInt8) : Prop :=
  0x80 ≤ b.toNat ∧ b.toNat < 0xC0

theorem encodeChar_eq_cons (c : Char) :
    ∃ b tail, encodeChar c = b :: tail ∧ ¬IsTail b ∧ ∀ t ∈ tail, IsTail t := by
  have range := toNat_range c
  have lead {n : Nat} (h : n < 0x80 ∨ 0xC0 ≤ n) (upper : n < 256) : ¬IsTail n.toUInt8 := by
    rw [IsTail, toNat_toUInt8 upper]
    omega
  have tail {n : Nat} (lower : 0x80 ≤ n) (upper : n < 0xC0) : IsTail n.toUInt8 := by
    rw [IsTail, toNat_toUInt8 (by omega)]
    exact ⟨lower, upper⟩
  unfold encodeChar
  dsimp only
  split
  · exact ⟨_, _, rfl, lead (by omega) (by omega), by simp⟩
  split
  · refine ⟨_, _, rfl, lead (by omega) (by omega), ?_⟩
    simp only [List.forall_mem_cons]
    exact ⟨tail (by omega) (by omega), by simp⟩
  split
  · refine ⟨_, _, rfl, lead (by omega) (by omega), ?_⟩
    simp only [List.forall_mem_cons]
    exact ⟨tail (by omega) (by omega), tail (by omega) (by omega), by simp⟩
  · refine ⟨_, _, rfl, lead (by omega) (by omega), ?_⟩
    simp only [List.forall_mem_cons]
    exact ⟨tail (by omega) (by omega), tail (by omega) (by omega), tail (by omega) (by omega),
      by simp⟩

/-- Nothing that is written starts with what another character is written with. -/
theorem encodeChar_append_inj {c d : Char} {s t : List UInt8}
    (h : encodeChar c ++ s = encodeChar d ++ t) : c = d ∧ s = t := by
  have scanned := congrArg (scan .start) h
  rw [scan_encodeChar_append, scan_encodeChar_append] at scanned
  obtain rfl := Option.some.inj (List.cons.inj scanned).1
  exact ⟨rfl, List.append_cancel_left h⟩

end OrderLookup.Text.Utf8
