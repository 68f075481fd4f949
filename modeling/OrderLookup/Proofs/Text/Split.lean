import OrderLookup.Text.Split

/-!
# Taking joined texts apart

Each way of splitting a text undoes the joining of parts that are free of the separator.
-/

namespace OrderLookup.Text

/-- A run ends where the first thing that is not part of it stands. -/
theorem takeWhile_append_stop {α : Type} {p : α → Bool} {found rest : List α}
    (all : ∀ a ∈ found, p a = true) (stop : ∀ a ∈ rest.head?, p a = false) :
    (found ++ rest).takeWhile p = found ∧ (found ++ rest).dropWhile p = rest := by
  rw [List.takeWhile_append_of_pos all, List.dropWhile_append_of_pos all]
  cases rest with
  | nil => simp
  | cons a rest => simp [stop a rfl]

/-- Every list starts with a run that goes as far as it can. -/
theorem exists_run {α : Type} (p : α → Bool) (s : List α) :
    ∃ found rest, s = found ++ rest ∧ (∀ a ∈ found, p a = true) ∧ ∀ a ∈ rest.head?, p a = false := by
  induction s with
  | nil => exact ⟨[], [], rfl, nofun, nofun⟩
  | cons a s ih =>
    cases stop : p a with
    | false => exact ⟨[], a :: s, rfl, nofun, by simpa using stop⟩
    | true =>
      obtain ⟨found, rest, rfl, all, last⟩ := ih
      exact ⟨a :: found, rest, rfl, List.forall_mem_cons.mpr ⟨stop, all⟩, last⟩

theorem cut_of_not_mem {mark : Char} {s : List Char} (free : mark ∉ s) :
    cut mark s = (s, none) := by
  induction s with
  | nil => rfl
  | cons c s ih =>
    simp only [List.mem_cons, not_or] at free
    simp only [cut, if_neg (Ne.symm free.1), ih free.2]

/-- The first mark ends the front, whatever follows it. -/
theorem cut_append_cons {mark : Char} {front : List Char} (free : mark ∉ front) (rest : List Char) :
    cut mark (front ++ mark :: rest) = (front, some rest) := by
  induction front with
  | nil => simp [cut]
  | cons c front ih =>
    simp only [List.mem_cons, not_or] at free
    simp only [List.cons_append, cut, if_neg (Ne.symm free.1), ih free.2]

theorem cutLast?_of_not_mem {mark : Char} {s : List Char} (free : mark ∉ s) :
    cutLast? mark s = none := by
  induction s with
  | nil => rfl
  | cons c s ih =>
    simp only [List.mem_cons, not_or] at free
    simp only [cutLast?, ih free.2, if_neg (Ne.symm free.1)]

/-- The last mark starts the back, whatever precedes it. -/
theorem cutLast?_append_cons {mark : Char} {back : List Char} (free : mark ∉ back)
    (front : List Char) : cutLast? mark (front ++ mark :: back) = some (front, back) := by
  induction front with
  | nil => simp [cutLast?, cutLast?_of_not_mem free]
  | cons c front ih => simp only [List.cons_append, cutLast?, ih]

theorem splitAt_of_none {isSeparator : Char → Bool} {s : List Char}
    (free : ∀ c ∈ s, isSeparator c = false) : splitAt isSeparator s = [s] := by
  induction s with
  | nil => rfl
  | cons c s ih =>
    simp only [List.forall_mem_cons] at free
    simp [splitAt, free.1, ih free.2]

theorem splitAt_append_cons {isSeparator : Char → Bool} {part : List Char} {c : Char}
    (free : ∀ d ∈ part, isSeparator d = false) (separator : isSeparator c = true)
    (rest : List Char) :
    splitAt isSeparator (part ++ c :: rest) = part :: splitAt isSeparator rest := by
  induction part with
  | nil => simp [splitAt, separator]
  | cons d part ih =>
    simp only [List.forall_mem_cons] at free
    simp [splitAt, free.1, ih free.2]

/-- There is at least one part. -/
theorem exists_splitAt_eq_cons (isSeparator : Char → Bool) (s : List Char) :
    ∃ part later, splitAt isSeparator s = part :: later := by
  cases s with
  | nil => exact ⟨_, _, rfl⟩
  | cons c s =>
    rw [splitAt]
    split
    · exact ⟨_, _, rfl⟩
    · split <;> exact ⟨_, _, rfl⟩

/-- A front without separators belongs to the first part. -/
theorem splitAt_append {isSeparator : Char → Bool} {front : List Char}
    (free : ∀ c ∈ front, isSeparator c = false) (s : List Char) :
    splitAt isSeparator (front ++ s) =
      (splitAt isSeparator s).modifyHead (front ++ ·) := by
  obtain ⟨part, later, parts⟩ := exists_splitAt_eq_cons isSeparator s
  induction front with
  | nil => simp [parts]
  | cons c front ih =>
    simp only [List.forall_mem_cons] at free
    simp [splitAt, free.1, ih free.2, parts]

/-- A front without the mark moves the first mark on. -/
theorem cut_append {mark : Char} {front : List Char} (free : mark ∉ front) (s : List Char) :
    cut mark (front ++ s) = (front ++ (cut mark s).1, (cut mark s).2) := by
  induction front with
  | nil => rfl
  | cons c front ih =>
    simp only [List.mem_cons, not_or] at free
    simp only [List.cons_append, cut, if_neg (Ne.symm free.1), ih free.2]

theorem not_mem_cut_fst (mark : Char) (s : List Char) : mark ∉ (cut mark s).1 := by
  induction s with
  | nil => exact List.not_mem_nil
  | cons c s ih =>
    rw [cut]
    split
    · exact List.not_mem_nil
    · next other =>
      simp only [List.mem_cons, not_or]
      exact ⟨Ne.symm other, ih⟩

theorem cut_eq_append {mark : Char} {s back : List Char} (h : (cut mark s).2 = some back) :
    s = (cut mark s).1 ++ mark :: back := by
  induction s with
  | nil => cases h
  | cons c s ih =>
    rw [cut] at h ⊢
    split at h
    · next same =>
      obtain rfl := Option.some.inj h
      rw [if_pos same, same]
      rfl
    · next other =>
      rw [if_neg other]
      exact congrArg (c :: ·) (ih h)

theorem cut_eq_self {mark : Char} {s : List Char} (h : (cut mark s).2 = none) :
    (cut mark s).1 = s := by
  induction s with
  | nil => rfl
  | cons c s ih =>
    rw [cut] at h ⊢
    split at h
    · cases h
    · next other =>
      rw [if_neg other]
      exact congrArg (c :: ·) (ih h)

theorem cut_fst_leads (mark : Char) (s : List Char) : (cut mark s).1 <+: s := by
  cases found : (cut mark s).2 with
  | none =>
    exact ⟨[], by rw [List.append_nil, cut_eq_self found]⟩
  | some back =>
    exact ⟨mark :: back, (cut_eq_append found).symm⟩

/-- What follows a front that holds the mark does not matter. -/
theorem cut_fst_append_of_mem {mark : Char} {front : List Char} (h : mark ∈ front)
    (rest : List Char) : (cut mark (front ++ rest)).1 = (cut mark front).1 := by
  cases found : (cut mark front).2 with
  | none =>
    have free := not_mem_cut_fst mark front
    rw [cut_eq_self found] at free
    exact (free h).elim
  | some back =>
    have free := not_mem_cut_fst mark front
    rw [cut_eq_append found, List.append_assoc, List.cons_append, cut_append_cons free,
      cut_append_cons free]

/-! ### Texts written character by character -/

section Written

variable {f : Char → List Char}

/-- Writing that keeps the mark and nothing else as the mark commutes with cutting there. -/
theorem cut_flatMap {mark : Char} (kept : f mark = [mark]) (free : ∀ c ≠ mark, mark ∉ f c)
    (s : List Char) :
    cut mark (s.flatMap f) = ((cut mark s).1.flatMap f, (cut mark s).2.map (·.flatMap f)) := by
  induction s with
  | nil => rfl
  | cons c s ih =>
    rw [List.flatMap_cons, cut]
    split
    · next same =>
      rw [same, kept]
      simp [cut]
    · next other =>
      rw [cut_append (free c other), ih]
      rfl

theorem splitAt_flatMap {isSeparator : Char → Bool}
    (kept : ∀ c, isSeparator c = true → f c = [c])
    (free : ∀ c, isSeparator c = false → ∀ d ∈ f c, isSeparator d = false) (s : List Char) :
    splitAt isSeparator (s.flatMap f) = (splitAt isSeparator s).map (·.flatMap f) := by
  induction s with
  | nil => rfl
  | cons c s ih =>
    rw [List.flatMap_cons]
    cases separator : isSeparator c with
    | true => simp [kept c separator, splitAt, separator, ih]
    | false =>
      obtain ⟨part, later, parts⟩ := exists_splitAt_eq_cons isSeparator s
      rw [splitAt_append (free c separator), ih, splitAt, separator, parts]
      simp

end Written

end OrderLookup.Text
