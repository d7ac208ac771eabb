/-! Blank characters, trimming and lines. A character is blank when it has the Unicode property
White_Space; zero-width characters do not. A line ends at a line feed. A carriage return before a
line feed is blank, so it disappears when the line is trimmed. -/
namespace Repartee.Text

def isBlank (c : Char) : Bool :=
  let n := c.toNat
  (9 ≤ n && n ≤ 13) || n == 0x20 || n == 0x85 || n == 0xA0 || n == 0x1680 ||
  (0x2000 ≤ n && n ≤ 0x200A) || n == 0x2028 || n == 0x2029 || n == 0x202F || n == 0x205F || n == 0x3000

def trimStart (cs : List Char) : List Char := cs.dropWhile isBlank

def trimEnd (cs : List Char) : List Char := (cs.reverse.dropWhile isBlank).reverse

def trim (cs : List Char) : List Char := trimEnd (trimStart cs)

theorem trimStartSelf {cs : List Char} : trimStart cs = cs ↔ ∀ c ∈ cs.head?, isBlank c = false := by
  unfold trimStart
  cases cs with
  | nil => simp
  | cons c rest =>
    cases h : isBlank c with
    | false => simp [h]
    | true =>
      have shorter := (@List.dropWhile_suffix _ rest isBlank).length_le
      simp only [List.dropWhile_cons, h, if_true, List.head?_cons, Option.mem_def, Option.some.injEq]
      constructor
      · intro same
        have := congrArg List.length same
        simp at this; omega
      · intro none; have := none c rfl; simp [h] at this

theorem headTrimStart {cs : List Char} : ∀ c ∈ (trimStart cs).head?, isBlank c = false := by
  intro c h
  unfold trimStart at h
  have := List.head?_dropWhile_not isBlank cs
  rw [Option.mem_def.1 h] at this
  simpa using this

theorem trimEndSelf {cs : List Char} : trimEnd cs = cs ↔ ∀ c ∈ cs.getLast?, isBlank c = false := by
  have flip : trimEnd cs = cs ↔ trimStart cs.reverse = cs.reverse := by
    simp [trimEnd, trimStart, List.reverse_eq_iff]
  rw [flip, trimStartSelf, List.head?_reverse]

theorem trimEndFront (cs : List Char) : trimEnd cs <+: cs := by
  unfold trimEnd
  rw [← List.reverse_suffix, List.reverse_reverse]
  exact List.dropWhile_suffix isBlank

theorem trimSelf {cs : List Char} :
    trim cs = cs ↔ (∀ c ∈ cs.head?, isBlank c = false) ∧ ∀ c ∈ cs.getLast?, isBlank c = false := by
  rw [← trimStartSelf, ← trimEndSelf]
  constructor
  · intro h
    have short : cs.length ≤ (trimStart cs).length := by
      have := (trimEndFront (trimStart cs)).length_le
      rw [show trimEnd (trimStart cs) = cs from h] at this
      exact this
    have same : trimStart cs = cs := (@List.dropWhile_suffix _ cs isBlank).eq_of_length_le short
    exact ⟨same, by simpa [trim, same] using h⟩
  · rintro ⟨front, back⟩
    simp [trim, front, back]

theorem lastTrimEnd {cs : List Char} : ∀ c ∈ (trimEnd cs).getLast?, isBlank c = false := by
  unfold trimEnd
  rw [List.getLast?_reverse]
  exact headTrimStart

@[simp] theorem trimTwice (cs : List Char) : trim (trim cs) = trim cs := by
  refine trimSelf.2 ⟨?_, lastTrimEnd⟩
  intro c h
  obtain ⟨tail, e⟩ := trimEndFront (trimStart cs)
  refine @headTrimStart cs c ?_
  rw [← e]
  cases t : trimEnd (trimStart cs) with
  | nil => simp [trim, t] at h
  | cons d ds => simpa [trim, t] using h

theorem trimMember {c : Char} {cs : List Char} (h : c ∈ trim cs) : c ∈ cs :=
  (List.dropWhile_suffix isBlank).mem ((trimEndFront _).mem h)

def lines : List Char → List (List Char)
  | [] => [[]]
  | c :: rest =>
    if c = '\n' then [] :: lines rest
    else match lines rest with
      | [] => [[c]]
      | l :: ls => (c :: l) :: ls

def joinLines : List (List Char) → List Char
  | [] => []
  | [l] => l
  | l :: ls => l ++ '\n' :: joinLines ls

theorem linesSome (cs : List Char) : lines cs ≠ [] := by
  cases cs with
  | nil => simp [lines]
  | cons c rest => simp only [lines]; split <;> (try split) <;> simp

theorem linesFeedless {cs l : List Char} (h : l ∈ lines cs) : '\n' ∉ l := by
  induction cs generalizing l with
  | nil => simp [lines] at h; simp [h]
  | cons c rest ih =>
    simp only [lines] at h
    split at h
    · rcases List.mem_cons.1 h with rfl | h
      · simp
      · exact ih h
    · rename_i hc
      split at h
      · rename_i e; exact absurd e (linesSome rest)
      · rename_i k ks e
        rcases List.mem_cons.1 h with rfl | h
        · simpa [eq_comm, hc] using ih (l := k) (by simp [e])
        · exact ih (by simp [e, h])

end Repartee.Text
