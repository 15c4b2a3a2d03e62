/-! # The lines of a text

A text is cut at its line feeds, and at nothing else. The pieces, joined by line feeds again, are
the text; a text without a line feed is one line, also when it is empty.
-/
namespace Calculator

/-- The pieces of a text between its line feeds. -/
def linesOf : List Char → List (List Char)
  | [] => [[]]
  | c :: rest =>
    if c = '\n' then [] :: linesOf rest
    else
      match linesOf rest with
      | line :: lines => (c :: line) :: lines
      | [] => [[c]]

def joinLines : List (List Char) → List Char
  | [] => []
  | [line] => line
  | line :: lines => line ++ '\n' :: joinLines lines

def joined (lines : List String) : String :=
  "\n".intercalate lines

theorem joinLines_eq_intercalate (lines : List (List Char)) :
    joinLines lines = ['\n'].intercalate lines := by
  induction lines with
  | nil => rfl
  | cons line lines ih =>
    cases lines with
    | nil => simp [joinLines, List.intercalate]
    | cons next lines => simp [joinLines, ih, List.intercalate]

@[simp] theorem toList_joined (lines : List String) :
    (joined lines).toList = joinLines (lines.map String.toList) := by
  rw [joined, String.toList_intercalate, joinLines_eq_intercalate]
  rfl

theorem linesOf_ne_nil (text : List Char) : linesOf text ≠ [] := by
  induction text with
  | nil => simp [linesOf]
  | cons c rest ih =>
    rw [linesOf]
    split
    · simp
    · split <;> simp

theorem linesOf_cons_of_ne {c : Char} (h : c ≠ '\n') {rest line : List Char}
    {lines : List (List Char)} (hrest : linesOf rest = line :: lines) :
    linesOf (c :: rest) = (c :: line) :: lines := by
  simp [linesOf, h, hrest]

@[simp] theorem linesOf_newline (rest : List Char) : linesOf ('\n' :: rest) = [] :: linesOf rest := by
  simp [linesOf]

theorem newline_notMem_of_mem_linesOf {text line : List Char} (h : line ∈ linesOf text) :
    '\n' ∉ line := by
  induction text generalizing line with
  | nil =>
    obtain rfl : line = [] := by simpa [linesOf] using h
    simp
  | cons c rest ih =>
    by_cases hc : c = '\n'
    · subst hc
      rw [linesOf_newline] at h
      rcases List.mem_cons.1 h with rfl | h
      · simp
      · exact ih h
    · obtain ⟨first, lines, hrest⟩ := List.exists_cons_of_ne_nil (linesOf_ne_nil rest)
      rw [linesOf_cons_of_ne hc hrest] at h
      rcases List.mem_cons.1 h with rfl | h
      · have := @ih first (by simp [hrest])
        simp [Ne.symm hc, this]
      · exact ih (by simp [hrest, h])

@[simp] theorem joinLines_linesOf (text : List Char) : joinLines (linesOf text) = text := by
  induction text with
  | nil => rfl
  | cons c rest ih =>
    obtain ⟨first, lines, hrest⟩ := List.exists_cons_of_ne_nil (linesOf_ne_nil rest)
    rw [hrest] at ih
    by_cases hc : c = '\n'
    · subst hc
      rw [linesOf_newline, hrest, joinLines, ih]
      · rfl
      · simp
    · rw [linesOf_cons_of_ne hc hrest, ← ih]
      cases lines <;> rfl

theorem linesOf_append_newline {line : List Char} (h : '\n' ∉ line) (rest : List Char) :
    linesOf (line ++ '\n' :: rest) = line :: linesOf rest := by
  induction line with
  | nil => simp
  | cons c line ih =>
    simp only [List.mem_cons, not_or] at h
    exact linesOf_cons_of_ne (Ne.symm h.1) (ih h.2)

theorem linesOf_eq_singleton {line : List Char} (h : '\n' ∉ line) : linesOf line = [line] := by
  induction line with
  | nil => rfl
  | cons c line ih =>
    simp only [List.mem_cons, not_or] at h
    exact linesOf_cons_of_ne (Ne.symm h.1) (ih h.2)

theorem takeWhile_append_of_newline_notMem {line : List Char} (h : '\n' ∉ line)
    (rest : List Char) :
    (line ++ rest).takeWhile (· != '\n') = line ++ rest.takeWhile (· != '\n') := by
  refine List.takeWhile_append_of_pos fun c hc => ?_
  have hne : c ≠ '\n' := fun heq => h (heq ▸ hc)
  simpa using hne

theorem head?_linesOf (text : List Char) :
    (linesOf text).head? = some (text.takeWhile (· != '\n')) := by
  induction text with
  | nil => rfl
  | cons c rest ih =>
    by_cases hc : c = '\n'
    · subst hc
      simp
    · obtain ⟨first, lines, hrest⟩ := List.exists_cons_of_ne_nil (linesOf_ne_nil rest)
      rw [hrest, List.head?_cons, Option.some_inj] at ih
      simp [linesOf_cons_of_ne hc hrest, ih, hc]

/-- Joining lines and cutting the text gives the lines back, if there are any and none holds a
line feed. -/
theorem linesOf_joinLines {lines : List (List Char)} (hne : lines ≠ [])
    (h : ∀ line ∈ lines, '\n' ∉ line) : linesOf (joinLines lines) = lines := by
  induction lines with
  | nil => exact absurd rfl hne
  | cons line lines ih =>
    cases lines with
    | nil => exact linesOf_eq_singleton (h line (by simp))
    | cons next lines =>
      rw [joinLines, linesOf_append_newline (h line (by simp)), ih (by simp)]
      · exact fun other hmem => h other (List.mem_cons_of_mem _ hmem)
      · simp

end Calculator
