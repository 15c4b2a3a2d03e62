import Calculator.Token.Scan

/-! # Lexemes stay on their line

No lexeme holds a line feed, and what stands at the head of a text does not depend on anything
behind the next line feed. So the tokens of a text are those before a line feed followed by those
behind it.
-/
namespace Calculator

theorem isNumeral_newline : isNumeral '\n' = false := by decide

theorem isNamePart_newline : isNamePart '\n' = false := by decide

theorem isLetter_newline : isLetter '\n' = false := by decide

theorem takeWhile_append_newline {p : Char → Bool} (hp : p '\n' = false) (front back : List Char) :
    (front ++ '\n' :: back).takeWhile p = front.takeWhile p := by
  induction front with
  | nil => simp [hp]
  | cons c front ih =>
    rw [List.cons_append, List.takeWhile_cons, List.takeWhile_cons, ih]

theorem newline_notMem_takeWhile {p : Char → Bool} (hp : p '\n' = false) (text : List Char) :
    '\n' ∉ text.takeWhile p := by
  intro h
  have htrue := List.all_eq_true.mp List.all_takeWhile _ h
  rw [hp] at htrue
  cases htrue

theorem head?_append_newline (front back : List Char) :
    ((front ++ '\n' :: back).head? == some '=') = (front.head? == some '=') := by
  cases front with
  | nil => simp
  | cons c front => rfl

theorem symbolAt?_spec {c : Char} {equalsFollows two : Bool} {kind : TokenKind}
    (h : symbolAt? c equalsFollows = some (kind, two)) :
    c ≠ '\n' ∧ kind ≠ .number ∧ (two = true → equalsFollows = true) := by
  unfold symbolAt? at h
  split at h
  all_goals cases h
  all_goals exact ⟨by decide, by decide, by simp⟩

namespace Head

/-- What stands at the head of a text is the same with or without the lines that follow. -/
theorem of_append_newline (c : Char) (front back : List Char) :
    Head.of c (front ++ '\n' :: back) = Head.of c front := by
  simp only [Head.of, takeWhile_append_newline isNumeral_newline,
    takeWhile_append_newline isNamePart_newline, head?_append_newline]

theorem of_newline (rest : List Char) : Head.of '\n' rest = .blank := by
  have hsymbol (equalsFollows : Bool) : symbolAt? '\n' equalsFollows = none := by
    cases equalsFollows <;> rfl
  have hblank : isBlank '\n' = true := by decide
  simp [Head.of, isNumeral_newline, isLetter_newline, hsymbol, hblank]

/-- A lexeme: its characters stand at the head of the text, none is a line feed, and if it is a
number it can be read. -/
structure IsLexeme (c : Char) (rest : List Char) (kind : TokenKind) (tail : List Char) : Prop where
  tail_prefix : tail <+: rest
  newline_notMem : '\n' ∉ c :: tail
  readable : kind = .number →
    (c :: tail).all isNumeral = true ∧ Literal.isWellFormed (c :: tail) = true

theorem IsLexeme.rest_eq {c : Char} {rest tail : List Char} {kind : TokenKind}
    (h : IsLexeme c rest kind tail) : rest = tail ++ rest.drop tail.length :=
  (List.prefix_iff_eq_append.mp h.tail_prefix).symm

theorem IsLexeme.drop_append {c : Char} {rest tail : List Char} {kind : TokenKind}
    (h : IsLexeme c rest kind tail) (back : List Char) :
    (rest ++ back).drop tail.length = rest.drop tail.length ++ back :=
  List.drop_append_of_le_length h.tail_prefix.length_le

theorem IsLexeme.count_newline {c : Char} {rest tail : List Char} {kind : TokenKind}
    (h : IsLexeme c rest kind tail) :
    (c :: rest).count '\n' = (rest.drop tail.length).count '\n' := by
  have hcount : (c :: tail).count '\n' = 0 := List.count_eq_zero.mpr h.newline_notMem
  calc (c :: rest).count '\n' = (c :: tail ++ rest.drop tail.length).count '\n' := by
        rw [List.cons_append, ← h.rest_eq]
    _ = (rest.drop tail.length).count '\n' := by rw [List.count_append, hcount, Nat.zero_add]

theorem isLexeme_takeWhile {p : Char → Bool} (hp : p '\n' = false) {c : Char} (hc : c ≠ '\n')
    {rest : List Char} {kind : TokenKind}
    (hreadable : kind = .number → (c :: rest.takeWhile p).all isNumeral = true ∧
      Literal.isWellFormed (c :: rest.takeWhile p) = true) :
    IsLexeme c rest kind (rest.takeWhile p) where
  tail_prefix := List.takeWhile_prefix p
  newline_notMem := List.not_mem_cons_of_ne_of_not_mem hc.symm (newline_notMem_takeWhile hp rest)
  readable := hreadable

theorem isLexeme_symbol {c : Char} {rest : List Char} {kind : TokenKind} {two : Bool}
    (h : symbolAt? c (rest.head? == some '=') = some (kind, two)) :
    IsLexeme c rest kind (if two then ['='] else []) := by
  obtain ⟨hc, hkind, htwo⟩ := symbolAt?_spec h
  have hreadable {tail : List Char} : kind = .number →
      (c :: tail).all isNumeral = true ∧ Literal.isWellFormed (c :: tail) = true := by
    intro hnumber
    exact absurd hnumber hkind
  cases two with
  | false => exact ⟨List.nil_prefix, by simp [hc.symm], hreadable⟩
  | true =>
    have hhead : rest.head? = some '=' := by simpa using htwo rfl
    obtain ⟨more, rfl⟩ := List.head?_eq_some_iff.mp hhead
    exact ⟨⟨more, rfl⟩, by simp [hc.symm], hreadable⟩

theorem isLexeme_of_eq {c : Char} {rest tail : List Char} {kind : TokenKind}
    (h : Head.of c rest = .lexeme kind tail) : IsLexeme c rest kind tail := by
  have hne {p : Char → Bool} (hp : p '\n' = false) (hc : p c = true) : c ≠ '\n' := by
    rintro rfl
    rw [hp] at hc
    cases hc
  unfold Head.of at h
  split at h
  · next hnumeral =>
    dsimp only at h
    split at h
    · next hformed =>
      cases h
      have hall : (c :: rest.takeWhile isNumeral).all isNumeral = true := by
        rw [List.all_cons, hnumeral, List.all_takeWhile]
        rfl
      exact isLexeme_takeWhile isNumeral_newline (hne isNumeral_newline hnumeral)
        (fun _ => ⟨hall, hformed⟩)
    · cases h
  · split at h
    · next hletter =>
      cases h
      exact isLexeme_takeWhile isNamePart_newline (hne isLetter_newline hletter) (by simp)
    · split at h
      · next hsymbol =>
        cases h
        exact isLexeme_symbol hsymbol
      · split at h <;> cases h

end Head

end Calculator
