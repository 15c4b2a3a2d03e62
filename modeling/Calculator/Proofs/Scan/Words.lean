import Calculator.Proofs.Scan.Lexeme

/-! # The longest word at the head of a text

A word is a run of digits and points, a name, or one of the symbols. What stands at the head of a
text is its longest word, refused if that is a run without a digit or with several points; where no
word begins there is a blank or a fault. A word is told by its first character what kind it is of,
so that the longest word and its kind are unique.
-/
namespace Calculator

theorem class_of_isBlank {c : Char} (h : isBlank c = true) : CharClass.of c = .other := by
  have hall : (blanks.flatMap fun run => List.range' run.first (run.last + 1 - run.first)).all
      (fun n => decide (CharClass.of (Char.ofNat n) = .other)) = true := by decide +kernel
  obtain ⟨run, hrun, hfirst, hlast⟩ := CodePoints.exists_run_of_contains h
  have hmem : c.toNat ∈ blanks.flatMap fun run =>
      List.range' run.first (run.last + 1 - run.first) :=
    List.mem_flatMap.mpr ⟨run, hrun, List.mem_range'_1.mpr ⟨hfirst, by omega⟩⟩
  have hclass := of_decide_eq_true (List.all_eq_true.mp hall _ hmem)
  rwa [Char.ofNat_toNat] at hclass

theorem isBlank_of_mem_specials : ∀ c ∈ specials, isBlank c = false := by
  have h : specials.all (fun c => !isBlank c) = true := by decide
  intro c hc
  simpa using List.all_eq_true.mp h c hc

theorem isDigit_of_class_other {c : Char} (h : CharClass.of c = .other) : isDigit c = false := by
  unfold CharClass.of at h
  unfold isDigit
  cases hd : digitValue? c with
  | none => rfl
  | some d => simp [hd] at h

theorem isLetter_of_class_other {c : Char} (h : CharClass.of c = .other) : isLetter c = false := by
  simp [isLetter, h]

theorem isNamePart_of_class_other {c : Char} (h : CharClass.of c = .other) (hc : c ≠ '_') :
    isNamePart c = false := by
  simp [isNamePart, h, hc]

theorem isLetter_of_isNumeral {c : Char} (h : isNumeral c = true) : isLetter c = false := by
  refine Bool.eq_false_iff.mpr fun hletter => ?_
  rcases Bool.or_eq_true_iff.mp h with hdigit | hpoint
  · rw [isDigit_eq_false_of_isLetter hletter] at hdigit
    cases hdigit
  · obtain rfl : c = '.' := by simpa using hpoint
    rw [isLetter_of_class_other (class_of_mem_specials '.' (by decide))] at hletter
    cases hletter

theorem isBlank_of_isNumeral {c : Char} (h : isNumeral c = true) : isBlank c = false := by
  refine Bool.eq_false_iff.mpr fun hblank => ?_
  rcases Bool.or_eq_true_iff.mp h with hdigit | hpoint
  · rw [isDigit_of_class_other (class_of_isBlank hblank)] at hdigit
    cases hdigit
  · obtain rfl : c = '.' := by simpa using hpoint
    rw [isBlank_of_mem_specials '.' (by decide)] at hblank
    cases hblank

theorem isBlank_of_isNamePart {c : Char} (h : isNamePart c = true) : isBlank c = false := by
  refine Bool.eq_false_iff.mpr fun hblank => ?_
  by_cases hc : c = '_'
  · subst hc
    rw [isBlank_of_mem_specials '_' (by decide)] at hblank
    cases hblank
  · rw [isNamePart_of_class_other (class_of_isBlank hblank) hc] at h
    cases h

/-- The words of each kind. -/
inductive IsWord : TokenKind → List Char → Prop where
  | number {word : List Char} : word ≠ [] → (∀ c ∈ word, isNumeral c = true) → IsWord .number word
  | identifier {first : Char} {rest : List Char} : isLetter first = true →
      (∀ c ∈ rest, isNamePart c = true) → IsWord .identifier (first :: rest)
  | symbol {kind : TokenKind} {spelling : String} : kind.spelling? = some spelling →
      IsWord kind spelling.toList

theorem symbolAt?_of_spelling {kind : TokenKind} {spelling : String}
    (h : kind.spelling? = some spelling) :
    ∃ c two, spelling.toList = c :: (if two then ['='] else []) ∧ c ∈ specials ∧ c ≠ '.' ∧
      symbolAt? c two = some (kind, two) := by
  cases kind with
  | number | identifier => cases h
  | assign => cases h; exact ⟨'=', false, by decide⟩
  | leftParen => cases h; exact ⟨'(', false, by decide⟩
  | rightParen => cases h; exact ⟨')', false, by decide⟩
  | operator op =>
    cases op <;> cases h
    · exact ⟨'+', false, by decide⟩
    · exact ⟨'-', false, by decide⟩
    · exact ⟨'*', false, by decide⟩
    · exact ⟨'/', false, by decide⟩
    · exact ⟨'>', false, by decide⟩
    · exact ⟨'>', true, by decide⟩
    · exact ⟨'<', false, by decide⟩
    · exact ⟨'<', true, by decide⟩
    · exact ⟨'=', true, by decide⟩

theorem spelling_of_symbolAt? {c : Char} {equalsFollows two : Bool} {kind : TokenKind}
    (h : symbolAt? c equalsFollows = some (kind, two)) :
    ∃ spelling, kind.spelling? = some spelling ∧
      spelling.toList = c :: (if two then ['='] else []) := by
  unfold symbolAt? at h
  split at h <;> cases h <;> exact ⟨_, rfl, by decide⟩

theorem symbolAt?_isSome (c : Char) (equalsFollows : Bool) :
    (symbolAt? c equalsFollows).isSome = (symbolAt? c false).isSome := by
  unfold symbolAt?
  split <;> simp_all

namespace IsWord

variable {kind other : TokenKind} {c : Char} {tail word rest : List Char}

theorem exists_cons (h : IsWord kind word) : ∃ c tail, word = c :: tail := by
  cases h with
  | number hne _ => exact List.exists_cons_of_ne_nil hne
  | identifier => exact ⟨_, _, rfl⟩
  | symbol h =>
    obtain ⟨c, two, heq, _⟩ := symbolAt?_of_spelling h
    exact ⟨c, _, heq⟩

theorem of_isNumeral (h : IsWord kind (c :: tail)) (hc : isNumeral c = true) :
    kind = .number ∧ ∀ d ∈ tail, isNumeral d = true := by
  generalize hword : c :: tail = word at h
  cases h with
  | number _ hall =>
    subst hword
    exact ⟨rfl, fun d hd => hall d (List.mem_cons_of_mem _ hd)⟩
  | identifier hletter _ =>
    obtain ⟨rfl, rfl⟩ := List.cons.inj hword
    rw [isLetter_of_isNumeral hc] at hletter
    cases hletter
  | symbol h =>
    obtain ⟨first, two, heq, hmem, hpoint, _⟩ := symbolAt?_of_spelling h
    obtain ⟨rfl, _⟩ := List.cons.inj (hword.trans heq)
    simp [isNumeral, isDigit_of_class_other (class_of_mem_specials c hmem), hpoint] at hc

theorem of_isLetter (h : IsWord kind (c :: tail)) (hc : isLetter c = true) :
    kind = .identifier ∧ ∀ d ∈ tail, isNamePart d = true := by
  generalize hword : c :: tail = word at h
  cases h with
  | number _ hall =>
    subst hword
    rw [isLetter_of_isNumeral (hall c List.mem_cons_self)] at hc
    cases hc
  | identifier _ hall =>
    obtain ⟨rfl, rfl⟩ := List.cons.inj hword
    exact ⟨rfl, hall⟩
  | symbol h =>
    obtain ⟨first, two, heq, hmem, _⟩ := symbolAt?_of_spelling h
    obtain ⟨rfl, _⟩ := List.cons.inj (hword.trans heq)
    rw [isLetter_of_class_other (class_of_mem_specials c hmem)] at hc
    cases hc

theorem of_symbol (h : IsWord kind (c :: tail)) (hnumeral : isNumeral c = false)
    (hletter : isLetter c = false) :
    ∃ two, tail = (if two then ['='] else []) ∧ symbolAt? c two = some (kind, two) := by
  generalize hword : c :: tail = word at h
  cases h with
  | number _ hall =>
    subst hword
    rw [hall c List.mem_cons_self] at hnumeral
    cases hnumeral
  | identifier hfirst _ =>
    obtain ⟨rfl, _⟩ := List.cons.inj hword
    rw [hfirst] at hletter
    cases hletter
  | symbol h =>
    obtain ⟨first, two, heq, _, _, hsymbol⟩ := symbolAt?_of_spelling h
    obtain ⟨rfl, htail⟩ := List.cons.inj (hword.trans heq)
    exact ⟨two, htail, hsymbol⟩

/-- A word is of one kind only. -/
theorem kind_unique (h : IsWord kind word) (hother : IsWord other word) : kind = other := by
  obtain ⟨c, tail, rfl⟩ := h.exists_cons
  cases hnumeral : isNumeral c with
  | true => exact (h.of_isNumeral hnumeral).1.trans (hother.of_isNumeral hnumeral).1.symm
  | false =>
    cases hletter : isLetter c with
    | true => exact (h.of_isLetter hletter).1.trans (hother.of_isLetter hletter).1.symm
    | false =>
      obtain ⟨two, htail, hsymbol⟩ := h.of_symbol hnumeral hletter
      obtain ⟨more, hmore, hagain⟩ := hother.of_symbol hnumeral hletter
      obtain rfl : two = more := by
        cases two <;> cases more <;> simp_all
      rw [hsymbol] at hagain
      exact congrArg Prod.fst (Option.some.inj hagain)

theorem isBlank_of_mem (h : IsWord kind word) {d : Char} (hd : d ∈ word) : isBlank d = false := by
  cases h with
  | number _ hall => exact isBlank_of_isNumeral (hall d hd)
  | identifier hfirst hall =>
    rcases List.mem_cons.mp hd with rfl | hd
    · exact isBlank_of_isNamePart (isNamePart_of_isLetter hfirst)
    · exact isBlank_of_isNamePart (hall d hd)
  | symbol h =>
    obtain ⟨c, two, heq, hmem, _⟩ := symbolAt?_of_spelling h
    have hequals : isBlank '=' = false := by decide
    rw [heq] at hd
    rcases List.mem_cons.mp hd with rfl | hd
    · exact isBlank_of_mem_specials d hmem
    · cases two with
      | false => cases hd
      | true =>
        obtain rfl : d = '=' := by simpa using hd
        exact hequals

end IsWord

/-- The word that stands at the head of a text, when no longer one does. -/
structure Longest (kind : TokenKind) (word text : List Char) : Prop where
  isWord : IsWord kind word
  word_prefix : word <+: text
  length_le : ∀ other longer, IsWord other longer → longer <+: text → longer.length ≤ word.length

namespace Longest

variable {kind other : TokenKind} {c : Char} {word more rest text : List Char}

theorem unique (h : Longest kind word text) (hother : Longest other more text) :
    kind = other ∧ word = more := by
  have hle : word.length ≤ more.length := hother.length_le _ _ h.isWord h.word_prefix
  have hge : more.length ≤ word.length := h.length_le _ _ hother.isWord hother.word_prefix
  have hbegins := List.prefix_of_prefix_length_le h.word_prefix hother.word_prefix hle
  obtain rfl := hbegins.eq_of_length_le hge
  exact ⟨h.isWord.kind_unique hother.isWord, rfl⟩

/-- A word is the longest if it is as long as the words of its kind and no other kind begins like
it. -/
theorem of_takeWhile {p : Char → Bool} (h : IsWord kind (c :: rest.takeWhile p))
    (hall : ∀ other tail, IsWord other (c :: tail) → ∀ d ∈ tail, p d = true) :
    Longest kind (c :: rest.takeWhile p) (c :: rest) where
  isWord := h
  word_prefix := List.cons_prefix_cons.mpr ⟨rfl, List.takeWhile_prefix p⟩
  length_le := by
    intro other longer hlonger hbegins
    obtain ⟨d, tail, rfl⟩ := hlonger.exists_cons
    obtain ⟨rfl, htail⟩ := List.cons_prefix_cons.mp hbegins
    obtain ⟨back, rfl⟩ := htail
    have htake : tail <+: (tail ++ back).takeWhile p := by
      rw [List.takeWhile_append_of_pos (hall other tail hlonger)]
      exact List.prefix_append _ _
    exact Nat.succ_le_succ htake.length_le

theorem of_symbol {two : Bool} (hnumeral : isNumeral c = false) (hletter : isLetter c = false)
    (h : symbolAt? c (rest.head? == some '=') = some (kind, two)) :
    Longest kind (c :: (if two then ['='] else [])) (c :: rest) where
  isWord := by
    obtain ⟨spelling, hspelling, heq⟩ := spelling_of_symbolAt? h
    rw [← heq]
    exact .symbol hspelling
  word_prefix := List.cons_prefix_cons.mpr ⟨rfl, Head.IsLexeme.tail_prefix (Head.isLexeme_symbol h)⟩
  length_le := by
    intro other longer hlonger hbegins
    obtain ⟨d, tail, rfl⟩ := hlonger.exists_cons
    obtain ⟨rfl, htail⟩ := List.cons_prefix_cons.mp hbegins
    obtain ⟨more, rfl, hmore⟩ := hlonger.of_symbol hnumeral hletter
    cases more with
    | false => simp
    | true =>
      -- The longer symbol is read whenever an equals sign follows.
      have hhead : rest.head? = some '=' := by
        obtain ⟨back, rfl⟩ := htail
        rfl
      rw [hhead, beq_self_eq_true, hmore] at h
      obtain ⟨_, rfl⟩ := Prod.mk.inj (Option.some.inj h)
      exact Nat.le_refl _

end Longest

theorem not_isWord_of_symbolAt? {c : Char} {rest : List Char} (hnumeral : isNumeral c = false)
    (hletter : isLetter c = false) (h : symbolAt? c (rest.head? == some '=') = none)
    {kind : TokenKind} {word : List Char} (hbegins : word <+: c :: rest) : ¬ IsWord kind word := by
  intro hword
  obtain ⟨d, tail, rfl⟩ := hword.exists_cons
  obtain ⟨rfl, _⟩ := List.cons_prefix_cons.mp hbegins
  obtain ⟨two, _, hsymbol⟩ := hword.of_symbol hnumeral hletter
  have hsome : (symbolAt? d two).isSome = (symbolAt? d (rest.head? == some '=')).isSome := by
    rw [symbolAt?_isSome d two, symbolAt?_isSome d (rest.head? == some '=')]
  rw [hsymbol, h] at hsome
  cases hsome

/-- A run of digits and points that is a number: it has a digit, and no more than one point. -/
def IsDecimal (run : List Char) : Prop :=
  (∃ c ∈ run, isDigit c = true) ∧ run.count '.' ≤ 1

theorem isDecimal_iff (run : List Char) : IsDecimal run ↔ Literal.isWellFormed run = true := by
  simp [IsDecimal, Literal.isWellFormed]

/-- What stands at the head of a text, told by its longest word. -/
inductive Head.Reads (c : Char) (rest : List Char) : Head → Prop where
  | lexeme {kind : TokenKind} {tail : List Char} : Longest kind (c :: tail) (c :: rest) →
      (kind = .number → IsDecimal (c :: tail)) → Reads c rest (.lexeme kind tail)
  | malformed {run : List Char} : Longest .number run (c :: rest) → ¬ IsDecimal run →
      Reads c rest (.faulty (.malformedNumber run))
  | blank : isBlank c = true → (∀ kind word, word <+: c :: rest → ¬ IsWord kind word) →
      Reads c rest .blank
  | unexpected : isBlank c = false → (∀ kind word, word <+: c :: rest → ¬ IsWord kind word) →
      Reads c rest (.faulty (.unexpectedCharacter c))

theorem Head.reads_of (c : Char) (rest : List Char) : Head.Reads c rest (Head.of c rest) := by
  unfold Head.of
  cases hnumeral : isNumeral c with
  | true =>
    have hword : IsWord .number (c :: rest.takeWhile isNumeral) := by
      refine .number (List.cons_ne_nil _ _) ?_
      rw [List.forall_mem_cons]
      exact ⟨hnumeral, List.all_eq_true.mp List.all_takeWhile⟩
    have hlongest := Longest.of_takeWhile hword fun _ _ h => (h.of_isNumeral hnumeral).2
    simp only [if_true]
    split
    · next hformed => exact .lexeme hlongest fun _ => (isDecimal_iff _).mpr hformed
    · next hformed => exact .malformed hlongest fun h => hformed ((isDecimal_iff _).mp h)
  | false =>
    cases hletter : isLetter c with
    | true =>
      have hword : IsWord .identifier (c :: rest.takeWhile isNamePart) :=
        .identifier hletter (List.all_eq_true.mp List.all_takeWhile)
      exact .lexeme (Longest.of_takeWhile hword fun _ _ h => (h.of_isLetter hletter).2) (by simp)
    | false =>
      simp only [if_false, Bool.false_eq_true]
      split
      · next kind two hsymbol =>
        exact .lexeme (.of_symbol hnumeral hletter hsymbol)
          fun h => absurd h (symbolAt?_spec hsymbol).2.1
      · next hsymbol =>
        have hnone : ∀ kind word, word <+: c :: rest → ¬ IsWord kind word := fun _ _ hbegins =>
          not_isWord_of_symbolAt? hnumeral hletter hsymbol hbegins
        cases hblank : isBlank c with
        | true => exact .blank hblank hnone
        | false => exact .unexpected hblank hnone

/-- The longest word, when it is well formed, is the lexeme that is read. -/
theorem Longest.head_of_eq {kind : TokenKind} {c : Char} {tail rest : List Char}
    (h : Longest kind (c :: tail) (c :: rest)) (hdecimal : kind = .number → IsDecimal (c :: tail)) :
    Head.of c rest = .lexeme kind tail := by
  have hreads := Head.reads_of c rest
  generalize Head.of c rest = head at hreads ⊢
  cases hreads with
  | lexeme hother _ =>
    obtain ⟨rfl, hwords⟩ := h.unique hother
    obtain rfl := (List.cons.inj hwords).2
    rfl
  | malformed hother hnot =>
    obtain ⟨rfl, rfl⟩ := h.unique hother
    exact absurd (hdecimal rfl) hnot
  | blank _ hnone | unexpected _ hnone => exact absurd h.isWord (hnone _ _ h.word_prefix)

theorem Head.of_isBlank {c : Char} (hc : isBlank c = true) (rest : List Char) :
    Head.of c rest = .blank := by
  have hreads := Head.reads_of c rest
  have hword {kind : TokenKind} {word : List Char} (h : Longest kind word (c :: rest)) : False := by
    obtain ⟨d, tail, rfl⟩ := h.isWord.exists_cons
    obtain ⟨rfl, _⟩ := List.cons_prefix_cons.mp h.word_prefix
    rw [h.isWord.isBlank_of_mem List.mem_cons_self] at hc
    cases hc
  generalize Head.of c rest = head at hreads ⊢
  cases hreads with
  | lexeme h _ => exact (hword h).elim
  | malformed h _ => exact (hword h).elim
  | blank => rfl
  | unexpected hnot _ =>
    rw [hc] at hnot
    cases hnot

theorem Head.longest_of_eq {kind : TokenKind} {c : Char} {tail rest : List Char}
    (h : Head.of c rest = .lexeme kind tail) :
    Longest kind (c :: tail) (c :: rest) ∧ (kind = .number → IsDecimal (c :: tail)) := by
  have hreads := Head.reads_of c rest
  rw [h] at hreads
  cases hreads with
  | lexeme hlongest hdecimal => exact ⟨hlongest, hdecimal⟩

theorem Head.isBlank_of_eq {c : Char} {rest : List Char} (h : Head.of c rest = .blank) :
    isBlank c = true := by
  have hreads := Head.reads_of c rest
  rw [h] at hreads
  cases hreads with
  | blank hblank _ => exact hblank

end Calculator
