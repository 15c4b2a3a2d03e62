import Calculator.Proofs.Scan.Boundaries
import Calculator.Proofs.Scan.Offsets

/-! # The first fault of a text

A text that cannot be scanned is cut into pieces up to its first fault. What stands behind the
fault has no part in it: an unexpected character is one whatever follows, and a malformed number is
one as long as the run of digits and points is not made longer.
-/
namespace Calculator

/-- A text is cut into pieces up to a character at which nothing can be read. -/
structure StopsAt (front : List Char) (pieces : List Piece) (c : Char) (rest : List Char)
    (fault : LexicalFault) : Prop where
  cut : Segmentation front pieces
  mayFollow : MayFollow pieces c
  faulty : Head.of c rest = .faulty fault

theorem Head.of_eq_unexpected_iff {c d : Char} {rest : List Char} :
    Head.of c rest = .faulty (.unexpectedCharacter d) ↔
      d = c ∧ isNumeral c = false ∧ isLetter c = false ∧ symbolAt? c false = none ∧
        isBlank c = false := by
  have hsome := symbolAt?_isSome c (rest.head? == some '=')
  unfold Head.of
  cases hnumeral : isNumeral c with
  | true =>
    simp only [if_true]
    split <;> simp
  | false =>
    cases hletter : isLetter c with
    | true => simp
    | false =>
      cases hsymbol : symbolAt? c (rest.head? == some '=') with
      | some symbol =>
        rw [hsymbol, Option.isSome_some] at hsome
        obtain ⟨other, hother⟩ := Option.isSome_iff_exists.mp hsome.symm
        simp [hother]
      | none =>
        rw [hsymbol, Option.isSome_none] at hsome
        have hother := Option.isSome_eq_false_iff.mp hsome.symm
        cases hblank : isBlank c with
        | true => simp
        | false => simp [Option.isNone_iff_eq_none.mp hother, eq_comm]

theorem Head.of_eq_malformed_iff {c : Char} {rest run : List Char} :
    Head.of c rest = .faulty (.malformedNumber run) ↔
      isNumeral c = true ∧ run = c :: rest.takeWhile isNumeral ∧ ¬ IsDecimal run := by
  unfold Head.of
  cases hnumeral : isNumeral c with
  | true =>
    rw [isDecimal_iff]
    cases hformed : Literal.isWellFormed (c :: rest.takeWhile isNumeral) with
    | true =>
      simp only [if_true, hformed, reduceCtorEq, true_and, false_iff, not_and, not_not]
      rintro rfl
      exact hformed
    | false =>
      simp only [if_true, hformed, Bool.false_eq_true, if_false, true_and, Head.faulty.injEq,
        LexicalFault.malformedNumber.injEq, eq_comm (a := run), iff_self_and]
      rintro rfl
      exact ne_true_of_eq_false hformed
  | false =>
    cases hletter : isLetter c with
    | true => simp
    | false =>
      simp only [Bool.false_eq_true, if_false, false_and, iff_false]
      split
      · simp
      · split <;> simp

theorem exists_stopsAt_of_scanFrom_error {here : Location} {text : List Char} {e : LexicalError}
    (h : scanFrom here text = .error e) :
    ∃ front pieces c rest, text = front ++ c :: rest ∧ StopsAt front pieces c rest e.fault ∧
      e.location = here.behind front := by
  fun_induction scanFrom here text with
  | case1 | case2 => cases h
  | case3 here c rest kind tail hhead other hscan ih =>
    obtain rfl : other = e := Except.error.inj h
    obtain ⟨front, pieces, d, back, htext, hstops, hlocation⟩ := ih hscan
    obtain ⟨hlongest, hdecimal⟩ := Head.longest_of_eq hhead
    have hrest := (Head.isLexeme_of_eq hhead).rest_eq
    rw [htext] at hrest
    rw [hrest, ← List.cons_append] at hlongest ⊢
    have hline := hlongest.isWord.newline_notMem
    refine ⟨c :: tail ++ front, .lexeme kind (c :: tail) :: pieces, d, back, ?_, ⟨?_, ?_, ?_⟩, ?_⟩
    · rw [List.append_assoc]
    · refine .lexeme (hlongest.isWord.longest_of_separates ?_) hdecimal hstops.cut
      intro next hnext
      exact (longest_append_iff.mp hlongest).2 next (List.mem_head?_append_of_mem_head? hnext)
    · refine (mayFollow_lexeme_cons _ _ _ _).mpr ⟨hstops.mayFollow, ?_⟩
      rintro rfl
      rw [hstops.cut.eq_nil_of_nil] at hlongest
      exact hlongest.separates
    · exact hstops.faulty
    · rw [hlocation, Location.behind_append, Location.behind_eq_right hline]
      rfl
  | case4 here c rest hhead ih =>
    obtain ⟨front, pieces, d, back, rfl, hstops, hlocation⟩ := ih h
    refine ⟨c :: front, .blank c :: pieces, d, back, rfl, ⟨?_, ?_, hstops.faulty⟩, hlocation⟩
    · exact .blank (Head.isBlank_of_eq hhead) hstops.cut
    · exact (mayFollow_blank_cons c pieces d).mpr hstops.mayFollow
  | case5 here c rest fault hhead =>
    obtain rfl : ⟨fault, here⟩ = e := Except.error.inj h
    exact ⟨[], [], c, rest, rfl, ⟨.nil, mayFollow_nil c, hhead⟩, rfl⟩

namespace StopsAt

variable {front rest : List Char} {pieces : List Piece} {c : Char} {fault : LexicalFault}

theorem scanFrom_eq (h : StopsAt front pieces c rest fault) (here : Location) :
    scanFrom here (front ++ c :: rest) = .error ⟨fault, here.behind front⟩ := by
  have hnext : ∀ next ∈ (c :: rest).head?, MayFollow pieces next := by
    intro next hnext
    obtain rfl : c = next := by simpa using hnext
    exact h.mayFollow
  rw [h.cut.scanFrom_append hnext, scanFrom_faulty h.faulty, Except.map]

theorem exchange_unexpected {d : Char} (h : StopsAt front pieces c rest (.unexpectedCharacter d))
    (other : List Char) : d = c ∧ StopsAt front pieces c other (.unexpectedCharacter d) := by
  have hunexpected := Head.of_eq_unexpected_iff.mp h.faulty
  exact ⟨hunexpected.1, h.cut, h.mayFollow, Head.of_eq_unexpected_iff.mpr hunexpected⟩

theorem exchange_malformed {run : List Char}
    (h : StopsAt front pieces c rest (.malformedNumber run)) {other : List Char}
    (hother : ∀ next ∈ other.head?, isNumeral next = false) :
    StopsAt front pieces c (rest.takeWhile isNumeral ++ other) (.malformedNumber run) := by
  obtain ⟨hc, hrun, hdecimal⟩ := Head.of_eq_malformed_iff.mp h.faulty
  have hnone : other.takeWhile isNumeral = [] := by
    cases other with
    | nil => rfl
    | cons next other => simp [hother next rfl]
  refine ⟨h.cut, h.mayFollow, Head.of_eq_malformed_iff.mpr ⟨hc, ?_, hdecimal⟩⟩
  rw [List.takeWhile_append_of_pos (List.all_eq_true.mp List.all_takeWhile), hnone,
    List.append_nil, hrun]

end StopsAt

def firstCharacters (n : Nat) (source : String) : String :=
  String.ofList (source.toList.take n)

def LexicalError.start (e : LexicalError) (source : String) : Nat :=
  e.location.offset source.toList

/-- A text that cannot be scanned is cut into pieces up to the place of its fault. -/
theorem exists_stopsAt_of_scan_error {source : String} {e : LexicalError}
    (h : scan source = .error e) :
    ∃ front pieces c rest, source.toList = front ++ c :: rest ∧
      StopsAt front pieces c rest e.fault ∧ e.location = .following front ∧
      e.start source = front.length := by
  obtain ⟨front, pieces, c, rest, htext, hstops, hlocation⟩ := exists_stopsAt_of_scanFrom_error h
  rw [Location.origin_behind] at hlocation
  refine ⟨front, pieces, c, rest, htext, hstops, hlocation, ?_⟩
  rw [LexicalError.start, hlocation, htext, Location.offset_following]

theorem scan_eq_error_of_stopsAt {front rest : List Char} {pieces : List Piece} {c : Char}
    {source : String} {e : LexicalError} {fault : LexicalFault}
    (h : StopsAt front pieces c rest fault) (hfault : e.fault = fault)
    (hlocation : e.location = .following front) (hsource : source.toList = front ++ c :: rest) :
    scan source = .error e := by
  rw [scan, hsource, h.scanFrom_eq, Location.origin_behind, ← hfault, ← hlocation]

theorem toList_firstCharacters_append {source : String} {front back : List Char} {n : Nat}
    (hsource : source.toList = front ++ back) (hn : front.length = n) (suffix : String) :
    (firstCharacters n source ++ suffix).toList = front ++ suffix.toList := by
  rw [String.toList_append, firstCharacters, String.toList_ofList, hsource, ← hn, List.take_left]

theorem no_digit_or_two_points {run : List Char} (h : ¬ IsDecimal run) :
    (∀ c ∈ run, isDigit c = false) ∨ 2 ≤ run.count '.' := by
  by_cases hdigit : ∃ c ∈ run, isDigit c = true
  · refine Or.inr (Nat.lt_of_not_ge fun hcount => ?_)
    exact h ⟨hdigit, hcount⟩
  · refine Or.inl fun c hc => Bool.eq_false_iff.mpr fun hisDigit => ?_
    exact hdigit ⟨c, hc, hisDigit⟩

/-- A fault is the first offence of its text. What stands before it can be scanned. An unexpected
character is found whatever is put behind it. A malformed number is the whole run of digits and
points, and is found whatever is put behind it, if that does not begin with a digit or a point. -/
theorem scan_stops_at_first_fault {source : String} {e : LexicalError}
    (h : scan source = .error e) :
    e.location = .following (firstCharacters (e.start source) source).toList ∧
    (∃ tokens, scan (firstCharacters (e.start source) source) = .ok tokens) ∧
    (∀ c, e.fault = .unexpectedCharacter c →
      source.toList[e.start source]? = some c ∧
      ∀ suffix, scan (firstCharacters (e.start source + 1) source ++ suffix) = .error e) ∧
    ∀ run, e.fault = .malformedNumber run →
      run = (source.toList.drop (e.start source)).takeWhile isNumeral ∧ run ≠ [] ∧
      ((∀ c ∈ run, isDigit c = false) ∨ 2 ≤ run.count '.') ∧
      e.fault.message = "Malformed number: " ++ quoted (String.ofList run) ∧
      ∀ suffix : String, (∀ next ∈ suffix.toList.head?, isNumeral next = false) →
        scan (firstCharacters (e.start source + run.length) source ++ suffix) = .error e := by
  obtain ⟨front, pieces, c, rest, hsource, hstops, hlocation, hstart⟩ :=
    exists_stopsAt_of_scan_error h
  have hfront : (firstCharacters (e.start source) source).toList = front := by
    rw [firstCharacters, String.toList_ofList, hsource, hstart, List.take_left]
  refine ⟨?_, ?_, ?_, ?_⟩
  · rw [hfront, hlocation]
  · refine ⟨placed .origin pieces, ?_⟩
    rw [scan, hfront, hstops.cut.scanFrom_eq]
  · intro d hfault
    rw [hfault] at hstops
    obtain ⟨rfl, -⟩ := hstops.exchange_unexpected []
    refine ⟨?_, fun suffix => ?_⟩
    · rw [hsource, hstart]
      simp
    · obtain ⟨-, hother⟩ := hstops.exchange_unexpected suffix.toList
      have hcut : source.toList = (front ++ [d]) ++ rest := by simp [hsource]
      refine scan_eq_error_of_stopsAt hother hfault hlocation ?_
      rw [toList_firstCharacters_append hcut (by simp [hstart]), List.append_assoc,
        List.singleton_append]
  · intro run hfault
    rw [hfault] at hstops
    obtain ⟨hc, hrun, hdecimal⟩ := Head.of_eq_malformed_iff.mp hstops.faulty
    refine ⟨?_, ?_, no_digit_or_two_points hdecimal, by rw [hfault]; rfl, ?_⟩
    · rw [hsource, hstart, List.drop_left, List.takeWhile_cons_of_pos hc, hrun]
    · rw [hrun]
      exact List.cons_ne_nil _ _
    · intro suffix hsuffix
      have hother := hstops.exchange_malformed hsuffix
      have hcut : source.toList = (front ++ run) ++ rest.dropWhile isNumeral := by
        rw [hsource, hrun, List.append_assoc, List.cons_append, List.takeWhile_append_dropWhile]
      refine scan_eq_error_of_stopsAt hother hfault hlocation ?_
      rw [toList_firstCharacters_append hcut (by simp [hstart]), List.append_assoc, hrun,
        List.cons_append]

theorem scan_stops_at_first_fault_of_texts :
    scan "3 $ 4" = .error ⟨.unexpectedCharacter '$', ⟨0, 2⟩⟩ ∧
    (∀ suffix, scan (firstCharacters 3 "3 $ 4" ++ suffix) =
      .error ⟨.unexpectedCharacter '$', ⟨0, 2⟩⟩) ∧
    scan "a =\n.." = .error ⟨.malformedNumber ['.', '.'], ⟨1, 0⟩⟩ ∧
    (∃ tokens, scan (firstCharacters 4 "a =\n..") = .ok tokens) ∧
    scan (firstCharacters 6 "a =\n.." ++ "x") = .error ⟨.malformedNumber ['.', '.'], ⟨1, 0⟩⟩ := by
  have hunexpected : scan "3 $ 4" = .error ⟨.unexpectedCharacter '$', ⟨0, 2⟩⟩ := by
    decide +kernel
  have hmalformed : scan "a =\n.." = .error ⟨.malformedNumber ['.', '.'], ⟨1, 0⟩⟩ := by
    decide +kernel
  have hstart : LexicalError.start ⟨.malformedNumber ['.', '.'], ⟨1, 0⟩⟩ "a =\n.." = 4 := by
    decide +kernel
  obtain ⟨-, -, hcharacter, -⟩ := scan_stops_at_first_fault hunexpected
  obtain ⟨-, hfront, -, hrun⟩ := scan_stops_at_first_fault hmalformed
  rw [hstart] at hfront hrun
  refine ⟨hunexpected, (hcharacter '$' rfl).2, hmalformed, hfront, ?_⟩
  refine (hrun ['.', '.'] rfl).2.2.2.2 "x" fun next hnext => ?_
  obtain rfl : next = 'x' := (Option.some.inj hnext).symm
  decide

end Calculator
