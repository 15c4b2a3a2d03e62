import Calculator.Proofs.Grammar.Basic
import Calculator.Proofs.Scan.Lexeme
import Calculator.Text.Lines

/-! # Scanning line by line

A text is scanned like its part before a line feed and its part behind it. The tokens of the first
lines of a text are therefore the tokens of the text that stand on these lines.
-/
namespace Calculator

theorem scanFrom_lexeme {c : Char} {rest tail : List Char} {kind : TokenKind}
    (h : Head.of c rest = .lexeme kind tail) (here : Location) :
    scanFrom here (c :: rest) =
      match scanFrom (here.right (tail.length + 1)) (rest.drop tail.length) with
      | .ok tokens => .ok (⟨kind, String.ofList (c :: tail), here⟩ :: tokens)
      | .error e => .error e := by
  have hscan := scanFrom.eq_def here (c :: rest)
  simp only [h] at hscan
  exact hscan

theorem scanFrom_blank {c : Char} {rest : List Char} (h : Head.of c rest = .blank)
    (here : Location) : scanFrom here (c :: rest) = scanFrom (here.after c) rest := by
  rw [scanFrom, h]

theorem scanFrom_faulty {c : Char} {rest : List Char} {fault : LexicalFault}
    (h : Head.of c rest = .faulty fault) (here : Location) :
    scanFrom here (c :: rest) = .error ⟨fault, here⟩ := by
  rw [scanFrom, h]

theorem line_after (here : Location) (c : Char) (rest : List Char) :
    (here.after c).line + rest.count '\n' = here.line + (c :: rest).count '\n' := by
  by_cases hc : c = '\n'
  · subst hc
    simp only [Location.after, Location.newline, if_true, List.count_cons_self]
    omega
  · simp [Location.after, hc]

theorem line_le_line_after (here : Location) (c : Char) : here.line ≤ (here.after c).line := by
  unfold Location.after
  split
  · simp only [Location.newline]
    omega
  · exact Int.le_refl _

/-- Scanning what stands behind a line feed is independent of what stands before it, but for the
number of the line. -/
theorem scanFrom_append_newline (here : Location) (front back : List Char) :
    scanFrom here (front ++ '\n' :: back) =
      match scanFrom here front with
      | .error e => .error e
      | .ok tokens =>
        match scanFrom ⟨here.line + front.count '\n' + 1, 0⟩ back with
        | .error e => .error e
        | .ok more => .ok (tokens ++ more) := by
  fun_induction scanFrom here front with
  | case1 here =>
    rw [List.nil_append, scanFrom_blank (Head.of_newline back)]
    simp only [Location.after, Location.newline, if_true, List.count_nil, Int.natCast_zero,
      Int.add_zero]
    cases scanFrom ⟨here.line + 1, 0⟩ back <;> rfl
  | case2 here c rest kind tail hhead tokens hscan ih =>
    have hlexeme := Head.isLexeme_of_eq hhead
    have hwhole : Head.of c (rest ++ '\n' :: back) = .lexeme kind tail := by
      rw [Head.of_append_newline, hhead]
    rw [List.cons_append, scanFrom_lexeme hwhole, hlexeme.drop_append, ih, hscan,
      hlexeme.count_newline, Location.line_right]
    cases scanFrom ⟨here.line + (rest.drop tail.length).count '\n' + 1, 0⟩ back <;> rfl
  | case3 here c rest kind tail hhead e hscan ih =>
    have hwhole : Head.of c (rest ++ '\n' :: back) = .lexeme kind tail := by
      rw [Head.of_append_newline, hhead]
    rw [List.cons_append, scanFrom_lexeme hwhole, (Head.isLexeme_of_eq hhead).drop_append, ih,
      hscan]
  | case4 here c rest hhead ih =>
    have hwhole : Head.of c (rest ++ '\n' :: back) = .blank := by
      rw [Head.of_append_newline, hhead]
    rw [List.cons_append, scanFrom_blank hwhole, ih, line_after]
  | case5 here c rest fault hhead =>
    have hwhole : Head.of c (rest ++ '\n' :: back) = .faulty fault := by
      rw [Head.of_append_newline, hhead]
    rw [List.cons_append, scanFrom_faulty hwhole]

theorem line_of_mem_scanFrom {here : Location} {text : List Char} {tokens : List Token}
    (h : scanFrom here text = .ok tokens) {token : Token} (htoken : token ∈ tokens) :
    here.line ≤ token.line ∧ token.line ≤ here.line + text.count '\n' ∧ token.Readable := by
  fun_induction scanFrom here text generalizing tokens with
  | case1 here =>
    cases h
    cases htoken
  | case2 here c rest kind tail hhead others hscan ih =>
    have hlexeme := Head.isLexeme_of_eq hhead
    cases h
    rcases List.mem_cons.mp htoken with rfl | htoken
    · refine ⟨Int.le_refl _, ?_, ?_⟩
      · simp only [Token.line]
        omega
      · simpa [Token.Readable] using hlexeme.readable
    · have hline := ih hscan htoken
      rw [hlexeme.count_newline]
      exact hline
  | case3 => cases h
  | case4 here c rest hhead ih =>
    have hline := ih h htoken
    have hafter := line_after here c rest
    exact ⟨Int.le_trans (line_le_line_after here c) hline.1, hafter ▸ hline.2.1, hline.2.2⟩
  | case5 => cases h

theorem readable_of_scan {source : String} {tokens : List Token} (h : scan source = .ok tokens) :
    ∀ token ∈ tokens, token.Readable :=
  fun _ htoken => (line_of_mem_scanFrom h htoken).2.2

theorem line_eq_zero {line : List Char} (hline : '\n' ∉ line) {tokens : List Token}
    (hscan : scanFrom .origin line = .ok tokens) : ∀ token ∈ tokens, token.line = 0 := by
  intro token htoken
  have hbounds := line_of_mem_scanFrom hscan htoken
  rw [List.count_eq_zero.mpr hline] at hbounds
  exact Int.le_antisymm hbounds.2.1 hbounds.1

theorem newline_notMem_lexeme {here : Location} {text : List Char} {tokens : List Token}
    (h : scanFrom here text = .ok tokens) {token : Token} (htoken : token ∈ tokens) :
    '\n' ∉ token.lexeme.toList := by
  fun_induction scanFrom here text generalizing tokens with
  | case1 => cases h; cases htoken
  | case2 here c rest kind tail hhead others hscan ih =>
    cases h
    rcases List.mem_cons.mp htoken with rfl | htoken
    · rw [String.toList_ofList]
      exact (Head.isLexeme_of_eq hhead).newline_notMem
    · exact ih hscan htoken
  | case3 => cases h
  | case4 here c rest hhead ih => exact ih h htoken
  | case5 => cases h

theorem pairwise_line_scanFrom {here : Location} {text : List Char} {tokens : List Token}
    (h : scanFrom here text = .ok tokens) : tokens.Pairwise (fun a b => a.line ≤ b.line) := by
  fun_induction scanFrom here text generalizing tokens with
  | case1 here =>
    cases h
    exact List.Pairwise.nil
  | case2 here c rest kind tail hhead others hscan ih =>
    cases h
    refine List.pairwise_cons.mpr ⟨?_, ih hscan⟩
    intro token htoken
    exact (line_of_mem_scanFrom hscan htoken).1
  | case3 => cases h
  | case4 here c rest hhead ih => exact ih h
  | case5 => cases h

theorem exists_scanFrom_above {here : Location} {front back : List Char} {tokens : List Token}
    (h : scanFrom here (front ++ '\n' :: back) = .ok tokens) :
    ∃ above below, tokens = above ++ below ∧ scanFrom here front = .ok above ∧
      (∀ token ∈ above, token.line ≤ here.line + front.count '\n') ∧
      ∀ token ∈ below, here.line + front.count '\n' < token.line := by
  rw [scanFrom_append_newline] at h
  split at h
  · cases h
  · next above habove =>
    split at h
    · cases h
    · next below hbelow =>
      cases h
      refine ⟨above, below, rfl, habove, ?_, ?_⟩
      · intro token htoken
        exact (line_of_mem_scanFrom habove htoken).2.1
      · intro token htoken
        exact Int.lt_of_add_one_le (line_of_mem_scanFrom hbelow htoken).1

theorem joinLines_append {front back : List (List Char)} (hfront : front ≠ []) (hback : back ≠ []) :
    joinLines (front ++ back) = joinLines front ++ '\n' :: joinLines back := by
  induction front with
  | nil => exact absurd rfl hfront
  | cons line rest ih =>
    obtain ⟨next, more, rfl⟩ := List.exists_cons_of_ne_nil hback
    cases rest with
    | nil => rfl
    | cons second rest =>
      have hrest := ih (List.cons_ne_nil _ _)
      simp only [List.cons_append, joinLines] at hrest ⊢
      rw [hrest]
      simp

theorem count_newline_joinLines {lines : List (List Char)} (h : ∀ line ∈ lines, '\n' ∉ line) :
    (joinLines lines).count '\n' = lines.length - 1 := by
  induction lines with
  | nil => rfl
  | cons line rest ih =>
    have hline : line.count '\n' = 0 := List.count_eq_zero.mpr (h line List.mem_cons_self)
    have hrest := ih fun other hother => h other (List.mem_cons_of_mem _ hother)
    cases rest with
    | nil => simpa [joinLines] using hline
    | cons next rest =>
      simp only [joinLines, List.count_append, List.count_cons_self, hline, hrest,
        List.length_cons]
      omega

theorem count_newline (text : List Char) : text.count '\n' = (linesOf text).length - 1 := by
  calc text.count '\n' = (joinLines (linesOf text)).count '\n' := by rw [joinLines_linesOf]
    _ = (linesOf text).length - 1 :=
      count_newline_joinLines fun line hline => newline_notMem_of_mem_linesOf hline

theorem exists_joinLines_take {text : List Char} {n : Nat} (hpos : 0 < n)
    (hlt : n < (linesOf text).length) :
    ∃ back, text = joinLines ((linesOf text).take n) ++ '\n' :: back ∧
      (joinLines ((linesOf text).take n)).count '\n' = n - 1 := by
  have hlength : ((linesOf text).take n).length = n := by
    rw [List.length_take, Nat.min_eq_left (Nat.le_of_lt hlt)]
  have hfront : (linesOf text).take n ≠ [] := by
    apply List.ne_nil_of_length_pos
    rwa [hlength]
  have hback : (linesOf text).drop n ≠ [] := by
    apply List.ne_nil_of_length_pos
    rw [List.length_drop]
    omega
  have hlines : ∀ line ∈ (linesOf text).take n, '\n' ∉ line := by
    intro line hline
    exact newline_notMem_of_mem_linesOf (List.mem_of_mem_take hline)
  refine ⟨joinLines ((linesOf text).drop n), ?_, ?_⟩
  · rw [← joinLines_append hfront hback, List.take_append_drop, joinLines_linesOf]
  · rw [count_newline_joinLines hlines, hlength]

/-- The first `n` lines of a text, or all of them if there are fewer. -/
def firstLines (n : Nat) (source : String) : String :=
  String.ofList (joinLines ((linesOf source.toList).take n))

theorem exists_scan_firstLines {source : String} {tokens : List Token}
    (h : scan source = .ok tokens) (n : Nat) :
    ∃ front back, tokens = front ++ back ∧ scan (firstLines n source) = .ok front ∧
      (∀ token ∈ front, token.line < n) ∧ ∀ token ∈ back, n ≤ token.line := by
  have hline {token : Token} (htoken : token ∈ tokens) := line_of_mem_scanFrom h htoken
  rw [scan] at h
  simp only [scan, firstLines, String.toList_ofList]
  simp only [Location.origin] at hline
  rcases Nat.eq_zero_or_pos n with rfl | hpos
  · refine ⟨[], tokens, rfl, ?_, by simp, ?_⟩
    · rw [List.take_zero, joinLines, scanFrom]
    · intro token htoken
      exact (hline htoken).1
  · rcases Nat.lt_or_ge n (linesOf source.toList).length with hlt | hge
    · obtain ⟨rest, htext, hcount⟩ := exists_joinLines_take hpos hlt
      rw [htext] at h
      obtain ⟨front, back, rfl, hscan, hfront, hback⟩ := exists_scanFrom_above h
      simp only [Location.origin, hcount] at hfront hback
      refine ⟨front, back, rfl, hscan, ?_, ?_⟩
      · intro token htoken
        have hle := hfront token htoken
        omega
      · intro token htoken
        have hlt := hback token htoken
        omega
    · refine ⟨tokens, [], by simp, ?_, ?_, by simp⟩
      · rw [List.take_of_length_le hge, joinLines_linesOf]
        exact h
      · intro token htoken
        have hle := (hline htoken).2.1
        rw [count_newline] at hle
        omega

end Calculator
