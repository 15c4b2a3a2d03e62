import Mathlib.Control.Monad.Basic
import Calculator.Session
import Calculator.Proofs.Evaluation.Walk
import Calculator.Proofs.Program.Statements

/-! # A failed run stops between two statements

A text that cannot be read changes nothing. A text that fails at a name leaves the table that the
lines before that name leave by themselves, so that the failing line has no effect, nor has any line
after it.
-/
namespace Calculator

namespace StatementLines

theorem table_of_undefined {lines : List Line} {statements : List Node}
    (h : StatementLines lines statements) {n : Int} (hfrom : ∀ line ∈ lines, n ≤ line.number)
    {table : SymbolTable} {name : String} {location : Location} (hlocation : location.line = n)
    (herror : (Node.evaluateAll statements table).result = .error (.undefined name location)) :
    (Node.evaluateAll statements table).table = table := by
  cases lines with
  | nil =>
    obtain rfl : statements = [] := by simpa using h.statements_eq.symm
    rfl
  | cons line lines =>
    obtain ⟨node, rest, rfl, hnode, hrest⟩ := h.exists_cons
    rw [Node.evaluateAll_cons] at herror ⊢
    rcases Evaluation.error_of_andThen herror with ⟨hfirst, htable⟩ | ⟨value, _, hothers, _⟩
    · rw [htable, hnode.isStatement.meaning_of_error hfirst]
    · rcases Evaluation.error_of_andThen hothers with ⟨hothers, _⟩ | ⟨values, _, hnone, _⟩
      · -- A name on a later line stands below line `n`.
        obtain ⟨other, hother, hnumber⟩ := hrest.exists_line_of_undefined hothers
        have hlt := (List.pairwise_cons.mp h.ascending).1 other hother
        have hle := hfrom line List.mem_cons_self
        omega
      · cases hnone

end StatementLines

namespace Session

/-- A run of a text that can be read, with its tokens and statements. -/
structure Evaluates (session : Session) (source : String) (tokens : List Token)
    (statements : List Node) : Prop where
  scan_eq : scan source = .ok tokens
  statements_eq : (Line.ofTokens tokens).map Line.statement = statements.map .ok
  result_eq : (session.run source).result =
    (Node.evaluateAll statements session.table).result.mapError .eval
  table_eq : (session.run source).session.table =
    (Node.evaluateAll statements session.table).table
  value_of_ok : ∀ results, (session.run source).result = .ok results →
    (session.run source).session.value = results.getLast?
  value_of_error : ∀ e, (session.run source).result = .error e →
    (session.run source).session.value = session.value

theorem run_of_scan_error (session : Session) {source : String} {e : LexicalError}
    (hscan : scan source = .error e) : session.run source = ⟨.error (.lexical e), session, []⟩ := by
  simp [run, hscan]

theorem run_of_parse_error (session : Session) {source : String} {tokens : List Token}
    (hscan : scan source = .ok tokens) {e : ParseError} (hparse : parse tokens = .error e) :
    session.run source = ⟨.error (.parse e), session, (Parsing.ofTokens tokens).log⟩ := by
  have hresult : (Parsing.ofTokens tokens).result = .error e := hparse
  simp [run, hscan, runParsing, hresult]

theorem run_eq_evaluate (session : Session) {source : String} {tokens : List Token}
    (hscan : scan source = .ok tokens) {program : Program} (hparse : parse tokens = .ok program) :
    (session.run source).result = (session.evaluate program).result ∧
      (session.run source).session = (session.evaluate program).session := by
  have hresult : (Parsing.ofTokens tokens).result = .ok program := hparse
  simp [run, hscan, runParsing, hresult]

theorem evaluates_of_scan (session : Session) {source : String} {tokens : List Token}
    (hscan : scan source = .ok tokens) {statements : List Node}
    (hstatements : (Line.ofTokens tokens).map Line.statement = statements.map .ok) :
    Evaluates session source tokens statements := by
  have hparse := (parse_eq_ok_iff tokens _).mpr ⟨statements, hstatements, rfl⟩
  obtain ⟨hresult, hsession⟩ := session.run_eq_evaluate hscan hparse
  simp only [evaluate, Program.evaluate, Program.ofStatements] at hresult hsession
  cases hdone : (Node.evaluateAll statements session.table).result with
  | error e =>
    rw [hdone] at hresult hsession
    refine ⟨hscan, hstatements, by rw [hresult, hdone]; rfl, by rw [hsession], ?_, ?_⟩
    · intro results h
      rw [hresult] at h
      cases h
    · intro _ _
      rw [hsession]
  | ok results =>
    rw [hdone] at hresult hsession
    refine ⟨hscan, hstatements, by rw [hresult, hdone]; rfl, by rw [hsession], ?_, ?_⟩
    · intro others h
      rw [hresult] at h
      cases h
      rw [hsession]
    · intro e h
      rw [hresult] at h
      cases h

/-- A text that cannot be read leaves the session alone; any other is evaluated. -/
theorem run_cases (session : Session) (source : String) :
    ((∃ e, (session.run source).result = .error (.lexical e)) ∨
      (∃ e, (session.run source).result = .error (.parse e))) ∧
      (session.run source).session = session ∨
    ∃ tokens statements, Evaluates session source tokens statements := by
  cases hscan : scan source with
  | error e =>
    rw [session.run_of_scan_error hscan]
    exact Or.inl ⟨Or.inl ⟨e, rfl⟩, rfl⟩
  | ok tokens =>
    cases hparse : parse tokens with
    | error e =>
      rw [session.run_of_parse_error hscan hparse]
      exact Or.inl ⟨Or.inr ⟨e, rfl⟩, rfl⟩
    | ok program =>
      obtain ⟨statements, hstatements, _⟩ := (parse_eq_ok_iff tokens program).mp hparse
      exact Or.inr ⟨tokens, statements, session.evaluates_of_scan hscan hstatements⟩

section Evaluates

variable {session : Session} {source : String} {tokens : List Token} {statements : List Node}

theorem Evaluates.result_eq_error_iff (h : Evaluates session source tokens statements) (e : EvalError) :
    (session.run source).result = .error (.eval e) ↔
      (Node.evaluateAll statements session.table).result = .error e := by
  rw [h.result_eq]
  cases (Node.evaluateAll statements session.table).result with
  | ok results =>
    constructor
    · intro herror
      cases herror
    · intro herror
      cases herror
  | error other =>
    constructor
    · intro herror
      cases herror
      rfl
    · intro herror
      cases herror
      rfl

theorem Evaluates.result_eq_ok_iff (h : Evaluates session source tokens statements)
    (results : List Float) :
    (session.run source).result = .ok results ↔
      (Node.evaluateAll statements session.table).result = .ok results := by
  rw [h.result_eq]
  cases (Node.evaluateAll statements session.table).result with
  | ok others =>
    constructor
    · intro hok
      cases hok
      rfl
    · intro hok
      cases hok
      rfl
  | error e =>
    constructor
    · intro hok
      cases hok
    · intro hok
      cases hok

theorem Evaluates.exists_eval_of_error (h : Evaluates session source tokens statements)
    {e : RunError} (herror : (session.run source).result = .error e) :
    ∃ other, e = .eval other := by
  cases hdone : (Node.evaluateAll statements session.table).result with
  | ok results =>
    have hok := (h.result_eq_ok_iff results).mpr hdone
    rw [hok] at herror
    cases herror
  | error other =>
    have hfailed := (h.result_eq_error_iff other).mpr hdone
    rw [hfailed] at herror
    exact ⟨other, (Except.error.inj herror).symm⟩

/-- Cut above line `n`, the statements of a text are those that the lines before line `n` have by
themselves, and those of the other lines. -/
theorem Evaluates.exists_cut (h : Evaluates session source tokens statements) (n : Nat) :
    ∃ front before lines after, statements = before ++ after ∧
      Evaluates session (firstLines n source) front before ∧
      (∀ token ∈ front, token.line < n) ∧ StatementLines lines after ∧
      ∀ line ∈ lines, n ≤ line.number := by
  have hlines := StatementLines.of_scan h.scan_eq h.statements_eq
  obtain ⟨front, back, rfl, hscan, hfront, hback⟩ := exists_scan_firstLines h.scan_eq n
  have hcut : Line.ofTokens (front ++ back) = Line.ofTokens front ++ Line.ofTokens back := by
    apply Line.ofTokens_append
    intro a ha b hb
    have hlt := hfront a (List.mem_of_getLast? ha)
    have hle := hback b (List.mem_of_head? hb)
    omega
  have hsplit := h.statements_eq
  rw [hcut] at hlines
  rw [hcut, List.map_append] at hsplit
  obtain ⟨before, after, rfl, hbefore, hafter⟩ := List.map_eq_append_iff.mp hsplit.symm
  refine ⟨front, before, Line.ofTokens back, after, rfl, session.evaluates_of_scan hscan hbefore.symm,
    hfront, hlines.right hafter.symm, ?_⟩
  intro line hline
  obtain ⟨token, htoken, heq⟩ := Line.exists_mem_of_mem_ofTokens hline
  rw [← heq]
  exact hback token htoken

theorem Evaluates.exists_token_of_undefined (h : Evaluates session source tokens statements)
    {name : String} {location : Location}
    (herror : (Node.evaluateAll statements session.table).result = .error (.undefined name location)) :
    ∃ token ∈ tokens, token.line = location.line := by
  have hlines := StatementLines.of_scan h.scan_eq h.statements_eq
  obtain ⟨line, hline, hnumber⟩ := hlines.exists_line_of_undefined herror
  obtain ⟨token, htoken, heq⟩ := Line.exists_mem_of_mem_ofTokens hline
  exact ⟨token, htoken, heq.trans hnumber.symm⟩

theorem Evaluates.exists_line (h : Evaluates session source tokens statements) {name : String}
    {location : Location}
    (herror : (Node.evaluateAll statements session.table).result = .error (.undefined name location)) :
    ∃ n : Nat, n < (linesOf source.toList).length ∧ location.line = n := by
  obtain ⟨token, htoken, heq⟩ := h.exists_token_of_undefined herror
  obtain ⟨hlow, hhigh, _⟩ := line_of_mem_scanFrom h.scan_eq htoken
  have hpos := List.length_pos_iff.mpr (linesOf_ne_nil source.toList)
  rw [count_newline] at hhigh
  simp only [Location.origin] at hlow hhigh
  exact ⟨location.line.toNat, by omega, by omega⟩

/-- When a name on line `n` is reported, the lines before it run by themselves and leave the same
table. -/
theorem Evaluates.run_firstLines (h : Evaluates session source tokens statements) {name : String}
    {location : Location} {n : Nat} (hn : location.line = n)
    (herror : (Node.evaluateAll statements session.table).result = .error (.undefined name location)) :
    (∃ results, (session.run (firstLines n source)).result = .ok results) ∧
      (session.run source).session.table = (session.run (firstLines n source)).session.table := by
  obtain ⟨front, before, lines, after, rfl, hfirst, hfront, hlines, hfrom⟩ := h.exists_cut n
  have htable := h.table_eq
  rw [Node.evaluateAll_append] at herror htable
  rcases Evaluation.error_of_andThen herror with ⟨hearly, _⟩ | ⟨values, hvalues, hrest, hleft⟩
  · -- The lines before line `n` report no name on line `n`.
    obtain ⟨token, htoken, heq⟩ := hfirst.exists_token_of_undefined hearly
    have hlt := hfront token htoken
    omega
  · refine ⟨⟨values, (hfirst.result_eq_ok_iff values).mpr hvalues⟩, ?_⟩
    rw [htable, hleft, hfirst.table_eq]
    rcases Evaluation.error_of_andThen hrest with ⟨hlate, hsame⟩ | ⟨more, _, hnone, _⟩
    · rw [hsame]
      exact hlines.table_of_undefined hfrom hn hlate
    · cases hnone

theorem Evaluates.getLast?_eq_none_iff (h : Evaluates session source tokens statements)
    {results : List Float} (hresults : (session.run source).result = .ok results) :
    results.getLast? = none ↔ scan source = .ok [] := by
  have hlength := Node.length_of_evaluateAll ((h.result_eq_ok_iff results).mp hresults)
  have hstatements := congrArg List.length h.statements_eq
  rw [List.length_map, List.length_map] at hstatements
  rw [List.getLast?_eq_none_iff, ← List.length_eq_zero_iff, hlength, ← hstatements,
    List.length_eq_zero_iff, Line.ofTokens_eq_nil_iff, h.scan_eq, Except.ok.injEq]

end Evaluates

/-- A run is atomic in each statement. If the text cannot be read, the session is as it was. If a
name on line `n` is reported, the value is as it was, and the table is the one that the lines before
line `n` leave by themselves, which they do without an error. If the run succeeds, the value is the
last result, and there is none exactly when the text has no token. -/
theorem run_atomic (session : Session) (source : String) :
    (∀ e, (session.run source).result = .error (.lexical e) →
      (session.run source).session = session) ∧
    (∀ e, (session.run source).result = .error (.parse e) →
      (session.run source).session = session) ∧
    (∀ name location, (session.run source).result = .error (.eval (.undefined name location)) →
      (session.run source).session.value = session.value ∧
      ∃ n : Nat, n < (linesOf source.toList).length ∧ location.line = n ∧
        (∃ results, (session.run (firstLines n source)).result = .ok results) ∧
        (session.run source).session.table = (session.run (firstLines n source)).session.table) ∧
    ∀ results, (session.run source).result = .ok results →
      (session.run source).session.value = results.getLast? ∧
      ((session.run source).session.value = none ↔ scan source = .ok []) := by
  rcases session.run_cases source with ⟨hresult, hsession⟩ | ⟨tokens, statements, h⟩
  · refine ⟨fun _ _ => hsession, fun _ _ => hsession, ?_, ?_⟩
    · intro name location herror
      rcases hresult with ⟨e, hresult⟩ | ⟨e, hresult⟩ <;> simp [hresult] at herror
    · intro results hok
      rcases hresult with ⟨e, hresult⟩ | ⟨e, hresult⟩ <;> simp [hresult] at hok
  · refine ⟨?_, ?_, ?_, ?_⟩
    · intro e herror
      obtain ⟨other, hother⟩ := h.exists_eval_of_error herror
      cases hother
    · intro e herror
      obtain ⟨other, hother⟩ := h.exists_eval_of_error herror
      cases hother
    · intro name location herror
      have hdone := (h.result_eq_error_iff _).mp herror
      obtain ⟨n, hlt, hn⟩ := h.exists_line hdone
      obtain ⟨hok, htable⟩ := h.run_firstLines hn hdone
      exact ⟨h.value_of_error _ herror, n, hlt, hn, hok, htable⟩
    · intro results hok
      have hvalue := h.value_of_ok results hok
      refine ⟨hvalue, ?_⟩
      rw [hvalue]
      exact h.getLast?_eq_none_iff hok

theorem run_atomic_of_undefined_name :
    ((Session.mk (.ofList [("z", 1.0)]) none).run "x = z\ny = w\nz = x").result =
      .error (.eval (.undefined "w" ⟨1, 4⟩)) ∧
    ((Session.mk (.ofList [("z", 1.0)]) none).run "x = z\ny = w\nz = x").session.table =
      ((Session.mk (.ofList [("z", 1.0)]) none).run
        (firstLines 1 "x = z\ny = w\nz = x")).session.table := by
  have hscan : scan "x = z\ny = w\nz = x" = .ok
      [⟨.identifier, "x", ⟨0, 0⟩⟩, ⟨.assign, "=", ⟨0, 2⟩⟩, ⟨.identifier, "z", ⟨0, 4⟩⟩,
        ⟨.identifier, "y", ⟨1, 0⟩⟩, ⟨.assign, "=", ⟨1, 2⟩⟩, ⟨.identifier, "w", ⟨1, 4⟩⟩,
        ⟨.identifier, "z", ⟨2, 0⟩⟩, ⟨.assign, "=", ⟨2, 2⟩⟩, ⟨.identifier, "x", ⟨2, 4⟩⟩] := by
    decide +kernel
  let statements : List Node :=
    [.assignment "x" (.identifier "z" ⟨0, 4⟩) ⟨0, 2⟩, .assignment "y" (.identifier "w" ⟨1, 4⟩) ⟨1, 2⟩,
      .assignment "z" (.identifier "x" ⟨2, 4⟩) ⟨2, 2⟩]
  have hevaluates : Evaluates (.mk (.ofList [("z", 1.0)]) none) _ _ statements :=
    evaluates_of_scan _ hscan rfl
  have hrun := (hevaluates.result_eq_error_iff (.undefined "w" ⟨1, 4⟩)).mpr
    ((Node.evaluateAll_eq_error_iff _ _ _).mpr rfl)
  refine ⟨hrun, ?_⟩
  obtain ⟨_, n, _, hn, _, htable⟩ := (run_atomic (.mk (.ofList [("z", 1.0)]) none)
    "x = z\ny = w\nz = x").2.2.1 "w" ⟨1, 4⟩ hrun
  obtain rfl : n = 1 := (Int.ofNat.inj hn).symm
  exact htable

end Session

end Calculator
