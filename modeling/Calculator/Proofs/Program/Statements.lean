import Calculator.Proofs.Evaluation.Statements
import Calculator.Proofs.Program.Lines
import Calculator.Proofs.Scan.Lines

/-! # The lines of a program and their statements

Each line of a text that can be parsed is a sentence of the grammar, and the lines stand below each
other. What the statements report when they are evaluated, the statement of one line reports, and it
is a name among the tokens of that line.
-/
namespace Calculator

/-- The lines of tokens whose statements are the given trees, in ascending order. -/
structure StatementLines (lines : List Line) (statements : List Node) : Prop where
  statements_eq : lines.map Line.statement = statements.map .ok
  readable : ∀ line ∈ lines, ∀ token ∈ line.tokens, token.Readable
  same_line : ∀ line ∈ lines, ∀ token ∈ line.tokens, token.line = line.number
  ascending : lines.Pairwise (fun a b => a.number < b.number)

namespace StatementLines

theorem exists_cons {line : Line} {lines : List Line} {statements : List Node}
    (h : StatementLines (line :: lines) statements) :
    ∃ node rest, statements = node :: rest ∧ Sentence line.tokens node ∧
      StatementLines lines rest := by
  obtain ⟨heq, hreadable, hsame, hascending⟩ := h
  cases statements with
  | nil => simp at heq
  | cons node rest =>
    simp only [List.map_cons, List.cons.injEq] at heq
    have hline := hreadable line List.mem_cons_self
    have hnode := (line.statement_eq_ok_iff_sentence hline node).mp heq.1
    refine ⟨node, rest, rfl, hnode, heq.2, ?_, ?_, (List.pairwise_cons.mp hascending).2⟩
    · intro other hother
      exact hreadable other (List.mem_cons_of_mem _ hother)
    · intro other hother
      exact hsame other (List.mem_cons_of_mem _ hother)

theorem of_scan {source : String} {tokens : List Token} (hscan : scan source = .ok tokens)
    {statements : List Node}
    (h : (Line.ofTokens tokens).map Line.statement = statements.map .ok) :
    StatementLines (Line.ofTokens tokens) statements where
  statements_eq := h
  readable := fun _ hline _ htoken =>
    readable_of_scan hscan _ (Line.mem_of_mem_ofTokens hline htoken)
  same_line := fun _ hline _ htoken => Line.line_eq_number_of_mem hline htoken
  ascending := Line.pairwise_number_ofTokens (pairwise_line_scanFrom hscan)

theorem right {front back : List Line} {statements more : List Node}
    (h : StatementLines (front ++ back) statements)
    (hmore : back.map Line.statement = more.map .ok) : StatementLines back more where
  statements_eq := hmore
  readable := fun line hline => h.readable line (List.mem_append_right _ hline)
  same_line := fun line hline => h.same_line line (List.mem_append_right _ hline)
  ascending := (List.pairwise_append.mp h.ascending).2.1

theorem exists_sentence {lines : List Line} {statements : List Node}
    (h : StatementLines lines statements) {node : Node} (hnode : node ∈ statements) :
    ∃ line ∈ lines, Sentence line.tokens node := by
  have hmem : (.ok node : Except LineFailure Node) ∈ lines.map Line.statement := by
    rw [h.statements_eq]
    exact List.mem_map_of_mem hnode
  obtain ⟨line, hline, hstatement⟩ := List.mem_map.mp hmem
  have hreadable := h.readable line hline
  exact ⟨line, hline, (line.statement_eq_ok_iff_sentence hreadable node).mp hstatement⟩

theorem exists_of_error {lines : List Line} {statements : List Node}
    (h : StatementLines lines statements) {table : SymbolTable} {e : EvalError}
    (herror : (Node.evaluateAll statements table).result = .error e) :
    ∃ line ∈ lines, ∃ node table, Sentence line.tokens node ∧
      (node.meaning table).result = .error e := by
  induction lines generalizing statements table with
  | nil =>
    obtain rfl : statements = [] := by simpa using h.statements_eq.symm
    cases herror
  | cons line lines ih =>
    obtain ⟨node, rest, rfl, hnode, hrest⟩ := h.exists_cons
    rw [Node.evaluateAll_cons] at herror
    rcases Evaluation.error_of_andThen herror with ⟨hfirst, _⟩ | ⟨value, _, hothers, _⟩
    · exact ⟨line, List.mem_cons_self, node, table, hnode, hfirst⟩
    · rcases Evaluation.error_of_andThen hothers with ⟨hothers, _⟩ | ⟨values, _, hnone, _⟩
      · obtain ⟨other, hother, hreports⟩ := ih hrest hothers
        exact ⟨other, List.mem_cons_of_mem _ hother, hreports⟩
      · cases hnone

theorem exists_token_of_undefined {lines : List Line} {statements : List Node}
    (h : StatementLines lines statements) {table : SymbolTable} {name : String} {location : Location}
    (herror : (Node.evaluateAll statements table).result = .error (.undefined name location)) :
    ∃ line ∈ lines, ∃ token ∈ line.tokens, token.kind = .identifier ∧ token.lexeme = name ∧
      token.location = location := by
  obtain ⟨line, hline, node, _, hnode, hreports⟩ := h.exists_of_error herror
  exact ⟨line, hline, hnode.exists_token_of_undefined hreports⟩

theorem exists_line_of_undefined {lines : List Line} {statements : List Node}
    (h : StatementLines lines statements) {table : SymbolTable} {name : String} {location : Location}
    (herror : (Node.evaluateAll statements table).result = .error (.undefined name location)) :
    ∃ line ∈ lines, location.line = line.number := by
  obtain ⟨line, hline, token, htoken, _, _, rfl⟩ := h.exists_token_of_undefined herror
  exact ⟨line, hline, h.same_line line hline token htoken⟩

theorem undefined_of_error {lines : List Line} {statements : List Node}
    (h : StatementLines lines statements) {table : SymbolTable} {e : EvalError}
    (herror : (Node.evaluateAll statements table).result = .error e) :
    ∃ name location, e = .undefined name location := by
  obtain ⟨_, _, node, _, hnode, hreports⟩ := h.exists_of_error herror
  exact hnode.isStatement.undefined_of_error hreports

end StatementLines

theorem isStatement_of_parse {source : String} {tokens : List Token}
    (hscan : scan source = .ok tokens) {program : Program} (hparse : parse tokens = .ok program) :
    ∀ statement ∈ program.statements, statement.IsStatement := by
  obtain ⟨statements, hstatements, rfl⟩ := (parse_eq_ok_iff tokens program).mp hparse
  intro statement hmem
  obtain ⟨_, _, hsentence⟩ := (StatementLines.of_scan hscan hstatements).exists_sentence hmem
  exact hsentence.isStatement

end Calculator
