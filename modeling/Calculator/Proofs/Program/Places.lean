import Calculator.Proofs.Evaluation.Walk
import Calculator.Proofs.Program.Reading
import Calculator.Proofs.Program.Statements
import Calculator.Proofs.Scan.Places

/-! # Reported places are places of the text

A node of a program stands at the token that it is made from, and a name without a value at the
token that reads it. A refused line is reported at one of its tokens, or at its last character that
is not blank.
-/
namespace Calculator

/-- A node that stands in a tree, at its root or anywhere below. -/
inductive Node.Within (node : Node) : Node → Prop where
  | self : Within node node
  | child {child tree : Node} : child ∈ tree.children → Within node child → Within node tree

/-- The node that is made from a token: it has the place of the token, and what it says is what the
token spells. -/
inductive Token.Marks (token : Token) : Node → Prop where
  | number {value : Float} : token.kind = .number → Literal.value? token.lexeme = some value →
      Marks token (.number value token.location)
  | identifier : token.kind = .identifier → Marks token (.identifier token.lexeme token.location)
  | operator {op : Operator} {l r : Node} : token.kind = .operator op → token.lexeme = op.symbol →
      Marks token (.binary op l r token.location)
  | assign {name : String} {value : Node} : token.kind = .assign → token.lexeme = "=" →
      Marks token (.assignment name value token.location)

theorem Token.Marks.of_binary {token : Token} {op : Operator} {l r : Node} {location : Location}
    (h : token.Marks (.binary op l r location)) :
    token.location = location ∧ token.lexeme = op.symbol := by
  cases h with
  | operator _ hlexeme => exact ⟨rfl, hlexeme⟩

/-- Every node of an expression is made from one of its tokens. -/
theorem Derives.exists_marks {symbol : Nonterminal} {tokens : List Token} {tree : Node}
    (h : Derives symbol tokens tree) {node : Node} (hnode : node.Within tree) :
    ∃ token ∈ tokens, token.Spelled → token.Marks node := by
  induction h with
  | @number token value hkind hvalue =>
    cases hnode with
    | self => exact ⟨token, List.mem_singleton_self _, fun _ => .number hkind hvalue⟩
    | child hchild => cases hchild
  | @identifier token hkind =>
    cases hnode with
    | self => exact ⟨token, List.mem_singleton_self _, fun _ => .identifier hkind⟩
    | child hchild => cases hchild
  | group _ _ _ ih =>
    obtain ⟨token, htoken, hmarks⟩ := ih hnode
    exact ⟨token, by simp [htoken], hmarks⟩
  | tighter _ ih => exact ih hnode
  | @binary op sign left right l r _ hsign _ ihleft ihright =>
    cases hnode with
    | self =>
      refine ⟨sign, by simp, fun hspelled => .operator hsign (hspelled _ ?_)⟩
      rw [hsign]
      rfl
    | child hchild hbelow =>
      rcases List.mem_pair.mp hchild with rfl | rfl
      · obtain ⟨token, htoken, hmarks⟩ := ihleft hbelow
        exact ⟨token, by simp [htoken], hmarks⟩
      · obtain ⟨token, htoken, hmarks⟩ := ihright hbelow
        exact ⟨token, by simp [htoken], hmarks⟩

theorem Sentence.exists_marks {tokens : List Token} {tree : Node} (h : Sentence tokens tree)
    {node : Node} (hnode : node.Within tree) :
    ∃ token ∈ tokens, token.Spelled → token.Marks node := by
  cases h with
  | expression h => exact h.exists_marks hnode
  | @assignment name sign tokens value hname hsign h =>
    cases hnode with
    | self =>
      refine ⟨sign, by simp, fun hspelled => .assign hsign (hspelled _ ?_)⟩
      rw [hsign]
      rfl
    | child hchild hbelow =>
      obtain rfl := List.mem_singleton.mp hchild
      obtain ⟨token, htoken, hmarks⟩ := h.exists_marks hbelow
      exact ⟨token, by simp [htoken], hmarks⟩

theorem Line.exists_split_last {tokens : List Token}
    (h : tokens.Pairwise (fun a b => a.line ≤ b.line)) {line : Line} (hline : line ∈ ofTokens tokens) :
    ∃ before after, tokens = before ++ line.last :: after ∧
      ∀ other ∈ after, other.line ≠ line.last.line := by
  obtain ⟨front, back, hsplit⟩ := List.append_of_mem hline
  have hlast : line.last.line = line.number :=
    line_eq_number_of_mem hline (List.getLast_mem line.tokens_ne_nil)
  have hlater : ∀ later ∈ back, line.number < later.number := by
    have hascending := pairwise_number_ofTokens h
    rw [hsplit] at hascending
    exact (List.pairwise_cons.mp (List.pairwise_append.mp hascending).2.1).1
  refine ⟨front.flatMap Line.tokens ++ line.tokens.dropLast, back.flatMap Line.tokens, ?_, ?_⟩
  · have hparts : line.tokens.dropLast ++ [line.last] = line.tokens :=
      List.dropLast_append_getLast line.tokens_ne_nil
    rw [← flatMap_tokens_ofTokens tokens, hsplit, List.flatMap_append, List.flatMap_cons, ← hparts]
    simp
  · intro other hother
    obtain ⟨later, hmem, hother⟩ := List.mem_flatMap.mp hother
    have hlines : later ∈ ofTokens tokens := by simp [hsplit, hmem]
    have hnumber : other.line = later.number := line_eq_number_of_mem hlines hother
    have hlt := hlater later hmem
    omega

/-- A refusal points at the text that it reports, or at the end of a line. -/
def LineError.PointsInto (source : String) : LineError → Prop
  | unexpectedToken lexeme location | unclosedParen (some lexeme) location =>
    StandsAt source location lexeme
  | unexpectedEnd location | unclosedParen none location => EndsLineAt source location

theorem LineError.Reports.pointsInto {source : String} {tokens : List Token} {lineEnd : Location}
    {e : LineError} (h : e.Reports tokens lineEnd)
    (htokens : ∀ token ∈ tokens, StandsAt source token.location token.lexeme)
    (hend : EndsLineAt source lineEnd) : e.PointsInto source := by
  cases h with
  | unexpectedToken htoken | unclosedParen htoken => exact htokens _ htoken
  | unexpectedEnd | unclosedAtEnd => exact hend

theorem LineError.Reports.line_eq {tokens : List Token} {lineEnd : Location} {e : LineError}
    (h : e.Reports tokens lineEnd) (htokens : ∀ token ∈ tokens, token.line = lineEnd.line) :
    e.location.line = lineEnd.line := by
  cases h with
  | unexpectedToken htoken | unclosedParen htoken => exact htokens _ htoken
  | unexpectedEnd | unclosedAtEnd => rfl

theorem Line.pointsInto_of_refused {source : String} {tokens : List Token}
    (hscan : scan source = .ok tokens) {line : Line} (hline : line ∈ ofTokens tokens)
    {error : LineError} (hrefused : line.statement = .error (.refused error)) :
    error.location.line = line.number ∧ error.PointsInto source := by
  have hmem : ∀ token ∈ line.tokens, token ∈ tokens := fun _ htoken =>
    mem_of_mem_ofTokens hline htoken
  have hnumber : ∀ token ∈ line.tokens, token.line = line.number := fun _ htoken =>
    line_eq_number_of_mem hline htoken
  have hreports : error.Reports line.tokens line.last.endLocation := by
    rcases line.statement_cases (fun token htoken =>
      readable_of_scan hscan token (hmem token htoken)) with ⟨node, hnode⟩ | ⟨e, he, hreports⟩
    · simp [hnode] at hrefused
    · obtain rfl : e = error := by simpa [he] using hrefused
      rw [← line.endLocation_eq]
      exact hreports
  have hlast : line.last.endLocation.line = line.number :=
    hnumber _ (List.getLast_mem line.tokens_ne_nil)
  obtain ⟨before, after, rfl, hafter⟩ := exists_split_last (pairwise_line_scanFrom hscan) hline
  refine ⟨?_, hreports.pointsInto ?_ (endsLineAt_of_scan hscan hafter)⟩
  · rw [← hlast] at hnumber ⊢
    exact hreports.line_eq hnumber
  · intro token htoken
    exact (standsAt_of_scan hscan (hmem token htoken)).1

/-- What is reported of a text stands in it at the reported place. Every node of a program is made
from a token at its place; a name without a value is read there; and a line that is no statement is
refused at a token of that line or at the end of it. -/
theorem reported_places_stand {source : String} {tokens : List Token}
    (hscan : scan source = .ok tokens) :
    (∀ program, parse tokens = .ok program →
      (∀ tree ∈ program.statements, ∀ node, node.Within tree →
        ∃ token ∈ tokens, token.Marks node ∧ StandsAt source token.location token.lexeme) ∧
      ∀ table name location, (program.evaluate table).result = .error (.undefined name location) →
        ∃ token ∈ tokens, token.kind = .identifier ∧ token.lexeme = name ∧
          token.location = location ∧ StandsAt source location name) ∧
    ∀ e, parse tokens = .error e → ∃ errors, e = .refused errors ∧
      ∀ error ∈ errors, ∃ line ∈ Line.ofTokens tokens, line.statement = .error (.refused error) ∧
        error.location.line = line.number ∧ error.PointsInto source := by
  constructor
  · intro program hparse
    obtain ⟨statements, hstatements, rfl⟩ := (parse_eq_ok_iff tokens program).mp hparse
    have hlines := StatementLines.of_scan hscan hstatements
    constructor
    · intro tree htree node hnode
      obtain ⟨line, hline, hsentence⟩ := hlines.exists_sentence htree
      obtain ⟨token, htoken, hmarks⟩ := hsentence.exists_marks hnode
      have hmem := Line.mem_of_mem_ofTokens hline htoken
      obtain ⟨hstands, hspelled⟩ := standsAt_of_scan hscan hmem
      exact ⟨token, hmem, hmarks hspelled, hstands⟩
    · intro table name location herror
      obtain ⟨line, hline, token, htoken, hkind, rfl, rfl⟩ := hlines.exists_token_of_undefined herror
      have hmem := Line.mem_of_mem_ofTokens hline htoken
      exact ⟨token, hmem, hkind, rfl, rfl, (standsAt_of_scan hscan hmem).1⟩
  · intro e hparse
    obtain ⟨rfl, _⟩ := refusalsIn_of_parse_error (readable_of_scan hscan) hparse
    refine ⟨_, rfl, ?_⟩
    intro error herror
    obtain ⟨line, hline, hrefused⟩ := exists_line_of_mem_refusalsIn herror
    exact ⟨line, hline, hrefused, Line.pointsInto_of_refused hscan hline hrefused⟩

/-- In `a` above `b = 2 * c` the product stands at its sign, and a name without a value where it is
read. In `a )` above `(b + c`, with blanks behind, the first line is refused at its parenthesis and
the second at the `c`. -/
theorem reported_places_of_texts :
    (∃ tokens product, scan "a\nb = 2 * c" = .ok tokens ∧
      parse tokens = .ok (.ofStatements [.identifier "a" ⟨0, 0⟩, .assignment "b" product ⟨1, 2⟩]) ∧
      product.location? = some ⟨1, 6⟩ ∧ StandsAt "a\nb = 2 * c" ⟨1, 6⟩ "*" ∧
      StandsAt "a\nb = 2 * c" ⟨1, 8⟩ "c") ∧
    ∃ tokens, scan "a )\n(b + c  " = .ok tokens ∧
      parse tokens = .error (.refused [.unexpectedToken ")" ⟨0, 2⟩, .unclosedParen none ⟨1, 5⟩]) ∧
      StandsAt "a )\n(b + c  " ⟨0, 2⟩ ")" ∧ EndsLineAt "a )\n(b + c  " ⟨1, 5⟩ := by
  constructor
  · obtain ⟨tokens, hscan, two, hparse⟩ : ∃ tokens, scan "a\nb = 2 * c" = .ok tokens ∧
        ∃ two, parse tokens = .ok (.ofStatements
          [.identifier "a" ⟨0, 0⟩, .assignment "b" (.binary .mul (.number two ⟨1, 4⟩)
            (.identifier "c" ⟨1, 8⟩) ⟨1, 6⟩) ⟨1, 2⟩]) :=
      ⟨[⟨.identifier, "a", ⟨0, 0⟩⟩, ⟨.identifier, "b", ⟨1, 0⟩⟩, ⟨.assign, "=", ⟨1, 2⟩⟩,
        ⟨.number, "2", ⟨1, 4⟩⟩, ⟨.operator .mul, "*", ⟨1, 6⟩⟩, ⟨.identifier, "c", ⟨1, 8⟩⟩],
        by decide +kernel, _, rfl⟩
    obtain ⟨hnodes, hnames⟩ := (reported_places_stand hscan).1 _ hparse
    obtain ⟨token, _, hmarks, hstands⟩ := hnodes _ (List.mem_cons_of_mem _ List.mem_cons_self) _
      (.child List.mem_cons_self .self)
    obtain ⟨hlocation, hlexeme⟩ := hmarks.of_binary
    obtain ⟨_, _, _, _, _, hname⟩ := hnames (NameMap.empty.insert "a" 1.0) "c" ⟨1, 8⟩
      ((Node.evaluateAll_eq_error_iff _ _ _).mpr rfl)
    rw [hlocation, hlexeme] at hstands
    exact ⟨tokens, _, hscan, hparse, rfl, hstands, hname⟩
  · obtain ⟨tokens, hscan, hparse⟩ : ∃ tokens, scan "a )\n(b + c  " = .ok tokens ∧
        parse tokens =
          .error (.refused [.unexpectedToken ")" ⟨0, 2⟩, .unclosedParen none ⟨1, 5⟩]) :=
      ⟨[⟨.identifier, "a", ⟨0, 0⟩⟩, ⟨.rightParen, ")", ⟨0, 2⟩⟩, ⟨.leftParen, "(", ⟨1, 0⟩⟩,
        ⟨.identifier, "b", ⟨1, 1⟩⟩, ⟨.operator .add, "+", ⟨1, 3⟩⟩, ⟨.identifier, "c", ⟨1, 5⟩⟩],
        by decide +kernel, rfl⟩
    obtain ⟨errors, herrors, hpoints⟩ := (reported_places_stand hscan).2 _ hparse
    obtain rfl := ParseError.refused.inj herrors
    obtain ⟨_, _, _, _, hfirst⟩ := hpoints (.unexpectedToken ")" ⟨0, 2⟩) (by simp)
    obtain ⟨_, _, _, _, hsecond⟩ := hpoints (.unclosedParen none ⟨1, 5⟩) (by simp)
    exact ⟨tokens, hscan, hparse, hfirst, hsecond⟩

end Calculator
