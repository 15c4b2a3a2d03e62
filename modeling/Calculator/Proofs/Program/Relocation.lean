import Calculator.Proofs.Evaluation.Statements
import Calculator.Proofs.Program.Lines
import Calculator.Proofs.Reading.Statement
import Calculator.Proofs.Scan.Lines

/-! # Places are only reported

Scanning, parsing and evaluating look at no place: they hand it on. What they yield for a text that
stands elsewhere is what they yield for the text, with every place changed the same way.
-/
namespace Calculator

def Token.relocate (f : Location → Location) (token : Token) : Token :=
  { token with location := f token.location }

def LexicalError.relocate (f : Location → Location) (e : LexicalError) : LexicalError :=
  { e with location := f e.location }

namespace Node

mutual

/-- A tree with every place in it changed. -/
def relocate (f : Location → Location) : Node → Node
  | number value location => number value (f location)
  | identifier name location => identifier name (f location)
  | binary op left right location => binary op (left.relocate f) (right.relocate f) (f location)
  | assignment name value location => assignment name (value.relocate f) (f location)
  | root statements location => root (relocateAll f statements) (f location)
  | missing => missing

def relocateAll (f : Location → Location) : List Node → List Node
  | [] => []
  | node :: rest => relocate f node :: relocateAll f rest

end

theorem location?_relocate (f : Location → Location) (node : Node) :
    (node.relocate f).location? = node.location?.map f := by
  cases node <;> simp [relocate, location?]

end Node

def LineError.relocate (f : Location → Location) : LineError → LineError
  | unexpectedToken lexeme location => unexpectedToken lexeme (f location)
  | unexpectedEnd location => unexpectedEnd (f location)
  | unclosedParen found location => unclosedParen found (f location)

def LineFailure.relocate (f : Location → Location) : LineFailure → LineFailure
  | refused error => refused (error.relocate f)
  | defect d => defect d

def EvalError.relocate (f : Location → Location) : EvalError → EvalError
  | undefined name location => undefined name (f location)
  | notAnExpression node => notAnExpression (node.relocate f)
  | stackExhausted => stackExhausted
  | defect d => defect d

def Pending.relocate (f : Location → Location) : Pending → Pending
  | paren => paren
  | operator op location => operator op (f location)

def Stacks.relocate (f : Location → Location) (state : Stacks) : Stacks :=
  { state with
    operands := state.operands.map (Node.relocate f)
    pending := state.pending.map (Pending.relocate f) }

def Line.relocate (f : Location → Location) (line : Line) : Line :=
  ⟨line.first.relocate f, line.rest.map (Token.relocate f)⟩

def ParseError.relocate (f : Location → Location) : ParseError → ParseError
  | refused errors => refused (errors.map (LineError.relocate f))
  | defect d => defect d

def relocated (f : Location → Location) (outcome : Except LineFailure Node) :
    Except LineFailure Node :=
  (outcome.map (Node.relocate f)).mapError (LineFailure.relocate f)

variable (f : Location → Location)

namespace Stacks

theorem fold_relocate (least : Nat) (operands : List Node) (pending : List Pending) :
    fold least (operands.map (Node.relocate f)) (pending.map (Pending.relocate f)) =
      (fold least operands pending).map fun (operands, pending) =>
        (operands.map (Node.relocate f), pending.map (Pending.relocate f)) := by
  fun_induction fold least operands pending with
  | case1 operands op location pending hlt => simp [fold, Pending.relocate, hlt, Except.map]
  | case2 op location pending hlt right left operands ih =>
    rw [← ih]
    simp only [List.map_cons, Pending.relocate, Node.relocate]
    exact fold_operator (Nat.le_of_not_lt hlt) _ _ _ _ _
  | case3 operands op location pending hlt hshort =>
    rcases operands with _ | ⟨right, _ | ⟨left, rest⟩⟩
    · simp [fold, Pending.relocate, hlt, Except.map]
    · simp [fold, Pending.relocate, hlt, Except.map]
    · exact (hshort right left rest rfl).elim
  | case4 operands pending hother =>
    rcases pending with _ | ⟨_ | ⟨op, location⟩, rest⟩
    · simp [fold, Except.map]
    · simp [fold, Pending.relocate, Except.map]
    · exact (hother op location rest rfl).elim

variable (state : Stacks) (token : Token)

theorem takeOperator_relocate (op : Operator) (location : Location) :
    (state.relocate f).takeOperator op (f location) =
      (state.takeOperator op location).map (Stacks.relocate f) := by
  simp only [takeOperator, relocate, fold_relocate]
  cases fold op.precedence state.operands state.pending <;> rfl

theorem closeGroup_relocate (compared : Bool) (enclosing : List Bool) :
    (state.relocate f).closeGroup compared enclosing =
      (state.closeGroup compared enclosing).map (Stacks.relocate f) := by
  simp only [closeGroup, relocate, fold_relocate]
  generalize fold 0 state.operands state.pending = folded
  rcases folded with d | ⟨operands, _ | ⟨_ | _, _⟩⟩ <;> rfl

theorem readOperand_relocate :
    (state.relocate f).readOperand (token.relocate f) =
      ((state.readOperand token).map (Stacks.relocate f)).mapError (LineFailure.relocate f) := by
  simp only [readOperand, Token.relocate]
  cases token.kind with
  | number => cases Literal.value? token.lexeme <;> rfl
  | identifier | operator | assign | leftParen | rightParen => rfl

theorem refusal_relocate :
    (state.relocate f).refusal (token.relocate f) = (state.refusal token).relocate f := by
  by_cases h : state.enclosing.isEmpty = true <;>
    simp [refusal, relocate, Token.relocate, LineError.relocate, h]

theorem mapError_defect_relocate (outcome : Except Defect Stacks) :
    (outcome.map (Stacks.relocate f)).mapError .defect =
      ((outcome.mapError .defect).map (Stacks.relocate f)).mapError (LineFailure.relocate f) := by
  cases outcome <;> rfl

theorem readOperator_relocate :
    (state.relocate f).readOperator (token.relocate f) =
      ((state.readOperator token).map (Stacks.relocate f)).mapError (LineFailure.relocate f) := by
  have hrefused : (.error (.refused ((state.relocate f).refusal (token.relocate f))) :
      Except LineFailure Stacks) = (((.error (.refused (state.refusal token)) :
        Except LineFailure Stacks).map (Stacks.relocate f)).mapError (LineFailure.relocate f)) := by
    rw [refusal_relocate]
    rfl
  have henclosing : (state.relocate f).enclosing = state.enclosing := rfl
  have hcompared : (state.relocate f).compared = state.compared := rfl
  have hkind : (token.relocate f).kind = token.kind := rfl
  simp only [readOperator, henclosing, hcompared, hkind]
  cases token.kind with
  | operator op =>
    simp only
    split
    · rw [← mapError_defect_relocate, ← takeOperator_relocate]
      rfl
    · exact hrefused
  | rightParen =>
    cases state.enclosing with
    | nil => exact hrefused
    | cons compared enclosing =>
      simp only
      rw [closeGroup_relocate, mapError_defect_relocate]
  | number | identifier | assign | leftParen => exact hrefused

theorem read_relocate :
    (state.relocate f).read (token.relocate f) =
      ((state.read token).map (Stacks.relocate f)).mapError (LineFailure.relocate f) := by
  have hexpects : (state.relocate f).expectsOperand = state.expectsOperand := rfl
  simp only [read, hexpects]
  split
  · exact readOperand_relocate f state token
  · exact readOperator_relocate f state token

theorem readAll_relocate (tokens : List Token) :
    (state.relocate f).readAll (tokens.map (Token.relocate f)) =
      ((state.readAll tokens).map (Stacks.relocate f)).mapError (LineFailure.relocate f) := by
  induction tokens generalizing state with
  | nil => rfl
  | cons token rest ih =>
    simp only [List.map_cons, readAll, read_relocate]
    cases state.read token with
    | ok next => exact ih next
    | error failure => rfl

theorem finish_relocate (lineEnd : Location) :
    (state.relocate f).finish (f lineEnd) = relocated f (state.finish lineEnd) := by
  simp only [finish, relocate, fold_relocate]
  split
  · rfl
  · split
    · rfl
    · generalize fold 0 state.operands state.pending = folded
      rcases folded with d | ⟨_ | _, _⟩ <;> rfl

end Stacks

theorem expression_relocate (tokens : List Token) (lineEnd : Location) :
    expression (tokens.map (Token.relocate f)) (f lineEnd) =
      relocated f (expression tokens lineEnd) := by
  have hstart : Stacks.start.relocate f = Stacks.start := rfl
  have hread := Stacks.readAll_relocate f .start tokens
  rw [hstart] at hread
  simp only [expression, hread]
  cases Stacks.start.readAll tokens with
  | ok state => exact Stacks.finish_relocate f state lineEnd
  | error failure => rfl

namespace Line

variable {f : Location → Location} {line : Line}

theorem tokens_relocate (f : Location → Location) (line : Line) :
    (line.relocate f).tokens = line.tokens.map (Token.relocate f) := rfl

theorem startsAssignment_relocate_iff (f : Location → Location) (line : Line) :
    (line.relocate f).StartsAssignment ↔ line.StartsAssignment := by
  simp [StartsAssignment, tokens_relocate, Token.relocate, Function.comp_def]

/-- A line that stands elsewhere is read as before, if its end is moved like its tokens. -/
theorem statement_relocate (h : (line.relocate f).endLocation = f line.endLocation) :
    (line.relocate f).statement = relocated f line.statement := by
  by_cases hstarts : line.StartsAssignment
  · obtain ⟨name, sign, tokens, rfl, hname, hsign⟩ := line.startsAssignment_iff.mp hstarts
    have hmoved : Line.relocate f ⟨name, sign :: tokens⟩ =
        ⟨name.relocate f, sign.relocate f :: tokens.map (Token.relocate f)⟩ := rfl
    have hfirst : (name.relocate f).kind = .identifier := hname
    have hsecond : (sign.relocate f).kind = .assign := hsign
    rw [hmoved] at h
    rw [hmoved, statement_assignment hfirst hsecond, statement_assignment hname hsign, h,
      expression_relocate]
    cases expression tokens (Line.mk name (sign :: tokens)).endLocation <;> rfl
  · have hmoved : ¬ (line.relocate f).StartsAssignment := by
      rwa [startsAssignment_relocate_iff]
    rw [statement_expression hstarts, statement_expression hmoved, h, tokens_relocate,
      expression_relocate]

theorem endLocation_relocate
    (h : ∀ token ∈ line.tokens, (token.relocate f).endLocation = f token.endLocation) :
    (line.relocate f).endLocation = f line.endLocation := by
  obtain ⟨first, rest⟩ := line
  simp only [endLocation, relocate, List.getLast?_map]
  cases hlast : rest.getLast? with
  | none => exact h first List.mem_cons_self
  | some last => exact h last (List.mem_cons_of_mem _ (List.mem_of_getLast? hlast))

/-- Tokens that stand elsewhere are cut as before, if those of one line stay together and those of
two lines stay apart. -/
theorem ofTokens_relocate {tokens : List Token}
    (hlines : ∀ a ∈ tokens, ∀ b ∈ tokens, (a.relocate f).line = (b.relocate f).line ↔ a.line = b.line) :
    ofTokens (tokens.map (Token.relocate f)) = (ofTokens tokens).map (Line.relocate f) := by
  induction tokens with
  | nil => rfl
  | cons token rest ih =>
    have hrest := ih fun a ha b hb =>
      hlines a (List.mem_cons_of_mem _ ha) b (List.mem_cons_of_mem _ hb)
    rw [List.map_cons, ofTokens, hrest, ofTokens]
    cases hcut : ofTokens rest with
    | nil => rfl
    | cons line lines =>
      have hfirst : line.first ∈ rest :=
        mem_of_mem_ofTokens (hcut ▸ List.mem_cons_self) List.mem_cons_self
      have hsame : (token.relocate f).line = (line.relocate f).number ↔ token.line = line.number :=
        hlines token List.mem_cons_self line.first (List.mem_cons_of_mem _ hfirst)
      change (if (token.relocate f).line = (line.relocate f).number then _ else _) =
        (if token.line = line.number then _ else _ : List Line).map (Line.relocate f)
      by_cases h : token.line = line.number
      · rw [if_pos h, if_pos (hsame.mpr h)]
        rfl
      · rw [if_neg h, if_neg (mt hsame.mp h)]
        rfl

theorem map_statement_relocate {tokens : List Token}
    (hends : ∀ token ∈ tokens, (token.relocate f).endLocation = f token.endLocation)
    (hlines : ∀ a ∈ tokens, ∀ b ∈ tokens, (a.relocate f).line = (b.relocate f).line ↔ a.line = b.line) :
    (ofTokens (tokens.map (Token.relocate f))).map statement =
      ((ofTokens tokens).map statement).map (relocated f) := by
  rw [ofTokens_relocate hlines, List.map_map, List.map_map]
  apply List.map_congr_left
  intro line hline
  exact statement_relocate (endLocation_relocate fun token htoken =>
    hends token (mem_of_mem_ofTokens hline htoken))

end Line

theorem Parsing.gather_relocated (outcomes : List (Except LineFailure Node)) :
    gather (outcomes.map (relocated f)) =
      (gather outcomes).map fun (statements, errors) =>
        (statements.map (Node.relocate f), errors.map (LineError.relocate f)) := by
  induction outcomes with
  | nil => rfl
  | cons outcome rest ih =>
    simp only [List.map_cons, gather, ih]
    rcases outcome with ⟨_ | _⟩ | _ <;> cases gather rest <;> rfl

theorem parse_relocate_of_error {f : Location → Location} {tokens : List Token}
    (hends : ∀ token ∈ tokens, (token.relocate f).endLocation = f token.endLocation)
    (hlines : ∀ a ∈ tokens, ∀ b ∈ tokens, (a.relocate f).line = (b.relocate f).line ↔ a.line = b.line)
    {e : ParseError} (h : parse tokens = .error e) :
    parse (tokens.map (Token.relocate f)) = .error (e.relocate f) := by
  rw [parse_eq_resultOf, Parsing.resultOf] at h ⊢
  rw [Line.map_statement_relocate hends hlines, Parsing.gather_relocated]
  cases hgather : Parsing.gather ((Line.ofTokens tokens).map Line.statement) with
  | error d =>
    rw [hgather] at h
    rw [← Except.error.inj h]
    rfl
  | ok gathered =>
    obtain ⟨statements, errors⟩ := gathered
    rw [hgather] at h
    cases errors with
    | nil => cases h
    | cons error errors =>
      rw [← Except.error.inj h]
      rfl

namespace Node

open Evaluation

theorem meaning_relocate (f : Location → Location) (node : Node) (table : SymbolTable) :
    (node.relocate f).meaning table = (node.meaning table).mapError (EvalError.relocate f) := by
  match node with
  | .number .. | .root .. | .missing =>
    simp only [relocate, meaning_number, meaning_root, meaning_missing]
    rfl
  | .identifier name location =>
    simp only [relocate, meaning_identifier]
    cases table.get? name <;> rfl
  | .binary op left right location =>
    simp only [relocate, meaning_binary, meaning_relocate f left, meaning_relocate f right]
    rw [← mapError_andThen]
    congr 1
    funext l table
    rw [← mapError_andThen]
    rfl
  | .assignment name value location =>
    simp only [relocate, meaning_assignment, meaning_relocate f value]
    rw [← mapError_andThen]
    rfl

theorem evaluateAll_relocate (f : Location → Location) (nodes : List Node) (table : SymbolTable) :
    evaluateAll (nodes.map (Node.relocate f)) table =
      (evaluateAll nodes table).mapError (EvalError.relocate f) := by
  induction nodes generalizing table with
  | nil => rfl
  | cons node rest ih =>
    rw [List.map_cons, evaluateAll_cons, evaluateAll_cons, meaning_relocate, ← mapError_andThen]
    congr 1
    funext value table
    rw [ih, ← mapError_andThen]
    rfl

end Node

section Scan

variable {f : Location → Location}

/-- A text that begins elsewhere has the same tokens, and they stand elsewhere. -/
theorem scanFrom_relocate (hright : ∀ location n, f (location.right n) = (f location).right n)
    {text : List Char} (hnewline : '\n' ∈ text → ∀ location, f location.newline = (f location).newline)
    (here : Location) :
    scanFrom (f here) text =
      ((scanFrom here text).map (List.map (Token.relocate f))).mapError (LexicalError.relocate f) := by
  fun_induction scanFrom here text with
  | case1 here => rw [scanFrom]; rfl
  | case2 here c rest kind tail hhead tokens hscan ih =>
    have hrest := ih fun hmem => hnewline (List.mem_cons_of_mem _ (List.mem_of_mem_drop hmem))
    rw [hright, hscan] at hrest
    rw [scanFrom_lexeme hhead, hrest]
    rfl
  | case3 here c rest kind tail hhead e hscan ih =>
    have hrest := ih fun hmem => hnewline (List.mem_cons_of_mem _ (List.mem_of_mem_drop hmem))
    rw [hright, hscan] at hrest
    rw [scanFrom_lexeme hhead, hrest]
    rfl
  | case4 here c rest hhead ih =>
    have hafter : (f here).after c = f (here.after c) := by
      by_cases hc : c = '\n'
      · subst hc
        simp [Location.after, hnewline List.mem_cons_self]
      · simp [Location.after, hc, hright]
    rw [scanFrom_blank hhead, hafter]
    exact ih fun hmem => hnewline (List.mem_cons_of_mem _ hmem)
  | case5 here c rest fault hhead =>
    rw [scanFrom_faulty hhead]
    rfl

end Scan
end Calculator
