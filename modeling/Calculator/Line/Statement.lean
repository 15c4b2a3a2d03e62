import Calculator.Line.Basic
import Calculator.Line.Error
import Calculator.Token.Literal
import Calculator.Tree.Basic

/-! # Statements

A statement is an expression, or a name with an assignment sign and an expression. Expressions are
read by operator precedence, one token after the other, on explicit stacks: finished operands, and
the operators and open parentheses that still wait for what follows. Operators of one level group
to the left. A group, which is what stands between two parentheses or outside of all, takes at
most one comparison directly in it.
-/
namespace Calculator

/-- What waits on the stack for the operand on its right. -/
inductive Pending where
  | paren
  | operator (op : Operator) (location : Location)
  deriving DecidableEq

/-- The part of an expression that has been read. Stacks have their top first. -/
structure Stacks where
  operands : List Node
  pending : List Pending
  /-- Whether the innermost group already holds a comparison. -/
  compared : Bool
  /-- The same for the groups around it, the nearest first. -/
  enclosing : List Bool
  expectsOperand : Bool

namespace Stacks

def start : Stacks := ⟨[], [], false, [], true⟩

/-- Applies the pending operators that bind at least as tight as `least`, the top first, down to the
innermost open parenthesis. -/
def fold (least : Nat) : List Node → List Pending → Except Defect (List Node × List Pending)
  | operands, .operator op location :: pending =>
    if op.precedence < least then .ok (operands, .operator op location :: pending)
    else
      match operands with
      | right :: left :: operands => fold least (.binary op left right location :: operands) pending
      | _ => .error .missingOperand
  | operands, pending => .ok (operands, pending)

def refusal (state : Stacks) (token : Token) : LineError :=
  if state.enclosing.isEmpty then .unexpectedToken token.lexeme token.location
  else .unclosedParen (some token.lexeme) token.location

def push (state : Stacks) (operand : Node) : Stacks :=
  { state with operands := operand :: state.operands, expectsOperand := false }

def openGroup (state : Stacks) : Stacks :=
  { state with
    pending := .paren :: state.pending
    compared := false
    enclosing := state.compared :: state.enclosing }

/-- Takes an operator after an operand: what binds at least as tight is applied first. -/
def takeOperator (state : Stacks) (op : Operator) (location : Location) : Except Defect Stacks :=
  match fold op.precedence state.operands state.pending with
  | .error d => .error d
  | .ok (operands, pending) =>
    .ok { state with
      operands := operands
      pending := .operator op location :: pending
      compared := state.compared || !op.isChainable
      expectsOperand := true }

/-- Closes the innermost group; `compared` and `enclosing` belong to the group around it. -/
def closeGroup (state : Stacks) (compared : Bool) (enclosing : List Bool) : Except Defect Stacks :=
  match fold 0 state.operands state.pending with
  | .error d => .error d
  | .ok (operands, .paren :: pending) => .ok ⟨operands, pending, compared, enclosing, false⟩
  | .ok _ => .error .unmatchedGroup

def readOperand (state : Stacks) (token : Token) : Except LineFailure Stacks :=
  match token.kind with
  | .leftParen => .ok state.openGroup
  | .number =>
    match Literal.value? token.lexeme with
    | some value => .ok (state.push (.number value token.location))
    | none => .error (.defect (.unreadableNumber token.lexeme))
  | .identifier => .ok (state.push (.identifier token.lexeme token.location))
  | _ => .error (.refused (.unexpectedToken token.lexeme token.location))

def readOperator (state : Stacks) (token : Token) : Except LineFailure Stacks :=
  match token.kind, state.enclosing with
  | .operator op, _ =>
    if op.isChainable || !state.compared then
      (state.takeOperator op token.location).mapError .defect
    else .error (.refused (state.refusal token))
  | .rightParen, compared :: enclosing => (state.closeGroup compared enclosing).mapError .defect
  | _, _ => .error (.refused (state.refusal token))

def read (state : Stacks) (token : Token) : Except LineFailure Stacks :=
  if state.expectsOperand then state.readOperand token else state.readOperator token

def readAll (state : Stacks) : List Token → Except LineFailure Stacks
  | [] => .ok state
  | token :: rest =>
    match state.read token with
    | .ok next => next.readAll rest
    | .error failure => .error failure

/-- The expression, when the line ends here. -/
def finish (state : Stacks) (lineEnd : Location) : Except LineFailure Node :=
  if state.expectsOperand then .error (.refused (.unexpectedEnd lineEnd))
  else if !state.enclosing.isEmpty then .error (.refused (.unclosedParen none lineEnd))
  else
    match fold 0 state.operands state.pending with
    | .ok (expression :: _, _) => .ok expression
    | .ok ([], _) => .error (.defect .missingOperand)
    | .error d => .error (.defect d)

theorem readAll_append (state : Stacks) (left right : List Token) :
    state.readAll (left ++ right) =
      match state.readAll left with
      | .ok next => next.readAll right
      | .error failure => .error failure := by
  induction left generalizing state with
  | nil => rfl
  | cons token rest ih =>
    simp only [List.cons_append, readAll]
    cases state.read token with
    | ok next => exact ih next
    | error failure => rfl

end Stacks

/-- The expression that consists of the given tokens, on a line that ends at `lineEnd`. -/
def expression (tokens : List Token) (lineEnd : Location) : Except LineFailure Node :=
  match Stacks.start.readAll tokens with
  | .ok state => state.finish lineEnd
  | .error failure => .error failure

namespace Line

/-- The statement on a line. The first two tokens alone tell an assignment from an expression. -/
def statement (line : Line) : Except LineFailure Node :=
  match line.first, line.rest with
  | ⟨.identifier, name, _⟩, ⟨.assign, _, location⟩ :: tokens =>
    match expression tokens line.endLocation with
    | .ok value => .ok (.assignment name value location)
    | .error failure => .error failure
  | _, _ => expression line.tokens line.endLocation

end Line

end Calculator
