import Calculator.Tree.Description
import Calculator.NameMap
import Calculator.Event
import Calculator.Program

/-! # Evaluation

A tree is evaluated from left to right, operands before their operator, on two explicit stacks: the
tasks still to be done and the values already found. An assignment stores its value when that is
known, and has it as its own value. The first error ends the evaluation; what was stored before
stays stored. The walk needs no more of the call stack for a deep tree than for a flat one, but the
message about a node that is no expression does: it describes that node.
-/
namespace Calculator

abbrev SymbolTable := NameMap Float

inductive EvalError where
  | undefined (name : String) (location : Location)
  | notAnExpression (node : Node)
  /-- A node is no expression, and the call stack has no room for its description. -/
  | stackExhausted
  | defect (defect : Defect)

def EvalError.message : EvalError → String
  | undefined name location => "Symbol " ++ quoted name ++ " not found at " ++ location.text
  | notAnExpression node => "Unexpected expression type: " ++ node.description
  | stackExhausted => "maximum recursion depth exceeded while getting the repr of an object"
  | defect d => d.message

/-- What an evaluation yields: a result or an error, the table as it is afterwards, and the log. -/
structure Evaluation (α : Type) where
  result : Except EvalError α
  table : SymbolTable
  log : List Event

/-- The error of a node that is no expression, where the call stack has room for so many calls
beyond those of the walk. The message is put together before its error can be raised. -/
def EvalError.rejection (room : Nat) (node : Node) : EvalError :=
  if node.calls ≤ room then notAnExpression node else stackExhausted

inductive Task where
  | visit (node : Node)
  | apply (op : Operator)
  | store (name : String)

namespace Task

/-- A bound on the number of steps that a task takes. -/
def weight : Task → Nat
  | visit node => 2 * node.size
  | apply _ => 1
  | store _ => 1

def totalWeight : List Task → Nat
  | [] => 0
  | task :: rest => task.weight + totalWeight rest

/-- Does the tasks in order, beginning with the given values and table; yields all values. A node that
is no expression ends it with the error that `reject` makes of the node. -/
def execWith (reject : Node → EvalError) :
    List Task → List Float → SymbolTable → Evaluation (List Float)
  | [], values, table => ⟨.ok values, table, []⟩
  | .visit (.number value _) :: tasks, values, table => execWith reject tasks (value :: values) table
  | .visit (.identifier name location) :: tasks, values, table =>
    match table.get? name with
    | some value => execWith reject tasks (value :: values) table
    | none => ⟨.error (.undefined name location), table, []⟩
  | .visit (.binary op left right _) :: tasks, values, table =>
    execWith reject (.visit left :: .visit right :: .apply op :: tasks) values table
  | .visit (.assignment name value _) :: tasks, values, table =>
    execWith reject (.visit value :: .store name :: tasks) values table
  | .visit (.root statements location) :: _, _, table =>
    ⟨.error (reject (.root statements location)), table, []⟩
  | .visit .missing :: _, _, table => ⟨.error (reject .missing), table, []⟩
  | .apply op :: tasks, right :: left :: values, table =>
    execWith reject tasks (op.apply left right :: values) table
  | .store name :: tasks, value :: values, table =>
    let rest := execWith reject tasks (value :: values) (table.insert name value)
    { rest with log := .stored name value :: rest.log }
  | .apply _ :: _, _, table => ⟨.error (.defect .missingOperand), table, []⟩
  | .store _ :: _, [], table => ⟨.error (.defect .missingOperand), table, []⟩
termination_by tasks => totalWeight tasks
decreasing_by
  all_goals simp only [totalWeight, weight, Node.size]
  all_goals omega

end Task

namespace Node

def evaluateWith (reject : Node → EvalError) (node : Node) (table : SymbolTable) :
    Evaluation Float :=
  let done := Task.execWith reject [.visit node] [] table
  match done.result with
  | .ok (value :: _) => ⟨.ok value, done.table, done.log⟩
  | .ok [] => ⟨.error (.defect .missingOperand), done.table, done.log⟩
  | .error e => ⟨.error e, done.table, done.log⟩

/-- The evaluation of a tree on a call stack with room for so many calls beyond those of the walk. -/
def evaluateWithin (room : Nat) : Node → SymbolTable → Evaluation Float :=
  evaluateWith (.rejection room)

/-- The evaluation of a tree where every node can be described. For the trees that parsing yields it
is the evaluation on every call stack. -/
def evaluate : Node → SymbolTable → Evaluation Float :=
  evaluateWith .notAnExpression

def evaluateAll : List Node → SymbolTable → Evaluation (List Float)
  | [], table => ⟨.ok [], table, []⟩
  | node :: rest, table =>
    let first := node.evaluate table
    match first.result with
    | .error e => ⟨.error e, first.table, first.log⟩
    | .ok value =>
      let others := evaluateAll rest first.table
      ⟨others.result.map (value :: ·), others.table, first.log ++ others.log⟩

end Node

def Program.evaluate (program : Program) (table : SymbolTable) : Evaluation (List Float) :=
  Node.evaluateAll program.statements table

end Calculator
