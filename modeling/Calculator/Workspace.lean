import Calculator.Session

/-! # Workspaces

A workspace holds the constants that new sessions begin with, and sessions by name. A session comes
into being when it is first mentioned, with the constants of that moment; later constants do not
reach it.
-/
namespace Calculator

def builtinConstants : SymbolTable :=
  .ofList [("PI", 3.141592653589793), ("E", 2.718281828459045)]

structure AlreadyRegistered where
  name : String
  deriving DecidableEq

def AlreadyRegistered.message (e : AlreadyRegistered) : String :=
  "Built-in constant " ++ quoted e.name ++ " is already registered"

/-- The constants of new sessions, and the sessions. -/
structure Workspace where
  constants : SymbolTable
  sessions : NameMap Session

inductive SessionAction where
  | run (source : String)
  | renew
  | set (name : String) (value : Float)
  | unset (name : String)

inductive Command where
  | act (session : String) (action : SessionAction)
  | register (name : String) (value : Float)

/-- What a session answers: the results of a run or its error, nothing for other actions, and the
session as it is afterwards. -/
structure SessionReply where
  outcome : Option (Except RunError (List Float))
  session : Session

inductive Reply where
  | session (reply : SessionReply)
  /-- The constants after a registration, and what was wrong with it. -/
  | register (error : Option AlreadyRegistered) (constants : SymbolTable)

/-- Registers a constant, unless its name is taken. -/
def registerConstant (constants : SymbolTable) (name : String) (value : Float) :
    Except AlreadyRegistered SymbolTable :=
  match constants.get? name with
  | some _ => .error ⟨name⟩
  | none => .ok (constants.insert name value)

/-- What an action does to a session; the constants are those of the moment. -/
def SessionAction.perform (constants : SymbolTable) (session : Session) :
    SessionAction → SessionReply
  | run source =>
    let report := session.run source
    ⟨some report.result, report.session⟩
  | renew => ⟨none, .new constants⟩
  | set name value => ⟨none, { session with table := session.table.insert name value }⟩
  | unset name => ⟨none, { session with table := session.table.erase name }⟩

namespace Workspace

def initial : Workspace :=
  ⟨builtinConstants, .empty⟩

/-- The session of a name, a new one if the name was not mentioned before. -/
def sessionOf (workspace : Workspace) (name : String) : Session :=
  (workspace.sessions.get? name).getD (.new workspace.constants)

/-- Carries out a command. -/
def step (workspace : Workspace) : Command → Reply × Workspace
  | .act name action =>
    let reply := action.perform workspace.constants (workspace.sessionOf name)
    (.session reply, { workspace with sessions := workspace.sessions.insert name reply.session })
  | .register name value =>
    match registerConstant workspace.constants name value with
    | .error e => (.register (some e) workspace.constants, workspace)
    | .ok constants => (.register none constants, { workspace with constants := constants })

def runAll (workspace : Workspace) : List Command → List Reply × Workspace
  | [] => ([], workspace)
  | command :: rest =>
    let (reply, next) := workspace.step command
    let (replies, last) := next.runAll rest
    (reply :: replies, last)

end Workspace

end Calculator
