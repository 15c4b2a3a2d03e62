import Calculator.Proofs.Evaluation.Dependence
import Calculator.Proofs.Program.Independence
import Calculator.Proofs.Program.Places
import Calculator.Proofs.Session.Atomicity

/-! # The log records what a run does

A refused line leaves an entry with its refusal, a completed assignment one with its name and value,
and a run that succeeds one with the number of its results. There is nothing else in the log, so that
the table after a run can be told from the table before and the log.
-/
namespace Calculator

def Node.target? : Node → Option String
  | .assignment name .. => some name
  | _ => none

def storesOf (statements : List Node) (values : List Float) : List (String × Float) :=
  (statements.zip values).filterMap fun (statement, value) => statement.target?.map (·, value)

def SymbolTable.storeAll (table : SymbolTable) (stores : List (String × Float)) : SymbolTable :=
  stores.foldl (fun table (name, value) => table.insert name value) table

def storedEvents (stores : List (String × Float)) : List Event :=
  stores.map fun (name, value) => .stored name value

theorem storesOf_cons (statement : Node) (rest : List Node) (value : Float) (values : List Float) :
    storesOf (statement :: rest) (value :: values) =
      (statement.target?.map (·, value)).toList ++ storesOf rest values := by
  simp only [storesOf, List.zip_cons_cons, List.filterMap_cons]
  cases statement.target? <;> rfl

theorem storedEvents_append (stores more : List (String × Float)) :
    storedEvents (stores ++ more) = storedEvents stores ++ storedEvents more :=
  List.map_append

theorem map_message_storedEvents (stores : List (String × Float)) :
    (storedEvents stores).map Event.message =
      stores.map fun (name, value) => name ++ " = " ++ numberText value := by
  rw [storedEvents, List.map_map]
  rfl

theorem replay_storedEvents (stores : List (String × Float)) (table : SymbolTable) :
    replay (storedEvents stores) table = table.storeAll stores := by
  rw [replay, storedEvents, List.foldl_map]
  rfl

/-! ## Evaluation -/

theorem Node.IsStatement.log_of_ok {node : Node} (h : node.IsStatement) {table : SymbolTable}
    {value : Float} (hvalue : (node.meaning table).result = .ok value) :
    (node.meaning table).log = storedEvents (node.target?.map (·, value)).toList := by
  cases h with
  | expression h =>
    rw [h.log_meaning]
    cases h <;> rfl
  | @assignment name expression location h =>
    rw [Node.meaning_assignment] at hvalue ⊢
    cases hexpression : (expression.meaning table).result with
    | error e => simp [Evaluation.andThen_of_error hexpression] at hvalue
    | ok v =>
      rw [Evaluation.andThen_of_ok hexpression, h.log_meaning] at hvalue ⊢
      obtain rfl : v = value := Except.ok.inj hvalue
      rfl

/-- How far an evaluation of statements has come: the statements that were completed, and their
values. Either these are all, or the one behind them has failed for a name. -/
structure Completes (statements : List Node) (table : SymbolTable) (finished : List Node)
    (values : List Float) : Prop where
  begins : finished <+: statements
  values_eq : (Node.evaluateAll finished table).result = .ok values
  log_eq : (Node.evaluateAll statements table).log = storedEvents (storesOf finished values)
  outcome : finished = statements ∧ (Node.evaluateAll statements table).result = .ok values ∨
    ∃ node name location, finished ++ [node] <+: statements ∧
      (node.evaluate (Node.evaluateAll statements table).table).result =
        .error (.undefined name location) ∧
      (Node.evaluateAll statements table).result = .error (.undefined name location)

theorem Completes.table_eq {statements finished : List Node} {table : SymbolTable}
    {values : List Float} (h : Completes statements table finished values) :
    (Node.evaluateAll statements table).table = table.storeAll (storesOf finished values) := by
  rw [(Node.faithful_evaluateAll statements table).table_eq, h.log_eq, replay_storedEvents]

theorem Completes.of_error {node : Node} {table : SymbolTable} {e : EvalError}
    (hnode : node.IsStatement) (h : (node.meaning table).result = .error e) (rest : List Node) :
    Completes (node :: rest) table [] [] := by
  obtain ⟨name, location, rfl⟩ := hnode.undefined_of_error h
  have heval : Node.evaluateAll (node :: rest) table =
      ⟨.error (.undefined name location), table, []⟩ := by
    rw [Node.evaluateAll_cons_of_error h, hnode.meaning_of_error h]
  refine ⟨List.nil_prefix, rfl, by rw [heval]; rfl, Or.inr ⟨node, name, location, ?_, ?_, ?_⟩⟩
  · exact ⟨rest, rfl⟩
  · rw [heval, Node.evaluate_eq_meaning, h]
  · rw [heval]

theorem Completes.cons {node : Node} {table : SymbolTable} {value : Float}
    (hnode : node.IsStatement) (h : (node.meaning table).result = .ok value)
    {rest finished : List Node} {values : List Float}
    (hrest : Completes rest (node.meaning table).table finished values) :
    Completes (node :: rest) table (node :: finished) (value :: values) := by
  have heval := Node.evaluateAll_cons_of_ok h rest
  refine ⟨List.cons_prefix_cons.mpr ⟨rfl, hrest.begins⟩, ?_, ?_, ?_⟩
  · rw [Node.evaluateAll_cons_of_ok h, hrest.values_eq]
    rfl
  · rw [heval, hrest.log_eq, hnode.log_of_ok h, storesOf_cons, storedEvents_append]
  · rw [heval]
    rcases hrest.outcome with ⟨rfl, hok⟩ | ⟨next, name, location, hnext, hfails, herror⟩
    · exact Or.inl ⟨rfl, by rw [hok]; rfl⟩
    · refine Or.inr ⟨next, name, location, List.cons_prefix_cons.mpr ⟨rfl, hnext⟩, hfails, ?_⟩
      rw [herror]
      rfl

theorem exists_completes {statements : List Node} (h : ∀ node ∈ statements, node.IsStatement)
    (table : SymbolTable) : ∃ finished values, Completes statements table finished values := by
  induction statements generalizing table with
  | nil => exact ⟨[], [], List.nil_prefix, rfl, rfl, Or.inl ⟨rfl, rfl⟩⟩
  | cons node rest ih =>
    rw [List.forall_mem_cons] at h
    cases hnode : (node.meaning table).result with
    | error e => exact ⟨_, _, .of_error h.1 hnode rest⟩
    | ok value =>
      obtain ⟨finished, values, hrest⟩ := ih h.2 (node.meaning table).table
      exact ⟨_, _, hrest.cons h.1 hnode⟩

/-! ## Reading -/

theorem log_ofTokens {source : String} {tokens : List Token} (hscan : scan source = .ok tokens) :
    (Parsing.ofTokens tokens).log =
      (refusalsIn tokens).map fun error => .skipped error.location.line error := by
  -- The log has the number of the line, which is where the refusal of the line stands.
  rw [Parsing.ofTokens, refusalsIn, List.filterMap_map, List.filterMap_map, List.map_filterMap]
  apply List.filterMap_congr
  intro line hline
  simp only [Function.comp_apply]
  cases hstatement : line.statement with
  | ok node => rfl
  | error failure =>
    cases failure with
    | defect => rfl
    | refused error =>
      rw [← (Line.pointsInto_of_refused hscan hline hstatement).1]
      rfl

/-- The entries for the lines that are refused, each under the number of its line. -/
def skippedEvents (readings : List LineReading) : List Event :=
  readings.zipIdx.filterMap fun (reading, k) =>
    reading.error?.map fun error => .skipped k (error.relocate (.onLine k))

theorem map_skipped_refusalsOf (readings : List LineReading) :
    ((refusalsOf readings).map fun error => Event.skipped error.location.line error) =
      skippedEvents readings := by
  rw [refusalsOf, skippedEvents, List.map_filterMap]
  congr 1
  funext entry
  obtain ⟨reading, k⟩ := entry
  rw [Option.map_map]
  congr 1
  funext error
  cases error <;> rfl

namespace Session

variable {source : String} {tokens : List Token}

theorem log_run_of_refused (session : Session) (hscan : scan source = .ok tokens)
    {errors : List LineError} (hparse : parse tokens = .error (.refused errors)) :
    (session.run source).log = errors.map fun error => .skipped error.location.line error := by
  obtain ⟨hrefusals, _⟩ := refusalsIn_of_parse_error (readable_of_scan hscan) hparse
  rw [session.run_of_parse_error hscan hparse, log_ofTokens hscan, ParseError.refused.inj hrefusals]

theorem log_run_of_parse_ok (session : Session) (hscan : scan source = .ok tokens) {program : Program}
    (hparse : parse tokens = .ok program) :
    (session.run source).log = (session.evaluate program).log := by
  have hresult : (Parsing.ofTokens tokens).result = .ok program := hparse
  have hlog : (Parsing.ofTokens tokens).log = [] := by
    rw [log_ofTokens hscan, refusalsIn_of_parse_ok (readable_of_scan hscan) hparse, List.map_nil]
  simp [run, hscan, runParsing, hresult, hlog]

/-- The log records what a run does. If the text cannot be scanned, nothing is logged. If it cannot be
parsed, there is an entry for each line that is refused alone, in order, with the refusal that is
reported for the line, and no other. If it is evaluated, there is an entry for each assignment among
the statements that were completed, in order, and storing these names and values one after the other
leads to the table after the run. Behind them stands the number of results if the run succeeds, and
nothing if it fails at the next statement. -/
theorem run_logged (session : Session) (source : String) :
    (∀ e, scan source = .error e → (session.run source).log = []) ∧
    (∀ tokens e, scan source = .ok tokens → parse tokens = .error e →
      ∃ readings, List.Forall₂ ReadsAlone (linesAlone source) readings ∧
        e = .refused (refusalsOf readings) ∧ refusalsOf readings ≠ [] ∧
        (session.run source).log = skippedEvents readings ∧
        (session.run source).log.map Event.message = (refusalsOf readings).map fun error =>
          "Skipping line " ++ toString error.location.line ++ ": " ++ error.message) ∧
    ∀ tokens program, scan source = .ok tokens → parse tokens = .ok program →
      ∃ finished values, finished <+: program.statements ∧
        (Node.evaluateAll finished session.table).result = .ok values ∧
        (session.run source).session.table = session.table.storeAll (storesOf finished values) ∧
        match (session.run source).result with
        | .ok results => finished = program.statements ∧ values = results ∧
            (session.run source).log =
              storedEvents (storesOf finished values) ++ [.evaluated results.length] ∧
            (session.run source).log.map Event.message = ((storesOf finished values).map
              fun (name, value) => name ++ " = " ++ numberText value) ++
                ["Evaluated " ++ toString results.length ++ " statement(s)"]
        | .error e => (session.run source).log = storedEvents (storesOf finished values) ∧
            (session.run source).log.map Event.message = ((storesOf finished values).map
              fun (name, value) => name ++ " = " ++ numberText value) ∧
            ∃ node name location, finished ++ [node] <+: program.statements ∧
              (node.evaluate (session.run source).session.table).result =
                .error (.undefined name location) ∧
              e = .eval (.undefined name location) := by
  refine ⟨?_, ?_, ?_⟩
  · intro e hscan
    rw [session.run_of_scan_error hscan]
  · intro tokens e hscan hparse
    obtain ⟨readings, hreadings, rfl, hne⟩ := exists_readings_of_parse_error hscan hparse
    have hlog := session.log_run_of_refused hscan hparse
    refine ⟨readings, hreadings, rfl, hne, ?_, ?_⟩
    · rw [hlog, map_skipped_refusalsOf]
    · rw [hlog, List.map_map]
      rfl
  · intro tokens program hscan hparse
    obtain ⟨finished, values, h⟩ :=
      exists_completes (isStatement_of_parse hscan hparse) session.table
    obtain ⟨hresult, hsession⟩ := session.run_eq_evaluate hscan hparse
    rw [hresult, hsession, session.log_run_of_parse_ok hscan hparse]
    refine ⟨finished, values, h.begins, h.values_eq, ?_⟩
    rcases h.outcome with ⟨hall, hok⟩ | ⟨node, name, location, hnext, hfails, herror⟩
    · simp only [evaluate, Program.evaluate, hok, h.log_eq, true_and, List.map_append,
        map_message_storedEvents]
      exact ⟨h.table_eq, hall, rfl⟩
    · simp only [evaluate, Program.evaluate, herror, h.log_eq, true_and,
        map_message_storedEvents]
      exact ⟨h.table_eq, node, name, location, hnext, hfails, rfl⟩

theorem run_logged_of_texts :
    ((Session.mk (.ofList [("z", 1.0)]) none).run "x = z\nx").log =
      [.stored "x" 1.0, .evaluated 2] ∧
    (∃ stores, ((Session.mk (.ofList [("z", 1.0)]) none).run "x = z\nw").log = storedEvents stores ∧
      ((Session.mk (.ofList [("z", 1.0)]) none).run "x = z\nw").session.table =
        SymbolTable.storeAll (.ofList [("z", 1.0)]) stores) ∧
    ((Session.mk (.ofList [("z", 1.0)]) none).run "x )\n\nz\n+").log.map Event.message =
      ["Skipping line 0: Unexpected token ')' at [0:2]",
        "Skipping line 3: Unexpected token '+' at [3:0]"] ∧
    ((Session.mk (.ofList [("z", 1.0)]) none).run "x = z\n#").log = [] := by
  have hz : (NameMap.ofList [("z", 1.0)]).get? "z" = some 1.0 := rfl
  refine ⟨?_, ?_, ?_, ?_⟩
  · have hscan : scan "x = z\nx" = .ok [⟨.identifier, "x", ⟨0, 0⟩⟩, ⟨.assign, "=", ⟨0, 2⟩⟩,
        ⟨.identifier, "z", ⟨0, 4⟩⟩, ⟨.identifier, "x", ⟨1, 0⟩⟩] := by decide +kernel
    have hrun : ((Session.mk (.ofList [("z", 1.0)]) none).run "x = z\nx").result =
        .ok [1.0, 1.0] := by
      simp only [run_eq_evaluate _ hscan rfl, evaluate, Program.evaluate, Program.ofStatements,
        Node.evaluateAll_assigned hz, Node.evaluateAll_singleton, Node.meaning_identifier,
        NameMap.get?_insert_self, Except.map]
    obtain ⟨finished, values, _, _, _, h⟩ :=
      (run_logged (.mk (.ofList [("z", 1.0)]) none) "x = z\nx").2.2 _ _ hscan rfl
    rw [hrun] at h
    obtain ⟨rfl, rfl, hlog, _⟩ := h
    exact hlog
  · have hscan : scan "x = z\nw" = .ok [⟨.identifier, "x", ⟨0, 0⟩⟩, ⟨.assign, "=", ⟨0, 2⟩⟩,
        ⟨.identifier, "z", ⟨0, 4⟩⟩, ⟨.identifier, "w", ⟨1, 0⟩⟩] := by decide +kernel
    have hw : ((NameMap.ofList [("z", 1.0)]).insert "x" 1.0).get? "w" = none := rfl
    have hrun : ((Session.mk (.ofList [("z", 1.0)]) none).run "x = z\nw").result =
        .error (.eval (.undefined "w" ⟨1, 0⟩)) := by
      simp only [run_eq_evaluate _ hscan rfl, evaluate, Program.evaluate, Program.ofStatements,
        Node.evaluateAll_assigned hz, Node.evaluateAll_singleton, Node.meaning_identifier, hw,
        Except.map]
    obtain ⟨finished, values, _, _, htable, h⟩ :=
      (run_logged (.mk (.ofList [("z", 1.0)]) none) "x = z\nw").2.2 _ _ hscan rfl
    rw [hrun] at h
    exact ⟨_, h.1, htable⟩
  · have hscan : scan "x )\n\nz\n+" = .ok [⟨.identifier, "x", ⟨0, 0⟩⟩, ⟨.rightParen, ")", ⟨0, 2⟩⟩,
        ⟨.identifier, "z", ⟨2, 0⟩⟩, ⟨.operator .add, "+", ⟨3, 0⟩⟩] := by decide +kernel
    obtain ⟨readings, _, hrefused, _, _, htexts⟩ :=
      (run_logged (.mk (.ofList [("z", 1.0)]) none) "x )\n\nz\n+").2.1 _
        (.refused [.unexpectedToken ")" ⟨0, 2⟩, .unexpectedToken "+" ⟨3, 0⟩]) hscan rfl
    rw [htexts, ← ParseError.refused.inj hrefused]
    decide +kernel
  · exact (run_logged _ "x = z\n#").1 ⟨.unexpectedCharacter '#', ⟨1, 0⟩⟩ (by decide +kernel)

end Session

end Calculator
