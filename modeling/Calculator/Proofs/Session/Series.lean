import Mathlib.Data.Int.Notation
import Mathlib.Data.Nat.Notation
import Calculator.Proofs.Program.Relocation
import Calculator.Proofs.Session.Atomicity

/-! # Splitting a text over several runs

Texts that are programs, run one after the other, do what their lines do in one run: the same
results, the same table, and, where one fails, the same name reported, further down by the lines of
the texts before.
-/
namespace Calculator

theorem scanFrom_below {source : String} {tokens : List Token} (h : scan source = .ok tokens) (n : ℤ) :
    scanFrom ⟨n, 0⟩ source.toList = .ok (tokens.map (Token.relocate (·.down n))) := by
  have hstart : (⟨n, 0⟩ : Location) = Location.origin.down n := by
    simp [Location.down, Location.origin]
  have hnewline (location : Location) : location.newline.down n = (location.down n).newline := by
    simp [Location.down, Location.newline, Int.add_right_comm]
  rw [scan] at h
  calc scanFrom ⟨n, 0⟩ source.toList
      = ((scanFrom .origin source.toList).map (List.map (Token.relocate (·.down n)))).mapError
          (LexicalError.relocate (·.down n)) := by
        rw [hstart]
        exact @scanFrom_relocate (·.down n) (fun _ _ => rfl) _ (fun _ => hnewline) .origin
    _ = .ok (tokens.map (Token.relocate (·.down n))) := by
        rw [h]
        rfl

theorem map_statement_below {tokens : List Token} {statements : List Node}
    (h : (Line.ofTokens tokens).map Line.statement = statements.map .ok) (n : ℤ) :
    (Line.ofTokens (tokens.map (Token.relocate (·.down n)))).map Line.statement =
      (statements.map (Node.relocate (·.down n))).map .ok := by
  have hlines (a b : Token) : (a.relocate (·.down n)).line = (b.relocate (·.down n)).line ↔
      a.line = b.line := by
    simp [Token.relocate, Token.line, Location.down]
  calc (Line.ofTokens (tokens.map (Token.relocate (·.down n)))).map Line.statement
      = ((Line.ofTokens tokens).map Line.statement).map (relocated (·.down n)) :=
        Line.map_statement_relocate (fun _ _ => rfl) fun a _ b _ => hlines a b
    _ = (statements.map (Node.relocate (·.down n))).map .ok := by
        rw [h, List.map_map, List.map_map]
        rfl

/-- The statements of a text that is a program. -/
def HasStatements (source : String) (statements : List Node) : Prop :=
  ∃ tokens, scan source = .ok tokens ∧
    (Line.ofTokens tokens).map Line.statement = statements.map .ok

namespace HasStatements

variable {source front back : String} {statements before after : List Node}

theorem of_parse {tokens : List Token} {program : Program} (hscan : scan source = .ok tokens)
    (hparse : parse tokens = .ok program) : HasStatements source program.statements := by
  obtain ⟨statements, hstatements, rfl⟩ := (parse_eq_ok_iff tokens program).mp hparse
  exact ⟨tokens, hscan, hstatements⟩

theorem evaluates (h : HasStatements source statements) (session : Session) :
    ∃ tokens, session.Evaluates source tokens statements := by
  obtain ⟨tokens, hscan, hstatements⟩ := h
  exact ⟨tokens, session.evaluates_of_scan hscan hstatements⟩

theorem undefined_of_error (h : HasStatements source statements) {table : SymbolTable}
    {e : EvalError} (herror : (Node.evaluateAll statements table).result = .error e) :
    ∃ name location, e = .undefined name location := by
  obtain ⟨tokens, hscan, hstatements⟩ := h
  exact (StatementLines.of_scan hscan hstatements).undefined_of_error herror

theorem append (hfront : HasStatements front before) (hback : HasStatements back after)
    (hsource : source.toList = front.toList ++ '\n' :: back.toList) :
    HasStatements source
      (before ++ after.map (Node.relocate (·.down (front.toList.count '\n' + 1)))) := by
  obtain ⟨tokens, hscan, hbefore⟩ := hfront
  obtain ⟨more, hmore, hafter⟩ := hback
  have hbelow := scanFrom_below hmore (front.toList.count '\n' + 1)
  refine ⟨tokens ++ more.map (Token.relocate (·.down (front.toList.count '\n' + 1))), ?_, ?_⟩
  · rw [scan] at hscan ⊢
    rw [hsource, scanFrom_append_newline, hscan]
    simp only [Location.origin, Int.zero_add]
    rw [hbelow]
  · rw [Line.ofTokens_append, List.map_append, List.map_append, hbefore, map_statement_below hafter]
    -- The tokens of the upper text stand above those of the lower one.
    intro a ha b hb
    have hupper := (line_of_mem_scanFrom hscan (List.mem_of_getLast? ha)).2.1
    have hlower := (line_of_mem_scanFrom hbelow (List.mem_of_head? hb)).1
    simp only [Location.origin] at hupper hlower
    omega

end HasStatements

/-- What running texts one after the other yields: all results, or the number of the first text that
fails and its error; and the session as it is afterwards. -/
structure SeriesReport where
  result : Except (ℕ × RunError) (List Float)
  session : Session

/-- Runs texts one after the other, up to the first that fails. -/
def Session.runInTurn : Session → List String → SeriesReport
  | session, [] => ⟨.ok [], session⟩
  | session, source :: rest =>
    let report := session.run source
    match report.result with
    | .error e => ⟨.error (0, e), report.session⟩
    | .ok results =>
      let others := report.session.runInTurn rest
      ⟨(others.result.map (results ++ ·)).mapError fun (j, e) => (j + 1, e), others.session⟩

/-- What stands before a text that is joined to others behind them. -/
def leading (sources : List String) : List Char :=
  sources.flatMap fun source => source.toList ++ ['\n']

theorem count_leading_cons (source : String) (rest : List String) :
    (leading (source :: rest)).count '\n' =
      source.toList.count '\n' + 1 + (leading rest).count '\n' := by
  simp only [leading, List.flatMap_cons, List.count_append, List.count_singleton_self]

theorem leading_begins {sources : List String} {j : ℕ} {source : String}
    (h : sources[j]? = some source) :
    leading (sources.take j) ++ source.toList <+: (joined sources).toList := by
  rw [toList_joined]
  induction sources generalizing j with
  | nil => simp at h
  | cons first rest ih =>
    cases j with
    | zero =>
      obtain rfl : first = source := by simpa using h
      cases rest <;> simp [leading, joinLines]
    | succ j =>
      have hj : rest[j]? = some source := by simpa using h
      have hne : rest ≠ [] := List.ne_nil_of_mem (List.mem_of_getElem? hj)
      obtain ⟨next, more, rfl⟩ := List.exists_cons_of_ne_nil hne
      have hbegins := ih hj
      simpa [leading, joinLines, List.prefix_append_right_inj] using hbegins

namespace Session

/-- A series of runs does what an evaluation does, and reports the same name, further down. -/
structure SeriesAgrees (sources : List String) (series : SeriesReport)
    (done : Evaluation (List Float)) : Prop where
  table_eq : done.table = series.session.table
  of_ok : ∀ results, series.result = .ok results → done.result = .ok results
  of_error : ∀ j e, series.result = .error (j, e) → j < sources.length ∧
    ∃ name location, e = .eval (.undefined name location) ∧
      done.result = .error
        (.undefined name (location.down ((leading (sources.take j)).count '\n' : ℕ)))

variable {session : Session} {first : String} {rest : List String} {before after : List Node}

theorem runInTurn_cons_of_error {e : RunError} (h : (session.run first).result = .error e) :
    session.runInTurn (first :: rest) = ⟨.error (0, e), (session.run first).session⟩ := by
  simp [runInTurn, h]

theorem runInTurn_cons_of_ok {results : List Float} (h : (session.run first).result = .ok results) :
    session.runInTurn (first :: rest) =
      ⟨(((session.run first).session.runInTurn rest).result.map (results ++ ·)).mapError
        fun (j, e) => (j + 1, e), ((session.run first).session.runInTurn rest).session⟩ := by
  simp [runInTurn, h]

theorem SeriesAgrees.nil :
    SeriesAgrees [] (session.runInTurn []) (Node.evaluateAll [] session.table) where
  table_eq := rfl
  of_ok := fun _ h => by cases h; rfl
  of_error := fun _ _ h => by cases h

theorem SeriesAgrees.cons_of_undefined {name : String} {location : Location}
    {tokens : List Token} (hrun : session.Evaluates first tokens before)
    (hdone : (Node.evaluateAll before session.table).result = .error (.undefined name location))
    (next : List Float → SymbolTable → Evaluation (List Float)) :
    SeriesAgrees (first :: rest) (session.runInTurn (first :: rest))
      ((Node.evaluateAll before session.table).andThen next) := by
  rw [runInTurn_cons_of_error ((hrun.result_eq_error_iff _).mpr hdone),
    Evaluation.andThen_of_error hdone]
  refine ⟨hrun.table_eq.symm, ?_, ?_⟩
  · intro results hall
    cases hall
  · intro j e herror
    cases herror
    exact ⟨Nat.zero_lt_succ _, name, location, rfl, by simp [leading, Location.down]⟩

/-- After a text that succeeds the series goes on with the others, further down in the joined
text. -/
theorem SeriesAgrees.cons_of_ok {values : List Float}
    (hfirst : (session.run first).result = .ok values) {done : Evaluation (List Float)}
    (hrest : SeriesAgrees rest ((session.run first).session.runInTurn rest) done) :
    SeriesAgrees (first :: rest) (session.runInTurn (first :: rest))
      ((done.mapError (EvalError.relocate (·.down (first.toList.count '\n' + 1)))).andThen
        fun more table => ⟨.ok (values ++ more), table, []⟩) := by
  obtain ⟨htable, hok, herror⟩ := hrest
  rw [runInTurn_cons_of_ok hfirst]
  cases hseries : ((session.run first).session.runInTurn rest).result with
  | ok results =>
    have hdown := congrArg (Except.mapError (EvalError.relocate
      (·.down (first.toList.count '\n' + 1)))) (hok results hseries)
    rw [Evaluation.andThen_of_ok hdown]
    refine ⟨htable, ?_, ?_⟩
    · intro all hall
      cases hall
      rfl
    · intro j e hfailed
      cases hfailed
  | error failure =>
    obtain ⟨j, e⟩ := failure
    obtain ⟨hlt, name, location, rfl, hdone⟩ := herror j e hseries
    have hdown := congrArg (Except.mapError (EvalError.relocate
      (·.down (first.toList.count '\n' + 1)))) hdone
    rw [Evaluation.andThen_of_error hdown]
    refine ⟨htable, ?_, ?_⟩
    · intro all hall
      cases hall
    · intro k other hfailed
      cases hfailed
      refine ⟨Nat.succ_lt_succ hlt, name, location, rfl, ?_⟩
      have hcount : ((leading (rest.take j)).count '\n' : ℤ) + (first.toList.count '\n' + 1) =
          ((leading ((first :: rest).take (j + 1))).count '\n' : ℕ) := by
        rw [List.take_succ_cons, count_leading_cons]
        omega
      rw [← hcount, ← Location.down_down]
      rfl

theorem SeriesAgrees.cons (h : HasStatements first before)
    (hrest : ∀ results, (session.run first).result = .ok results →
      SeriesAgrees rest ((session.run first).session.runInTurn rest)
        (Node.evaluateAll after (session.run first).session.table)) :
    SeriesAgrees (first :: rest) (session.runInTurn (first :: rest))
      (Node.evaluateAll (before ++
        after.map (Node.relocate (·.down (first.toList.count '\n' + 1)))) session.table) := by
  obtain ⟨tokens, hrun⟩ := h.evaluates session
  rw [Node.evaluateAll_append]
  cases hdone : (Node.evaluateAll before session.table).result with
  | error e =>
    obtain ⟨name, location, rfl⟩ := h.undefined_of_error hdone
    exact .cons_of_undefined hrun hdone _
  | ok values =>
    have hfirst := (hrun.result_eq_ok_iff values).mpr hdone
    have hagrees := SeriesAgrees.cons_of_ok hfirst (hrest values hfirst)
    rw [Evaluation.andThen_of_ok hdone, ← hrun.table_eq, Node.evaluateAll_relocate]
    -- The logs differ, and nothing is said about them.
    exact ⟨hagrees.table_eq, hagrees.of_ok, hagrees.of_error⟩

/-- Joined texts have statements of their own, whose evaluation does what the series of runs does. -/
theorem exists_agrees {sources : List String}
    (h : ∀ source ∈ sources, ∃ statements, HasStatements source statements) :
    ∃ statements, HasStatements (joined sources) statements ∧
      ∀ session : Session, SeriesAgrees sources (session.runInTurn sources)
        (Node.evaluateAll statements session.table) := by
  induction sources with
  | nil => exact ⟨[], ⟨[], by decide +kernel, rfl⟩, fun _ => .nil⟩
  | cons first rest ih =>
    obtain ⟨before, hbefore⟩ := h first List.mem_cons_self
    obtain ⟨after, hafter, hagrees⟩ := ih fun source hmem => h source (List.mem_cons_of_mem _ hmem)
    cases rest with
    | nil =>
      have hjoined : joined [first] = first := rfl
      refine ⟨before, hjoined ▸ hbefore, fun session => ?_⟩
      have hcons : SeriesAgrees [first] (session.runInTurn [first])
          (Node.evaluateAll (before ++ [].map (Node.relocate _)) session.table) :=
        .cons hbefore fun _ _ => .nil
      rwa [List.map_nil, List.append_nil] at hcons
    | cons next rest =>
      refine ⟨_, hbefore.append hafter ?_, fun session => .cons hbefore fun _ _ => hagrees _⟩
      simp [joinLines]

/-- Splitting a text over several runs does not change what it does. Texts that are programs are run
one after the other, up to the first that fails, and joined in one run. If all succeed, the joined
run has all their results, the last of them as its value, and leaves the same table. If one fails,
it fails for a name; the joined run reports the same name, further down by the line feeds before the
text that failed, and leaves the same table. -/
theorem run_joined (table : SymbolTable) (initial value : Option Float) (sources : List String)
    (h : ∀ source ∈ sources, ∃ tokens program,
      scan source = .ok tokens ∧ parse tokens = .ok program) :
    ((Session.mk table value).run (joined sources)).session.table =
      ((Session.mk table initial).runInTurn sources).session.table ∧
    (∀ results, ((Session.mk table initial).runInTurn sources).result = .ok results →
      ((Session.mk table value).run (joined sources)).result = .ok results ∧
      ((Session.mk table value).run (joined sources)).session.value = results.getLast?) ∧
    ∀ j e, ((Session.mk table initial).runInTurn sources).result = .error (j, e) →
      ∃ source name location, sources[j]? = some source ∧ e = .eval (.undefined name location) ∧
        leading (sources.take j) ++ source.toList <+: (joined sources).toList ∧
        ((Session.mk table value).run (joined sources)).result =
          .error (.eval (.undefined name
            (location.down ((leading (sources.take j)).count '\n' : ℕ)))) := by
  have hprograms : ∀ source ∈ sources, ∃ statements, HasStatements source statements := by
    intro source hmem
    obtain ⟨tokens, program, hscan, hparse⟩ := h source hmem
    exact ⟨_, .of_parse hscan hparse⟩
  obtain ⟨statements, hstatements, hagrees⟩ := exists_agrees hprograms
  obtain ⟨tokens, hrun⟩ := hstatements.evaluates ⟨table, value⟩
  obtain ⟨htable, hok, herror⟩ := hagrees ⟨table, initial⟩
  refine ⟨hrun.table_eq.trans htable, ?_, ?_⟩
  · intro results hresults
    have hresult := (hrun.result_eq_ok_iff results).mpr (hok results hresults)
    exact ⟨hresult, hrun.value_of_ok results hresult⟩
  · intro j e hfailed
    obtain ⟨hlt, name, location, rfl, hdone⟩ := herror j e hfailed
    have hsource := List.getElem?_eq_getElem hlt
    exact ⟨_, name, location, hsource, rfl, leading_begins hsource,
      (hrun.result_eq_error_iff _).mpr hdone⟩

theorem run_joined_of_texts :
    (((Session.mk (.ofList [("z", 1.0)]) none).run "x = z\n\ny = x").result = .ok [1.0, 1.0] ∧
      ((Session.mk (.ofList [("z", 1.0)]) none).run "x = z\n\ny = x").session.value = some 1.0) ∧
    ((Session.mk (.ofList [("z", 1.0)]) none).run "x = z\n\ny = x\n\ny = w").result =
      .error (.eval (.undefined "w" ⟨4, 4⟩)) ∧
    ((Session.mk (.ofList [("z", 1.0)]) none).run "x = z\n\ny = x\n\ny = w").session.table =
      ((Session.mk (.ofList [("z", 1.0)]) none).runInTurn
        ["x = z", "", "y = x\n\ny = w"]).session.table := by
  have hfirst : scan "x = z" = .ok [⟨.identifier, "x", ⟨0, 0⟩⟩, ⟨.assign, "=", ⟨0, 2⟩⟩,
      ⟨.identifier, "z", ⟨0, 4⟩⟩] := by decide +kernel
  have hblank : scan "" = .ok [] := by decide +kernel
  have hsecond : scan "y = x" = .ok [⟨.identifier, "y", ⟨0, 0⟩⟩, ⟨.assign, "=", ⟨0, 2⟩⟩,
      ⟨.identifier, "x", ⟨0, 4⟩⟩] := by decide +kernel
  have hfailing : scan "y = x\n\ny = w" = .ok [⟨.identifier, "y", ⟨0, 0⟩⟩, ⟨.assign, "=", ⟨0, 2⟩⟩,
      ⟨.identifier, "x", ⟨0, 4⟩⟩, ⟨.identifier, "y", ⟨2, 0⟩⟩, ⟨.assign, "=", ⟨2, 2⟩⟩,
      ⟨.identifier, "w", ⟨2, 4⟩⟩] := by decide +kernel
  have hprograms {last : String}
      (hlast : ∃ tokens program, scan last = .ok tokens ∧ parse tokens = .ok program) :
      ∀ source ∈ ["x = z", "", last], ∃ tokens program,
        scan source = .ok tokens ∧ parse tokens = .ok program := by
    rw [List.forall_mem_cons, List.forall_mem_cons, List.forall_mem_singleton]
    exact ⟨⟨_, _, hfirst, rfl⟩, ⟨_, _, hblank, rfl⟩, hlast⟩
  have hz : (NameMap.ofList [("z", 1.0)]).get? "z" = some 1.0 := rfl
  have hx : ((NameMap.ofList [("z", 1.0)]).insert "x" 1.0).get? "x" = some 1.0 :=
    NameMap.get?_insert_self _ _ _
  constructor
  · have hseries :
        ((Session.mk (.ofList [("z", 1.0)]) none).runInTurn ["x = z", "", "y = x"]).result =
          .ok [1.0, 1.0] := by
      simp only [runInTurn, run_eq_evaluate _ hfirst rfl, run_eq_evaluate _ hblank rfl,
        run_eq_evaluate _ hsecond rfl, evaluate, Program.evaluate, Program.ofStatements,
        Node.evaluateAll_nil, Node.evaluateAll_assigned hz, Node.evaluateAll_assigned hx,
        Except.map]
      rfl
    have hjoined := run_joined (.ofList [("z", 1.0)]) none none _ (hprograms ⟨_, _, hsecond, rfl⟩)
    exact hjoined.2.1 _ hseries
  · have hw : (((NameMap.ofList [("z", 1.0)]).insert "x" 1.0).insert "y" 1.0).get? "w" = none :=
      rfl
    have hseries :
        ((Session.mk (.ofList [("z", 1.0)]) none).runInTurn
          ["x = z", "", "y = x\n\ny = w"]).result = .error (2, .eval (.undefined "w" ⟨2, 4⟩)) := by
      simp only [runInTurn, run_eq_evaluate _ hfirst rfl, run_eq_evaluate _ hblank rfl,
        run_eq_evaluate _ hfailing rfl, evaluate, Program.evaluate, Program.ofStatements,
        Node.evaluateAll_nil, Node.evaluateAll_assigned hz, Node.evaluateAll_assigned hx,
        Node.evaluateAll_assigned_undefined hw, Except.map]
      rfl
    obtain ⟨htable, _, hfailed⟩ :=
      run_joined (.ofList [("z", 1.0)]) none none _ (hprograms ⟨_, _, hfailing, rfl⟩)
    obtain ⟨_, _, _, _, he, _, hresult⟩ := hfailed 2 _ hseries
    cases he
    exact ⟨hresult, htable⟩

end Session

end Calculator
