import Mathlib.Data.List.Chain
import Calculator.Proofs.Program.Reading

/-! # Programs run by run

A run is a maximal sequence of consecutive tokens with one line number; a number that comes back
begins a new run. Each run is parsed as if it stood alone, and tokens yield what their runs yield: the
refusals of all runs that are refused, or, if there are none, the statements of all.
-/
namespace Calculator

/-- Tokens cut into maximal runs with one line number each. -/
structure MaximalRuns (tokens : List Token) (runs : List (List Token)) : Prop where
  flatten_eq : runs.flatten = tokens
  ne_nil : ∀ run ∈ runs, run ≠ []
  line_eq : ∀ run ∈ runs, ∀ a ∈ run, ∀ b ∈ run, a.line = b.line
  line_ne : runs.IsChain fun front back =>
    ∀ a ∈ front.getLast?, ∀ b ∈ back.head?, a.line ≠ b.line

namespace MaximalRuns

variable {tokens : List Token} {run : List Token} {runs : List (List Token)}

theorem tail (h : MaximalRuns tokens (run :: runs)) : MaximalRuns runs.flatten runs where
  flatten_eq := rfl
  ne_nil := fun other hother => h.ne_nil other (List.mem_cons_of_mem _ hother)
  line_eq := fun other hother => h.line_eq other (List.mem_cons_of_mem _ hother)
  line_ne := h.line_ne.tail

theorem line_ne_of_mem_head? (h : MaximalRuns tokens (run :: runs)) :
    ∀ a ∈ run.getLast?, ∀ b ∈ runs.flatten.head?, a.line ≠ b.line := by
  intro a ha b hb
  cases runs with
  | nil => cases hb
  | cons next runs =>
    have hnext : next ≠ [] := h.ne_nil next (List.mem_cons_of_mem _ List.mem_cons_self)
    rw [List.flatten_cons, List.head?_append_of_ne_nil _ hnext] at hb
    exact (List.isChain_cons_cons.mp h.line_ne).1 a ha b hb

theorem eq_map_tokens (h : MaximalRuns tokens runs) :
    runs = (Line.ofTokens tokens).map Line.tokens := by
  induction runs generalizing tokens with
  | nil =>
    obtain rfl : [] = tokens := h.flatten_eq
    rfl
  | cons run runs ih =>
    obtain ⟨first, rest, rfl⟩ := List.exists_cons_of_ne_nil (h.ne_nil run List.mem_cons_self)
    have hline : ∀ token ∈ first :: rest, token.line = first.line := fun token htoken =>
      h.line_eq _ List.mem_cons_self token htoken first List.mem_cons_self
    rw [← h.flatten_eq, List.flatten_cons, Line.ofTokens_append h.line_ne_of_mem_head?,
      List.map_append, Line.ofTokens_of_line_eq hline, ← ih h.tail]
    rfl

end MaximalRuns

namespace Line

theorem isChain_number_ofTokens (tokens : List Token) :
    (ofTokens tokens).IsChain fun front back => front.number ≠ back.number := by
  induction tokens with
  | nil => exact List.isChain_nil
  | cons token rest ih =>
    rw [ofTokens]
    split
    · exact List.isChain_singleton _
    · next line lines hlines =>
      rw [hlines] at ih
      split
      · next hsame =>
        obtain ⟨hnext, hothers⟩ := List.isChain_cons.mp ih
        refine List.isChain_cons.mpr ⟨fun other hother => ?_, hothers⟩
        have hne := hnext other hother
        rwa [← hsame] at hne
      · next hne => exact List.isChain_cons_cons.mpr ⟨hne, ih⟩

theorem maximalRuns_ofTokens (tokens : List Token) :
    MaximalRuns tokens ((ofTokens tokens).map Line.tokens) where
  flatten_eq := flatMap_tokens_ofTokens tokens
  ne_nil := by
    rw [List.forall_mem_map]
    exact fun line _ => line.tokens_ne_nil
  line_eq := by
    rw [List.forall_mem_map]
    intro line hline a ha b hb
    exact (line_eq_number_of_mem hline ha).trans (line_eq_number_of_mem hline hb).symm
  line_ne := by
    rw [List.isChain_map]
    refine (isChain_number_ofTokens tokens).imp_of_mem_imp ?_
    intro front back hfront hback hne a ha b hb
    rw [line_eq_number_of_mem hfront (List.mem_of_getLast? ha),
      line_eq_number_of_mem hback (List.mem_of_head? hb)]
    exact hne

/-- The tokens of a line are parsed as the one line that they are. -/
theorem parse_tokens {tokens : List Token} {line : Line} (hline : line ∈ ofTokens tokens) :
    parse line.tokens = Parsing.resultOf [line.statement] := by
  have hcut : ofTokens line.tokens = [line] :=
    ofTokens_of_line_eq fun _ htoken => line_eq_number_of_mem hline htoken
  rw [parse_eq_resultOf, hcut, List.map_singleton]

theorem parse_tokens_eq_ok_iff {tokens : List Token} {line : Line} (hline : line ∈ ofTokens tokens)
    (statement : Node) :
    parse line.tokens = .ok (.ofStatements [statement]) ↔ line.statement = .ok statement := by
  have hstatements (node : Node) : Program.ofStatements [node] = .ofStatements [statement] ↔
      node = statement := by
    refine ⟨fun h => ?_, fun h => h ▸ rfl⟩
    exact List.singleton_inj.mp (congrArg Program.statements h)
  rw [parse_tokens hline]
  rcases line.statement with (error | d) | node <;>
    simp [Parsing.resultOf, Parsing.gather, hstatements]

theorem parse_tokens_eq_refused_iff {tokens : List Token} {line : Line}
    (hline : line ∈ ofTokens tokens) (error : LineError) :
    parse line.tokens = .error (.refused [error]) ↔ line.statement = .error (.refused error) := by
  rw [parse_tokens hline]
  rcases line.statement with (error | d) | node <;> simp [Parsing.resultOf, Parsing.gather]

end Line

def RunIs (run : List Token) (statement : Node) : Prop :=
  parse run = .ok (.ofStatements [statement])

def RunRefused (run : List Token) (error : LineError) : Prop :=
  parse run = .error (.refused [error])

/-- The runs that fail when they are parsed alone. -/
def failingRuns (runs : List (List Token)) : List (List Token) :=
  runs.filter fun run => !(parse run).isOk

section FailingRuns

variable {run : List Token} {runs : List (List Token)}

theorem failingRuns_cons_of_ok {program : Program} (h : parse run = .ok program) :
    failingRuns (run :: runs) = failingRuns runs :=
  List.filter_cons_of_neg (by simp [h, Except.isOk, Except.toBool])

theorem failingRuns_cons_of_error {e : ParseError} (h : parse run = .error e) :
    failingRuns (run :: runs) = run :: failingRuns runs :=
  List.filter_cons_of_pos (by simp [h, Except.isOk, Except.toBool])

end FailingRuns

theorem forall₂_runIs_iff {tokens : List Token} {lines : List Line}
    (hlines : ∀ line ∈ lines, line ∈ Line.ofTokens tokens) (statements : List Node) :
    List.Forall₂ RunIs (lines.map Line.tokens) statements ↔
      lines.map Line.statement = statements.map .ok := by
  induction lines generalizing statements with
  | nil => cases statements <;> simp
  | cons line lines ih =>
    rw [List.forall_mem_cons] at hlines
    cases statements with
    | nil => simp
    | cons statement statements =>
      simp [RunIs, Line.parse_tokens_eq_ok_iff hlines.1, ih hlines.2]

theorem forall₂_runRefused_iff {tokens : List Token} {lines : List Line}
    (hreadable : ∀ token ∈ tokens, token.Readable)
    (hlines : ∀ line ∈ lines, line ∈ Line.ofTokens tokens) (errors : List LineError) :
    List.Forall₂ RunRefused (failingRuns (lines.map Line.tokens)) errors ↔
      errors = (lines.map Line.statement).filterMap Parsing.refusal? := by
  induction lines generalizing errors with
  | nil => cases errors <;> simp [failingRuns]
  | cons line lines ih =>
    rw [List.forall_mem_cons] at hlines
    have hline : ∀ token ∈ line.tokens, token.Readable := fun token htoken =>
      hreadable token (Line.mem_of_mem_ofTokens hlines.1 htoken)
    rw [List.map_cons, List.map_cons]
    rcases line.statement_cases hline with ⟨node, hnode⟩ | ⟨e, he, _⟩
    · rw [failingRuns_cons_of_ok ((Line.parse_tokens_eq_ok_iff hlines.1 node).mpr hnode), hnode,
        ih hlines.2]
      rfl
    · have hparse := (Line.parse_tokens_eq_refused_iff hlines.1 e).mpr he
      have hfirst (error : LineError) : RunRefused line.tokens error ↔ error = e := by
        simp [RunRefused, hparse, eq_comm]
      rw [failingRuns_cons_of_error hparse, he]
      cases errors with
      | nil => simp [Parsing.refusal?]
      | cons error errors => simp [Parsing.refusal?, hfirst, ih hlines.2]

namespace Parsing

def reported : Except ParseError Program → List LineError
  | .error (.refused errors) => errors
  | _ => []

/-- Two parses put together: the statements of both, if both succeed, and otherwise the refusals of
the first before those of the second. -/
def join (first second : Except ParseError Program) : Except ParseError Program :=
  match first, second with
  | .ok before, .ok after => .ok (.ofStatements (before.statements ++ after.statements))
  | _, _ => .error (.refused (reported first ++ reported second))

end Parsing

theorem refusalsIn_append {front back : List Token}
    (h : ∀ a ∈ front.getLast?, ∀ b ∈ back.head?, a.line ≠ b.line) :
    refusalsIn (front ++ back) = refusalsIn front ++ refusalsIn back := by
  simp only [refusalsIn, Line.ofTokens_append h, List.map_append, List.filterMap_append]

/-- Tokens are parsed on both sides of a change of line as if each side stood alone. -/
theorem parse_append {front back : List Token}
    (hreadable : ∀ token ∈ front ++ back, token.Readable)
    (h : ∀ a ∈ front.getLast?, ∀ b ∈ back.head?, a.line ≠ b.line) :
    parse (front ++ back) = Parsing.join (parse front) (parse back) := by
  have hfront := parse_eq_of_readable fun token htoken =>
    hreadable token (List.mem_append_left back htoken)
  have hback := parse_eq_of_readable fun token htoken =>
    hreadable token (List.mem_append_right front htoken)
  rw [parse_eq_of_readable hreadable, hfront, hback, refusalsIn_append h, Line.ofTokens_append h,
    List.map_append, List.filterMap_append]
  by_cases hnone : refusalsIn front = []
  · by_cases hnoneBack : refusalsIn back = []
    · simp [hnone, hnoneBack, Parsing.join, Program.ofStatements]
    · simp [hnone, hnoneBack, Parsing.join, Parsing.reported]
  · by_cases hnoneBack : refusalsIn back = []
    · simp [hnone, hnoneBack, Parsing.join, Parsing.reported]
    · simp [hnone, hnoneBack, Parsing.join, Parsing.reported]

structure Program.StandsAtFirst (program : Program) : Prop where
  of_nil : program.statements = [] → program.location = .origin
  of_head : ∀ first ∈ program.statements.head?, first.location? = some program.location

theorem standsAtFirst_of_parse {tokens : List Token} {program : Program}
    (h : parse tokens = .ok program) : program.StandsAtFirst := by
  obtain ⟨statements, hstatements, rfl⟩ := (parse_eq_ok_iff tokens program).mp h
  refine ⟨?_, ?_⟩
  · intro hnone
    obtain rfl : statements = [] := hnone
    rfl
  · intro first hfirst
    have hhead : statements.head? = some first := hfirst
    have hmem : (.ok first : Except LineFailure Node) ∈ (Line.ofTokens tokens).map Line.statement := by
      rw [hstatements]
      exact List.mem_map_of_mem (List.mem_of_head? hfirst)
    obtain ⟨line, _, hline⟩ := List.mem_map.mp hmem
    obtain ⟨location, hlocation⟩ := (Line.sentence_of_statement hline).exists_location
    simp [Program.ofStatements, hhead, hlocation]

/-- Parsing is told by the maximal runs of consecutive tokens with one line number. There is one way
to cut tokens into such runs. They are a program exactly when each run alone is a statement, and it
has these statements, one for each run. They are refused exactly when some run alone fails, with one
refusal for each run that fails, which is that of the run alone. On both sides of a change of line
tokens are parsed as if each side stood alone: two programs are put together, and if one side fails,
the refusals of the first are reported before those of the second. A program stands where its first
statement does. -/
theorem parse_by_runs {tokens : List Token} (hreadable : ∀ token ∈ tokens, token.Readable) :
    (∃! runs, MaximalRuns tokens runs) ∧
    (∀ runs, MaximalRuns tokens runs →
      (∀ program, parse tokens = .ok program ↔
        ∃ statements, List.Forall₂ RunIs runs statements ∧ program = .ofStatements statements) ∧
      ∀ e, parse tokens = .error e ↔
        ∃ errors, List.Forall₂ RunRefused (failingRuns runs) errors ∧ errors ≠ [] ∧
          e = .refused errors) ∧
    (∀ front back, tokens = front ++ back →
      (∀ a ∈ front.getLast?, ∀ b ∈ back.head?, a.line ≠ b.line) →
        parse tokens = Parsing.join (parse front) (parse back)) ∧
    ∀ program, parse tokens = .ok program → program.StandsAtFirst := by
  refine ⟨⟨_, Line.maximalRuns_ofTokens tokens, fun _ h => h.eq_map_tokens⟩, ?_, ?_,
    fun _ => standsAtFirst_of_parse⟩
  · rintro runs hruns
    obtain rfl := hruns.eq_map_tokens
    constructor
    · intro program
      simp only [forall₂_runIs_iff fun _ => id, parse_eq_ok_iff]
    · intro e
      constructor
      · intro h
        obtain ⟨rfl, hne⟩ := refusalsIn_of_parse_error hreadable h
        exact ⟨_, (forall₂_runRefused_iff hreadable (fun _ => id) _).mpr rfl, hne, rfl⟩
      · rintro ⟨errors, hfails, hne, rfl⟩
        obtain rfl : errors = refusalsIn tokens :=
          (forall₂_runRefused_iff hreadable (fun _ => id) errors).mp hfails
        rw [parse_eq_of_readable hreadable, if_neg hne]
  · rintro front back rfl h
    exact parse_append hreadable h

/-- The number of the first line comes back behind another line: in the first tokens three lines are
statements, in the second the middle line and the last are refused. -/
theorem parse_by_runs_of_returning_line :
    parse [⟨.identifier, "a", ⟨2, 0⟩⟩, ⟨.identifier, "b", ⟨5, 0⟩⟩, ⟨.identifier, "c", ⟨2, 0⟩⟩] =
      .ok (.ofStatements [.identifier "a" ⟨2, 0⟩, .identifier "b" ⟨5, 0⟩, .identifier "c" ⟨2, 0⟩]) ∧
    parse [⟨.identifier, "a", ⟨2, 0⟩⟩, ⟨.operator .add, "+", ⟨0, 7⟩⟩, ⟨.number, "1", ⟨2, 4⟩⟩,
        ⟨.rightParen, ")", ⟨2, 5⟩⟩] =
      .error (.refused [.unexpectedToken "+" ⟨0, 7⟩, .unexpectedToken ")" ⟨2, 5⟩]) := by
  constructor
  · have hreadable : ∀ token ∈ ([⟨.identifier, "a", ⟨2, 0⟩⟩, ⟨.identifier, "b", ⟨5, 0⟩⟩,
        ⟨.identifier, "c", ⟨2, 0⟩⟩] : List Token), token.Readable := by
      simp only [List.forall_mem_cons, Token.Readable]
      decide
    refine (((parse_by_runs hreadable).2.1 _ (Line.maximalRuns_ofTokens _)).1 _).mpr ⟨_, ?_, rfl⟩
    exact .cons rfl (.cons rfl (.cons rfl .nil))
  · have hreadable : ∀ token ∈ ([⟨.identifier, "a", ⟨2, 0⟩⟩, ⟨.operator .add, "+", ⟨0, 7⟩⟩,
        ⟨.number, "1", ⟨2, 4⟩⟩, ⟨.rightParen, ")", ⟨2, 5⟩⟩] : List Token), token.Readable := by
      simp only [List.forall_mem_cons, Token.Readable]
      decide
    refine (((parse_by_runs hreadable).2.1 _ (Line.maximalRuns_ofTokens _)).2 _).mpr
      ⟨_, ?_, List.cons_ne_nil _ _, rfl⟩
    exact .cons rfl (.cons rfl .nil)

end Calculator
