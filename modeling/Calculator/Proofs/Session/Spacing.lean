import Calculator.Proofs.Scan.Insertion
import Calculator.Proofs.Session.Atomicity

/-! # Spacing carries no meaning

Blanks that are inserted between the tokens of a line change nothing but columns: the tokens are the
same, and a session runs to the same results and the same table, or reports the same errors.
-/
namespace Calculator

def RunError.relocate (f : Location → Location) : RunError → RunError
  | lexical error => lexical (error.relocate f)
  | parse error => parse (error.relocate f)
  | eval error => eval (error.relocate f)

namespace Session

variable {f : Location → Location}

theorem evaluate_relocate (session : Session) (statements : List Node) :
    (session.evaluate (.ofStatements (statements.map (Node.relocate f)))).session =
      (session.evaluate (.ofStatements statements)).session ∧
    (session.evaluate (.ofStatements (statements.map (Node.relocate f)))).result =
      (session.evaluate (.ofStatements statements)).result.mapError (RunError.relocate f) := by
  simp only [evaluate, Program.evaluate, Program.ofStatements, Node.evaluateAll_relocate]
  obtain ⟨result, table, log⟩ := Node.evaluateAll statements session.table
  cases result <;> exact ⟨rfl, rfl⟩

/-- A text with the tokens of another, at other places, runs as the other does. -/
theorem run_relocate (session : Session) {source other : String} {tokens : List Token}
    (hscan : scan source = .ok tokens) (hother : scan other = .ok (tokens.map (Token.relocate f)))
    (hends : ∀ token ∈ tokens, (token.relocate f).endLocation = f token.endLocation)
    (hlines : ∀ a ∈ tokens, ∀ b ∈ tokens, (a.relocate f).line = (b.relocate f).line ↔ a.line = b.line) :
    (session.run other).session = (session.run source).session ∧
    (session.run other).result = (session.run source).result.mapError (RunError.relocate f) := by
  cases hparse : parse tokens with
  | error e =>
    rw [session.run_of_parse_error hscan hparse,
      session.run_of_parse_error hother (parse_relocate_of_error hends hlines hparse)]
    exact ⟨rfl, rfl⟩
  | ok program =>
    obtain ⟨statements, hstatements, rfl⟩ := (parse_eq_ok_iff tokens program).mp hparse
    have hmoved : parse (tokens.map (Token.relocate f)) =
        .ok (.ofStatements (statements.map (Node.relocate f))) := by
      refine (parse_eq_ok_iff _ _).mpr ⟨_, ?_, rfl⟩
      rw [Line.map_statement_relocate hends hlines, hstatements, List.map_map, List.map_map]
      rfl
    obtain ⟨hresult, hsession⟩ := session.run_eq_evaluate hscan hparse
    obtain ⟨hresult', hsession'⟩ := session.run_eq_evaluate hother hmoved
    rw [hresult, hsession, hresult', hsession']
    exact session.evaluate_relocate statements

/-- Blanks that are inserted into a text, at an offset that is inside no token, carry no meaning. The
tokens keep kind, lexeme and line, and their columns but for those that begin behind the offset on
its line. In every session the text runs to the same results and the same session, or to the same
errors, reported where their places have been moved to; and no place is moved to another line. -/
theorem run_insert {front back blanks : String} {tokens : List Token}
    (hscan : scan (front ++ back) = .ok tokens)
    (hcut : ∀ token ∈ tokens, ¬ (token.start (front ++ back) < front.length ∧
      front.length < token.stop (front ++ back)))
    (hblanks : ∀ c ∈ blanks.toList, isBlank c = true ∧ c ≠ '\n') :
    scan (front ++ blanks ++ back) = .ok (tokens.map (Token.relocate (.inserting front blanks))) ∧
    (∀ token ∈ tokens, Location.inserting front blanks token.location =
      if token.line = (Location.following front.toList).line ∧
          front.length ≤ token.start (front ++ back) then token.location.right blanks.length
      else token.location) ∧
    (∀ location, (Location.inserting front blanks location).line = location.line) ∧
    ∀ session : Session,
      (session.run (front ++ blanks ++ back)).session = (session.run (front ++ back)).session ∧
      (session.run (front ++ blanks ++ back)).result =
        (session.run (front ++ back)).result.mapError
          (RunError.relocate (.inserting front blanks)) := by
  have hlines := Location.line_makeRoom (.following front.toList) blanks.length
  have hmoved := scan_insert hscan hcut hblanks
  refine ⟨hmoved, fun token htoken => makeRoom_location hscan htoken _, hlines, ?_⟩
  intro session
  apply session.run_relocate hscan hmoved
  · intro token htoken
    exact endLocation_makeRoom hscan htoken (hcut token htoken) _
  · intro a _ b _
    simp only [Token.line, Token.relocate, hlines]

/-- In `a>=b c` above `d` a tabulator and a space are put between the `a` and the sign that touches
it. The `c`, which is refused, is reported two columns further to the right. -/
theorem run_insert_between_touching :
    let session : Session := .new .empty
    let tokens (n : Int) : List Token := [⟨.identifier, "a", ⟨0, 0⟩⟩,
      ⟨.operator .ge, ">=", ⟨0, 1 + n⟩⟩, ⟨.identifier, "b", ⟨0, 3 + n⟩⟩,
      ⟨.identifier, "c", ⟨0, 5 + n⟩⟩, ⟨.identifier, "d", ⟨1, 0⟩⟩]
    let refused (n : Int) : RunError := .parse (.refused [.unexpectedToken "c" ⟨0, 5 + n⟩])
    scan ("a" ++ ">=b c\nd") = .ok (tokens 0) ∧
    scan ("a" ++ "\t " ++ ">=b c\nd") = .ok (tokens 2) ∧
    (session.run ("a" ++ ">=b c\nd")).result = .error (refused 0) ∧
    (session.run ("a" ++ "\t " ++ ">=b c\nd")).result = .error (refused 2) := by
  intro session tokens refused
  have hscan : scan ("a" ++ ">=b c\nd") = .ok (tokens 0) := by decide +kernel
  have hparse : parse (tokens 0) = .error (.refused [.unexpectedToken "c" ⟨0, 5 + 0⟩]) := rfl
  have hcut : ∀ token ∈ tokens 0, ¬ (token.start ("a" ++ ">=b c\nd") < "a".length ∧
      "a".length < token.stop ("a" ++ ">=b c\nd")) := by
    decide +kernel
  have hblanks : ∀ c ∈ "\t ".toList, isBlank c = true ∧ c ≠ '\n' :=
    List.forall_mem_cons.mpr ⟨by decide, List.forall_mem_singleton.mpr (by decide)⟩
  obtain ⟨hmoved, _, _, hrun⟩ := run_insert hscan hcut hblanks
  have hrefused : (session.run ("a" ++ ">=b c\nd")).result = .error (refused 0) := by
    rw [session.run_of_parse_error hscan hparse]
  refine ⟨hscan, hmoved, hrefused, ?_⟩
  rw [(hrun session).2, hrefused]
  rfl

end Session

end Calculator
