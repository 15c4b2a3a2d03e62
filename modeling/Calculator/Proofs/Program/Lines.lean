import Calculator.Program
import Calculator.Proofs.Reading.Statement

/-! # Programs line by line

Tokens are cut into lines on both sides of a change of line as if each side stood alone, and tokens
in ascending order give lines with ascending numbers. Tokens are a program exactly when each of
their lines is a statement.
-/
namespace Calculator

namespace Line

theorem exists_ofTokens_cons (token : Token) (rest : List Token) :
    ∃ more lines, ofTokens (token :: rest) = ⟨token, more⟩ :: lines := by
  rw [ofTokens]
  split
  · exact ⟨[], [], rfl⟩
  · next line lines _ =>
    split
    · exact ⟨line.tokens, lines, rfl⟩
    · exact ⟨[], line :: lines, rfl⟩

theorem ofTokens_append {front back : List Token}
    (h : ∀ a ∈ front.getLast?, ∀ b ∈ back.head?, a.line ≠ b.line) :
    ofTokens (front ++ back) = ofTokens front ++ ofTokens back := by
  induction front with
  | nil => rfl
  | cons token rest ih =>
    cases rest with
    | nil =>
      cases back with
      | nil => simp [ofTokens]
      | cons next back =>
        obtain ⟨more, lines, hlines⟩ := exists_ofTokens_cons next back
        have hne : token.line ≠ next.line := h token (by simp) next (by simp)
        rw [List.singleton_append, ofTokens, hlines]
        simp [number, hne, ofTokens]
    | cons next rest =>
      have hrest := ih (by simpa using h)
      obtain ⟨more, lines, hlines⟩ := exists_ofTokens_cons next rest
      rw [hlines] at hrest
      rw [List.cons_append, ofTokens, hrest, ofTokens, hlines]
      simp only [List.cons_append]
      split <;> rfl

theorem ofTokens_of_line_eq {token : Token} {rest : List Token} {n : Int}
    (h : ∀ other ∈ token :: rest, other.line = n) : ofTokens (token :: rest) = [⟨token, rest⟩] := by
  induction rest generalizing token with
  | nil => rfl
  | cons next rest ih =>
    have hrest : ofTokens (next :: rest) = [⟨next, rest⟩] :=
      ih fun other hother => h other (List.mem_cons_of_mem _ hother)
    have hsame : token.line = next.line := by
      rw [h token (by simp), h next (by simp)]
    rw [ofTokens, hrest]
    simp [number, hsame, tokens]

theorem ofTokens_eq_nil_iff (tokens : List Token) : ofTokens tokens = [] ↔ tokens = [] := by
  cases tokens with
  | nil => simp [ofTokens]
  | cons token rest =>
    obtain ⟨more, lines, hlines⟩ := exists_ofTokens_cons token rest
    simp [hlines]

theorem map_statement_of_sentence {tokens : List Token} {node : Node} (h : Sentence tokens node)
    {n : Int} (hline : ∀ token ∈ tokens, token.line = n) :
    (ofTokens tokens).map statement = [.ok node] := by
  obtain ⟨first, rest, rfl⟩ := List.exists_cons_of_ne_nil h.ne_nil
  rw [ofTokens_of_line_eq hline, List.map_singleton,
    ((Line.mk first rest).statement_eq_ok_iff_sentence h.readable node).mpr h]

theorem mem_of_mem_ofTokens {list : List Token} {line : Line} (hline : line ∈ ofTokens list)
    {token : Token} (htoken : token ∈ line.tokens) : token ∈ list := by
  rw [← flatMap_tokens_ofTokens list]
  exact List.mem_flatMap.mpr ⟨line, hline, htoken⟩

theorem exists_mem_of_mem_ofTokens {list : List Token} {line : Line} (hline : line ∈ ofTokens list) :
    ∃ token ∈ list, token.line = line.number :=
  ⟨line.first, mem_of_mem_ofTokens hline List.mem_cons_self, rfl⟩

theorem pairwise_number_ofTokens {list : List Token}
    (h : list.Pairwise (fun a b => a.line ≤ b.line)) :
    (ofTokens list).Pairwise (fun a b => a.number < b.number) := by
  induction list with
  | nil => exact List.Pairwise.nil
  | cons token rest ih =>
    obtain ⟨htoken, hrest⟩ := List.pairwise_cons.mp h
    have hlines := ih hrest
    rw [ofTokens]
    split
    · exact List.pairwise_singleton _ _
    · next line lines heq =>
      rw [heq] at hlines
      obtain ⟨hline, hothers⟩ := List.pairwise_cons.mp hlines
      split
      · next hsame =>
        refine List.pairwise_cons.mpr ⟨?_, hothers⟩
        intro other hother
        have hlt := hline other hother
        rw [← hsame] at hlt
        exact hlt
      · next hne =>
        refine List.pairwise_cons.mpr ⟨?_, hlines⟩
        intro other hother
        have hfirst : token.line ≤ line.number :=
          htoken _ (mem_of_mem_ofTokens (heq ▸ List.mem_cons_self) List.mem_cons_self)
        have hlt : token.line < line.number := by omega
        rcases List.mem_cons.mp hother with rfl | hother
        · exact hlt
        · exact Int.lt_trans hlt (hline other hother)

end Line

namespace Parsing

def refusal? : Except LineFailure Node → Option LineError
  | .error (.refused error) => some error
  | _ => none

theorem gather_eq {outcomes : List (Except LineFailure Node)}
    (h : ∀ d, .error (.defect d) ∉ outcomes) :
    gather outcomes = .ok (outcomes.filterMap Except.toOption, outcomes.filterMap refusal?) := by
  induction outcomes with
  | nil => rfl
  | cons outcome rest ih =>
    have hrest := ih fun d hd => h d (List.mem_cons_of_mem _ hd)
    match outcome with
    | .ok node | .error (.refused e) =>
      simp only [gather, hrest]
      rfl
    | .error (.defect d) => exact absurd List.mem_cons_self (h d)

/-- What reading lines yields when the stacks never run short. -/
theorem resultOf_eq {outcomes : List (Except LineFailure Node)}
    (h : ∀ d, .error (.defect d) ∉ outcomes) :
    resultOf outcomes =
      if outcomes.filterMap refusal? = [] then
        .ok (.ofStatements (outcomes.filterMap Except.toOption))
      else .error (.refused (outcomes.filterMap refusal?)) := by
  rw [resultOf, gather_eq h]
  cases outcomes.filterMap refusal? <;> rfl

theorem gather_map_ok (statements : List Node) :
    gather (statements.map .ok) = .ok (statements, []) := by
  induction statements with
  | nil => rfl
  | cons statement rest ih => simp [gather, ih]

theorem eq_map_ok_of_gather {outcomes : List (Except LineFailure Node)} {statements : List Node}
    (h : gather outcomes = .ok (statements, [])) : outcomes = statements.map .ok := by
  induction outcomes generalizing statements with
  | nil =>
    obtain rfl : statements = [] := by simpa [gather] using h
    rfl
  | cons outcome rest ih =>
    unfold gather at h
    split at h
    · cases h
    · cases h
    · next statement others errors hrest =>
      obtain ⟨rfl, rfl⟩ : statement :: others = statements ∧ errors = [] := by simpa using h
      rw [ih hrest, List.map_cons]
    · simp at h

end Parsing

theorem parse_eq_resultOf (tokens : List Token) :
    parse tokens = Parsing.resultOf ((Line.ofTokens tokens).map Line.statement) := by
  simp [parse, Parsing.ofTokens, Function.comp_def]

/-- Tokens are a program exactly when each of their lines is a statement. -/
theorem parse_eq_ok_iff (tokens : List Token) (program : Program) :
    parse tokens = .ok program ↔
      ∃ statements : List Node, (Line.ofTokens tokens).map Line.statement = statements.map .ok ∧
        program = .ofStatements statements := by
  rw [parse_eq_resultOf, Parsing.resultOf]
  constructor
  · intro h
    split at h
    · cases h
    · next statements hgather =>
      exact ⟨statements, Parsing.eq_map_ok_of_gather hgather, (Except.ok.inj h).symm⟩
    · cases h
  · rintro ⟨statements, hstatements, rfl⟩
    rw [hstatements, Parsing.gather_map_ok]

theorem parse_eq_ok_iff_sentence {tokens : List Token} {n : Int}
    (hline : ∀ token ∈ tokens, token.line = n) (statement : Node) :
    parse tokens = .ok (.ofStatements [statement]) ↔ Sentence tokens statement := by
  rw [parse_eq_ok_iff]
  constructor
  · rintro ⟨statements, hstatements, hprogram⟩
    obtain rfl : [statement] = statements := congrArg Program.statements hprogram
    cases tokens with
    | nil => cases hstatements
    | cons first rest =>
      rw [Line.ofTokens_of_line_eq hline] at hstatements
      exact Line.sentence_of_statement (List.singleton_inj.mp hstatements)
  · intro h
    exact ⟨[statement], Line.map_statement_of_sentence h hline, rfl⟩

end Calculator
