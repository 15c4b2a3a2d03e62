import Mathlib.Data.List.Forall2
import Calculator.Proofs.Program.Lines
import Calculator.Proofs.Reading.FirstRefusal
import Calculator.Proofs.Scan.Lines
import Calculator.Proofs.Text.SingleLine

/-! # What a single line is

A line that can be scanned is blank, a statement, or refused; there is nothing else, and it is told
by parsing the line as a text of its own. What a refusal reports as found is a lexeme of the line.
-/
namespace Calculator

/-- What a single line is. -/
inductive LineReading where
  | blank
  | statement (node : Node)
  | refused (error : LineError)

namespace LineReading

def node? : LineReading → Option Node
  | statement node => some node
  | _ => none

def error? : LineReading → Option LineError
  | refused error => some error
  | _ => none

def outcome? : LineReading → Option (Except LineFailure Node)
  | blank => none
  | statement node => some (.ok node)
  | refused error => some (.error (.refused error))

end LineReading

/-- What a line is when it is read as a text of its own. -/
inductive ReadsAlone (line : String) : LineReading → Prop where
  | blank : scan line = .ok [] → ReadsAlone line .blank
  | statement {tokens : List Token} {program : Program} {node : Node} : scan line = .ok tokens →
      parse tokens = .ok program → program.statements = [node] → ReadsAlone line (.statement node)
  | refused {tokens : List Token} {error : LineError} : scan line = .ok tokens →
      parse tokens = .error (.refused [error]) → ReadsAlone line (.refused error)

/-- What a refusal of tokens reports: one of the tokens, or their end. -/
inductive LineError.Reports (tokens : List Token) (lineEnd : Location) : LineError → Prop where
  | unexpectedToken {token : Token} : token ∈ tokens →
      Reports tokens lineEnd (.unexpectedToken token.lexeme token.location)
  | unclosedParen {token : Token} : token ∈ tokens →
      Reports tokens lineEnd (.unclosedParen (some token.lexeme) token.location)
  | unexpectedEnd : Reports tokens lineEnd (.unexpectedEnd lineEnd)
  | unclosedAtEnd : Reports tokens lineEnd (.unclosedParen none lineEnd)

theorem LineError.Reports.exists_token {tokens : List Token} {lineEnd : Location} {e : LineError}
    (h : e.Reports tokens lineEnd) {lexeme : String} (hfound : lexeme ∈ e.found?) :
    ∃ token ∈ tokens, token.lexeme = lexeme := by
  cases h with
  | unexpectedToken | unexpectedEnd | unclosedAtEnd => cases hfound
  | @unclosedParen token htoken => exact ⟨token, htoken, Option.some.inj hfound⟩

theorem LineError.Reports.mono {tokens more : List Token} {lineEnd : Location} {e : LineError}
    (h : e.Reports tokens lineEnd) (hsub : tokens ⊆ more) : e.Reports more lineEnd := by
  cases h with
  | unexpectedToken htoken => exact .unexpectedToken (hsub htoken)
  | unclosedParen htoken => exact .unclosedParen (hsub htoken)
  | unexpectedEnd => exact .unexpectedEnd
  | unclosedAtEnd => exact .unclosedAtEnd

theorem reports_refusalAfter (tokens : List Token) (lineEnd : Location) (k : ℕ) :
    (refusalAfter tokens lineEnd k).Reports tokens lineEnd := by
  unfold refusalAfter
  dsimp only
  split
  · next token htoken =>
    split
    · exact .unclosedParen (List.mem_of_getElem? htoken)
    · exact .unexpectedToken (List.mem_of_getElem? htoken)
  · split
    · exact .unclosedAtEnd
    · exact .unexpectedEnd

theorem expression_cases {tokens : List Token} (hreadable : ∀ token ∈ tokens, token.Readable)
    (lineEnd : Location) :
    (∃ node, expression tokens lineEnd = .ok node) ∨
    ∃ e, expression tokens lineEnd = .error (.refused e) ∧ e.Reports tokens lineEnd := by
  by_cases h : Phrase .rightExpr (tokens.map Token.kind)
  · obtain ⟨node, hnode⟩ := h.exists_derives tokens rfl hreadable
    exact Or.inl ⟨node, Stacks.expression_of_derives hnode lineEnd⟩
  · obtain ⟨k, _, hrefused, _⟩ := exists_expression_refused hreadable lineEnd h
    exact Or.inr ⟨_, hrefused, reports_refusalAfter tokens lineEnd k⟩

theorem Line.statement_cases (line : Line) (hreadable : ∀ token ∈ line.tokens, token.Readable) :
    (∃ node, line.statement = .ok node) ∨
    ∃ e, line.statement = .error (.refused e) ∧ e.Reports line.tokens line.endLocation := by
  by_cases hstarts : line.StartsAssignment
  · obtain ⟨name, sign, tokens, rfl, hname, hsign⟩ := line.startsAssignment_iff.mp hstarts
    have hsub : tokens ⊆ (Line.mk name (sign :: tokens)).tokens := fun _ htoken =>
      List.mem_cons_of_mem _ (List.mem_cons_of_mem _ htoken)
    rw [statement_assignment hname hsign]
    rcases expression_cases (fun token htoken => hreadable token (hsub htoken))
      (Line.mk name (sign :: tokens)).endLocation with ⟨node, hnode⟩ | ⟨e, he, hreports⟩
    · exact Or.inl ⟨_, by rw [hnode]⟩
    · exact Or.inr ⟨e, by rw [he], hreports.mono hsub⟩
  · rw [statement_expression hstarts]
    exact expression_cases hreadable line.endLocation

theorem Line.statement_ne_defect (line : Line) (hreadable : ∀ token ∈ line.tokens, token.Readable)
    (d : Defect) : line.statement ≠ .error (.defect d) := by
  rcases line.statement_cases hreadable with ⟨node, hnode⟩ | ⟨e, he, _⟩
  · simp [hnode]
  · simp [he]

/-- The refusals of the lines that tokens consist of, in order. -/
def refusalsIn (tokens : List Token) : List LineError :=
  ((Line.ofTokens tokens).map Line.statement).filterMap Parsing.refusal?

theorem exists_line_of_mem_refusalsIn {tokens : List Token} {error : LineError}
    (h : error ∈ refusalsIn tokens) :
    ∃ line ∈ Line.ofTokens tokens, line.statement = .error (.refused error) := by
  obtain ⟨outcome, houtcome, hrefusal⟩ := List.mem_filterMap.mp h
  obtain ⟨line, hline, rfl⟩ := List.mem_map.mp houtcome
  refine ⟨line, hline, ?_⟩
  unfold Parsing.refusal? at hrefusal
  split at hrefusal
  · next other hother =>
    obtain rfl := Option.some.inj hrefusal
    exact hother
  · cases hrefusal

/-- Readable tokens are a program, or their refusals are reported. -/
theorem parse_eq_of_readable {tokens : List Token} (h : ∀ token ∈ tokens, token.Readable) :
    parse tokens =
      if refusalsIn tokens = [] then
        .ok (.ofStatements (((Line.ofTokens tokens).map Line.statement).filterMap Except.toOption))
      else .error (.refused (refusalsIn tokens)) := by
  rw [parse_eq_resultOf, Parsing.resultOf_eq]
  · rfl
  · intro d hd
    obtain ⟨line, hline, hdefect⟩ := List.mem_map.mp hd
    exact line.statement_ne_defect
      (fun token htoken => h token (Line.mem_of_mem_ofTokens hline htoken)) d hdefect

theorem refusalsIn_of_parse_ok {tokens : List Token} (h : ∀ token ∈ tokens, token.Readable)
    {program : Program} (hparse : parse tokens = .ok program) : refusalsIn tokens = [] := by
  rw [parse_eq_of_readable h] at hparse
  by_contra hne
  rw [if_neg hne] at hparse
  cases hparse

theorem refusalsIn_of_parse_error {tokens : List Token} (h : ∀ token ∈ tokens, token.Readable)
    {e : ParseError} (hparse : parse tokens = .error e) :
    e = .refused (refusalsIn tokens) ∧ refusalsIn tokens ≠ [] := by
  rw [parse_eq_of_readable h] at hparse
  by_cases hnone : refusalsIn tokens = []
  · rw [if_pos hnone] at hparse
    cases hparse
  · rw [if_neg hnone] at hparse
    exact ⟨(Except.error.inj hparse).symm, hnone⟩

/-- What is known of a line that is read alone: no line feed is reported, and a statement has a
place. -/
structure LineReading.Sound (reading : LineReading) : Prop where
  newline_notMem : ∀ e ∈ reading.error?, ∀ lexeme ∈ e.found?, '\n' ∉ lexeme.toList
  exists_location : ∀ node ∈ reading.node?, ∃ location, node.location? = some location

def LineReading.ofParse : Except ParseError Program → LineReading
  | .ok ⟨node :: _, _⟩ => .statement node
  | .error (.refused (error :: _)) => .refused error
  | _ => .blank

theorem ReadsAlone.eq_ofParse {line : String} {reading : LineReading} (h : ReadsAlone line reading) :
    ∃ tokens, scan line = .ok tokens ∧ reading = .ofParse (parse tokens) := by
  cases h with
  | blank h => exact ⟨[], h, rfl⟩
  | @statement tokens program node h hparse hnode =>
    obtain ⟨statements, location⟩ := program
    obtain rfl : statements = [node] := hnode
    exact ⟨tokens, h, by rw [hparse]; rfl⟩
  | @refused tokens error h hparse => exact ⟨tokens, h, by rw [hparse]; rfl⟩

theorem ReadsAlone.rightUnique : Relator.RightUnique ReadsAlone := by
  intro line reading other h hother
  obtain ⟨tokens, hscan, rfl⟩ := h.eq_ofParse
  obtain ⟨more, hmore, rfl⟩ := hother.eq_ofParse
  rw [hscan] at hmore
  rw [Except.ok.inj hmore]

theorem exists_scan_of_readsAlone {lines : List String} {readings : List LineReading}
    (h : List.Forall₂ ReadsAlone lines readings) : ∀ line ∈ lines, ∃ tokens, scan line = .ok tokens := by
  induction h with
  | nil => simp
  | cons hline _ ih =>
    obtain ⟨tokens, hscan, _⟩ := hline.eq_ofParse
    rw [List.forall_mem_cons]
    exact ⟨⟨tokens, hscan⟩, ih⟩

theorem Sentence.exists_location {tokens : List Token} {node : Node} (h : Sentence tokens node) :
    ∃ location, node.location? = some location := by
  cases h with
  | expression h => cases h.isExpression <;> exact ⟨_, rfl⟩
  | assignment => exact ⟨_, rfl⟩

theorem exists_reading {line : List Char} (hline : '\n' ∉ line) {tokens : List Token}
    (hscan : scanFrom .origin line = .ok tokens) :
    ∃ reading, ReadsAlone (String.ofList line) reading ∧
      (Line.ofTokens tokens).map Line.statement = reading.outcome?.toList ∧ reading.Sound := by
  have halone : scan (String.ofList line) = .ok tokens := by rw [scan, String.toList_ofList, hscan]
  have hparse := parse_eq_resultOf tokens
  cases tokens with
  | nil =>
    exact ⟨.blank, .blank halone, rfl, by simp [LineReading.error?], by simp [LineReading.node?]⟩
  | cons first rest =>
    have hreadable : ∀ token ∈ first :: rest, token.Readable := by
      intro token htoken
      exact (line_of_mem_scanFrom hscan htoken).2.2
    have hlines : (Line.ofTokens (first :: rest)).map Line.statement =
        [(Line.mk first rest).statement] := by
      rw [Line.ofTokens_of_line_eq (line_eq_zero hline hscan)]
      rfl
    rw [hlines] at hparse ⊢
    rcases Line.statement_cases ⟨first, rest⟩ hreadable with ⟨node, hnode⟩ | ⟨e, he, hreports⟩
    · have hsentence := (Line.statement_eq_ok_iff_sentence ⟨first, rest⟩ hreadable node).mp hnode
      rw [hnode] at hparse ⊢
      refine ⟨.statement node, .statement halone hparse rfl, rfl, by simp [LineReading.error?], ?_⟩
      intro other hother
      obtain rfl : node = other := by simpa [LineReading.node?] using hother
      exact hsentence.exists_location
    · rw [he] at hparse ⊢
      refine ⟨.refused e, .refused halone hparse, rfl, ?_, by simp [LineReading.node?]⟩
      intro error herror lexeme hlexeme
      obtain rfl : e = error := by simpa [LineReading.error?] using herror
      obtain ⟨token, htoken, rfl⟩ := hreports.exists_token hlexeme
      exact newline_notMem_lexeme hscan htoken

end Calculator
