import Mathlib.Order.Bounds.Basic
import Calculator.Proofs.Reading.Viable

/-! # The refusal is the earliest possible

A line outside of the grammar is refused at the end of its longest part that begins some line: at
the token that follows, or at the end of the line if the whole line is such a beginning.
-/
namespace Calculator
open Stacks

/-- The refusal of tokens of which exactly the first `k` begin a line: at the next token, or at the
end if there is none, which is shown as `EOL`. -/
def refusalAfter (tokens : List Token) (lineEnd : Location) (k : ℕ) : LineError :=
  let kinds := (tokens.take k).map Token.kind
  match tokens[k]? with
  | some token =>
    if leavesOpen kinds && endsOperand kinds then .unclosedParen (some token.lexeme) token.location
    else .unexpectedToken token.lexeme token.location
  | none => if endsOperand kinds then .unclosedParen none lineEnd else .unexpectedEnd lineEnd

def readableLengths (tokens : List Token) : Set ℕ :=
  {k | k ≤ tokens.length ∧ ∃ state, start.readAll (tokens.take k) = .ok state}

theorem exists_split_of_readAll_error {state : Stacks} {tokens : List Token} {failure : LineFailure}
    (h : state.readAll tokens = .error failure) :
    ∃ front token back middle, tokens = front ++ token :: back ∧
      state.readAll front = .ok middle ∧ middle.read token = .error failure := by
  induction tokens generalizing state with
  | nil => simp [readAll] at h
  | cons token rest ih =>
    cases hread : state.read token with
    | error other =>
      obtain rfl : other = failure := by simpa [readAll, hread] using h
      exact ⟨[], token, rest, state, rfl, rfl, hread⟩
    | ok next =>
      rw [readAll_cons_of_eq hread] at h
      obtain ⟨front, last, back, middle, rfl, hfront, hlast⟩ := ih h
      refine ⟨token :: front, last, back, middle, rfl, ?_, hlast⟩
      rw [readAll_cons_of_eq hread]
      exact hfront

theorem isGreatest_readableLengths {front back : List Token} {token : Token} {state : Stacks}
    {failure : LineFailure} (hfront : start.readAll front = .ok state)
    (htoken : state.read token = .error failure) :
    IsGreatest (readableLengths (front ++ token :: back)) front.length := by
  constructor
  · refine ⟨by simp, state, ?_⟩
    rw [List.take_left]
    exact hfront
  · rintro k ⟨_, next, hnext⟩
    by_contra hlt
    obtain ⟨m, hm⟩ := Nat.exists_eq_add_of_lt (Nat.lt_of_not_le hlt)
    have htake : (front ++ token :: back).take k = front ++ token :: back.take m := by
      rw [hm, Nat.add_assoc, List.take_length_add_append, List.take_succ_cons]
    rw [htake, readAll_append_of_eq hfront] at hnext
    simp [readAll, htoken] at hnext

theorem Stacks.Reached.refusal_of_read_error {tokens back : List Token} {state : Stacks}
    (h : Reached tokens state) {token : Token} (hreadable : token.Readable) {failure : LineFailure}
    (hread : state.read token = .error failure) (lineEnd : Location) :
    failure = .refused (refusalAfter (tokens ++ token :: back) lineEnd tokens.length) := by
  have hlast : (tokens ++ token :: back)[tokens.length]? = some token := by simp
  simp only [refusalAfter, List.take_left, hlast, h.endsOperand_eq, h.leavesOpen_eq]
  cases h.outcome hreadable with
  | taken hok _ => simp [hok] at hread
  | noOperand hexpects herror =>
    rw [herror] at hread
    simp [← Except.error.inj hread, hexpects]
  | noOperator hexpects herror =>
    rw [herror] at hread
    simp only [← Except.error.inj hread, hexpects, refusal, Bool.not_false, Bool.and_true]
    cases state.enclosing <;> rfl

theorem Stacks.Reached.refusal_of_finish {tokens : List Token} {state : Stacks}
    (h : Reached tokens state) (lineEnd : Location)
    (hbad : ¬ Phrase .rightExpr (tokens.map Token.kind)) :
    state.finish lineEnd = .error (.refused (refusalAfter tokens lineEnd tokens.length)) ∧
      (endsOperand (tokens.map Token.kind) = true → leavesOpen (tokens.map Token.kind) = true) := by
  have hend : tokens[tokens.length]? = none := by simp
  simp only [refusalAfter, List.take_length, hend, h.endsOperand_eq, h.leavesOpen_eq]
  cases h with
  | awaiting h => simp [finish, h.expectsOperand]
  | @complete tokens operand state node h hnode =>
    by_cases henclosing : state.enclosing = []
    · obtain ⟨tree, htree, _⟩ := h.complete_of_enclosing_eq_nil hnode henclosing
      exact absurd htree.phrase hbad
    · simp [finish, push, henclosing]

theorem exists_expression_refused {tokens : List Token}
    (hreadable : ∀ token ∈ tokens, token.Readable) (lineEnd : Location)
    (hbad : ¬ Phrase .rightExpr (tokens.map Token.kind)) :
    ∃ k, IsGreatest (readableLengths tokens) k ∧
      expression tokens lineEnd = .error (.refused (refusalAfter tokens lineEnd k)) ∧
      (k = tokens.length → endsOperand (tokens.map Token.kind) = true →
        leavesOpen (tokens.map Token.kind) = true) := by
  have hreached {front : List Token} {state : Stacks} (hfront : ∀ token ∈ front, token.Readable)
      (h : start.readAll front = .ok state) : Reached front state :=
    (Reached.awaiting .start).readAll hfront h
  cases hread : start.readAll tokens with
  | ok state =>
    obtain ⟨hfinish, hopen⟩ := (hreached hreadable hread).refusal_of_finish lineEnd hbad
    refine ⟨tokens.length, ⟨⟨le_rfl, state, ?_⟩, fun k hk => hk.1⟩, ?_, fun _ => hopen⟩
    · rw [List.take_length]
      exact hread
    · simp only [expression, hread]
      exact hfinish
  | error failure =>
    obtain ⟨front, token, back, state, rfl, hfront, htoken⟩ := exists_split_of_readAll_error hread
    have hprefix : ∀ other ∈ front, other.Readable := by
      intro other hother
      exact hreadable other (List.mem_append_left _ hother)
    have hrefusal : failure = .refused (refusalAfter (front ++ token :: back) lineEnd front.length) :=
      (hreached hprefix hfront).refusal_of_read_error (hreadable token (by simp)) htoken lineEnd
    refine ⟨front.length, isGreatest_readableLengths hfront htoken, ?_, ?_⟩
    · simp only [expression, hread]
      rw [hrefusal]
    · intro hlength
      simp at hlength

namespace Line

theorem tokens_ne_nil (line : Line) : line.tokens ≠ [] :=
  List.cons_ne_nil _ _

def last (line : Line) : Token :=
  line.tokens.getLast line.tokens_ne_nil

theorem endLocation_eq (line : Line) : line.endLocation = line.last.endLocation := by
  obtain ⟨first, rest⟩ := line
  cases rest with
  | nil => rfl
  | cons token rest =>
    simp [endLocation, last, tokens, List.getLast?_eq_some_getLast (List.cons_ne_nil token rest)]

/-- On a line that is no assignment, what begins a line is what begins an expression. -/
theorem viable_iff {line : Line} (hreadable : ∀ token ∈ line.tokens, token.Readable)
    (hstarts : ¬ line.StartsAssignment) (k : ℕ) :
    Viable ((line.tokens.take k).map Token.kind) ↔
      ∃ state, start.readAll (line.tokens.take k) = .ok state := by
  have htake : ∀ token ∈ line.tokens.take k, token.Readable := by
    intro token htoken
    exact hreadable token (List.mem_of_mem_take htoken)
  rw [exists_readAll_iff htake]
  constructor
  · rintro ⟨rest, hrest⟩
    apply hrest.exists_phrase
    intro hassignment
    apply hstarts
    apply hassignment.trans
    rw [List.map_take]
    exact List.take_prefix _ _
  · rintro ⟨rest, hrest⟩
    exact ⟨rest, .expression hrest⟩

theorem isGreatest_viable {line : Line} (hreadable : ∀ token ∈ line.tokens, token.Readable)
    (hstarts : ¬ line.StartsAssignment) {k : ℕ} (hk : IsGreatest (readableLengths line.tokens) k) :
    IsGreatest {k | k ≤ line.tokens.length ∧ Viable ((line.tokens.take k).map Token.kind)} k := by
  simp only [viable_iff hreadable hstarts]
  exact hk

theorem viable_assignment_iff {name sign : Token} (hname : name.kind = .identifier)
    (hsign : sign.kind = .assign) {tokens : List Token}
    (hreadable : ∀ token ∈ tokens, token.Readable) (k : ℕ) :
    Viable (((name :: sign :: tokens).take (k + 2)).map Token.kind) ↔
      ∃ state, start.readAll (tokens.take k) = .ok state := by
  have htake : ∀ token ∈ tokens.take k, token.Readable := by
    intro token htoken
    exact hreadable token (List.mem_of_mem_take htoken)
  rw [exists_readAll_iff htake]
  simp only [Viable, List.take_succ_cons, List.map_cons, hname, hsign, List.cons_append]
  constructor
  · rintro ⟨rest, hrest⟩
    cases hrest with
    | expression h => exact absurd h.assign_notMem (by simp)
    | assignment h => exact ⟨rest, h⟩
  · rintro ⟨rest, hrest⟩
    exact ⟨rest, .assignment hrest⟩

theorem isGreatest_viable_assignment {name sign : Token} (hname : name.kind = .identifier)
    (hsign : sign.kind = .assign) {tokens : List Token}
    (hreadable : ∀ token ∈ tokens, token.Readable) {k : ℕ}
    (hk : IsGreatest (readableLengths tokens) k) :
    IsGreatest {k | k ≤ (name :: sign :: tokens).length ∧
      Viable (((name :: sign :: tokens).take k).map Token.kind)} (k + 2) := by
  have hiff := viable_assignment_iff hname hsign hreadable
  obtain ⟨⟨hlength, hread⟩, hmax⟩ := hk
  refine ⟨⟨?_, (hiff k).mpr hread⟩, ?_⟩
  · simpa using hlength
  · rintro j ⟨hj, hviable⟩
    rcases Nat.lt_or_ge j 2 with hlt | hge
    · omega
    · obtain ⟨i, rfl⟩ := Nat.exists_eq_add_of_le' hge
      have hi : i ≤ tokens.length := by simpa using hj
      have hle : i ≤ k := hmax ⟨hi, (hiff i).mp hviable⟩
      omega

theorem refusalAfter_assignment {name sign : Token} (hname : name.kind = .identifier)
    (hsign : sign.kind = .assign) (tokens : List Token) (lineEnd : Location) (k : ℕ) :
    refusalAfter (name :: sign :: tokens) lineEnd (k + 2) = refusalAfter tokens lineEnd k := by
  simp only [refusalAfter, List.take_succ_cons, List.map_cons, hname, hsign,
    endsOperand_assignment, leavesOpen_assignment, List.getElem?_cons_succ]

/-- A line outside of the grammar is refused at the earliest place: behind its longest part that
begins a line of the grammar. If that is the whole line and ends in an operand, a parenthesis is
open. -/
theorem statement_refused_earliest (line : Line)
    (hreadable : ∀ token ∈ line.tokens, token.Readable)
    (hbad : ¬ IsLine (line.tokens.map Token.kind)) :
    ∃ k, IsGreatest {k | k ≤ line.tokens.length ∧ Viable ((line.tokens.take k).map Token.kind)} k ∧
      line.statement = .error (.refused (refusalAfter line.tokens line.last.endLocation k)) ∧
      (k = line.tokens.length → endsOperand (line.tokens.map Token.kind) = true →
        leavesOpen (line.tokens.map Token.kind) = true) ∧
      LineError.foundText none = "EOL" := by
  rw [← line.endLocation_eq]
  by_cases hstarts : line.StartsAssignment
  · obtain ⟨name, sign, tokens, rfl, hname, hsign⟩ := line.startsAssignment_iff.mp hstarts
    have htokens : ∀ token ∈ tokens, token.Readable := by
      intro token htoken
      exact hreadable token (List.mem_cons_of_mem _ (List.mem_cons_of_mem _ htoken))
    have hno : ¬ Phrase .rightExpr (tokens.map Token.kind) := by
      intro h
      apply hbad
      simpa [Line.tokens, hname, hsign] using IsLine.assignment h
    obtain ⟨k, hk, hexpression, hopen⟩ := exists_expression_refused htokens
      (Line.mk name (sign :: tokens)).endLocation hno
    refine ⟨k + 2, isGreatest_viable_assignment hname hsign htokens hk, ?_, ?_, rfl⟩
    · rw [statement_assignment hname hsign, hexpression]
      simp only [Line.tokens, refusalAfter_assignment hname hsign]
    · intro hlength hends
      simp only [Line.tokens, List.map_cons, hname, hsign, endsOperand_assignment] at hends
      simp only [Line.tokens, List.map_cons, hname, hsign, leavesOpen_assignment]
      exact hopen (by simpa [Line.tokens] using hlength) hends
  · have hno : ¬ Phrase .rightExpr (line.tokens.map Token.kind) := by
      intro h
      exact hbad (.expression h)
    obtain ⟨k, hk, hexpression, hopen⟩ := exists_expression_refused hreadable line.endLocation hno
    rw [statement_expression hstarts]
    exact ⟨k, isGreatest_viable hreadable hstarts hk, hexpression, hopen, rfl⟩

def openGroup : Line where
  first := ⟨.identifier, "x", ⟨0, 0⟩⟩
  rest :=
    [⟨.assign, "=", ⟨0, 2⟩⟩, ⟨.leftParen, "(", ⟨0, 4⟩⟩, ⟨.identifier, "a", ⟨0, 5⟩⟩]

theorem statement_refused_openGroup :
    (∀ token ∈ openGroup.tokens, token.Readable) ∧
    ¬ IsLine (openGroup.tokens.map Token.kind) ∧
    ∃ k, IsGreatest {k | k ≤ 4 ∧ Viable ((openGroup.tokens.take k).map Token.kind)} k ∧
      openGroup.statement = .error (.refused (refusalAfter openGroup.tokens ⟨0, 5⟩ k)) := by
  have hreadable : ∀ token ∈ openGroup.tokens, token.Readable := by
    simp only [tokens, openGroup, List.forall_mem_cons, Token.Readable]
    decide
  have hbad : ¬ IsLine (openGroup.tokens.map Token.kind) := by
    intro h
    exact absurd h.count_leftParen (by decide)
  obtain ⟨k, hk, hrefused, _⟩ := statement_refused_earliest openGroup hreadable hbad
  exact ⟨hreadable, hbad, k, hk, hrefused⟩

end Line

end Calculator
