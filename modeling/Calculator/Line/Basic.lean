import Calculator.Token.Basic

/-! # Lines of tokens

A statement is written on one line. The tokens of a program are cut into lines where the line
number of a token differs from that of the token before it; the numbers need not be in order, and
one that comes back begins a new line.
-/
namespace Calculator

/-- The tokens of one line; there is at least one. -/
structure Line where
  first : Token
  rest : List Token
  deriving DecidableEq

namespace Line

def tokens (line : Line) : List Token :=
  line.first :: line.rest

def number (line : Line) : Int :=
  line.first.line

def endLocation (line : Line) : Location :=
  (line.rest.getLast?.getD line.first).endLocation

def ofTokens : List Token → List Line
  | [] => []
  | token :: rest =>
    match ofTokens rest with
    | [] => [⟨token, []⟩]
    | line :: lines =>
      if token.line = line.number then ⟨token, line.tokens⟩ :: lines
      else ⟨token, []⟩ :: line :: lines

theorem flatMap_tokens_ofTokens (list : List Token) : (ofTokens list).flatMap tokens = list := by
  induction list with
  | nil => rfl
  | cons token rest ih =>
    rw [ofTokens]
    split
    · next h =>
      rw [h] at ih
      simp only [List.flatMap_nil] at ih
      simp [tokens, ← ih]
    · next line lines h =>
      rw [h, List.flatMap_cons] at ih
      split <;> simp [tokens, ← ih]

theorem line_eq_number_of_mem {list : List Token} {line : Line} (hline : line ∈ ofTokens list)
    {token : Token} (htoken : token ∈ line.tokens) : token.line = line.number := by
  induction list generalizing line with
  | nil => simp [ofTokens] at hline
  | cons head rest ih =>
    rw [ofTokens] at hline
    split at hline
    · obtain rfl : line = ⟨head, []⟩ := by simpa using hline
      obtain rfl : token = head := by simpa [tokens] using htoken
      rfl
    · next next lines h =>
      split at hline
      · next heq =>
        rcases List.mem_cons.1 hline with rfl | hline
        · rcases List.mem_cons.1 htoken with rfl | htoken
          · rfl
          · exact (ih (by simp [h]) htoken).trans heq.symm
        · exact ih (by simp [h, hline]) htoken
      · rcases List.mem_cons.1 hline with rfl | hline
        · obtain rfl : token = head := by simpa [tokens] using htoken
          rfl
        · exact ih (by simpa [h] using hline) htoken

end Line

end Calculator
