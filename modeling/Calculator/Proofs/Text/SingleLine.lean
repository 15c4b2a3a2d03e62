import Calculator.Program
import Calculator.Proofs.Text.Numerals

/-! # Messages take one line each

A quoted text shows a line feed by a letter, and a place is digits and signs. So the message about a
line holds no line feed, and the messages of several lines can be told apart again.
-/
namespace Calculator

theorem newline_notMem_hexDigits (width n : Nat) : '\n' ∉ hexDigits width n := by
  have hall : ∀ d < 16, hexDigit d ≠ '\n' := by decide
  induction width generalizing n with
  | zero => simp [hexDigits]
  | succ width ih =>
    simp only [hexDigits, List.mem_append, List.mem_singleton, not_or]
    exact ⟨ih _, (hall _ (Nat.mod_lt n (by decide))).symm⟩

theorem newline_notMem_numbered (n : Nat) : '\n' ∉ numbered n := by
  unfold numbered
  split
  · simp [newline_notMem_hexDigits]
  · split <;> simp [newline_notMem_hexDigits]

theorem newline_notMem_quotedChar {quote : Char} (hquote : quote ≠ '\n') (c : Char) :
    '\n' ∉ quotedChar quote c := by
  unfold quotedChar
  split
  · next h =>
    rcases h with rfl | rfl
    · simp [hquote.symm]
    · decide
  · split
    · decide
    · split
      · decide
      · next hne =>
        split
        · decide
        · split
          · exact newline_notMem_numbered _
          · simp [Ne.symm hne]

theorem newline_notMem_quoted (text : String) : '\n' ∉ (quoted text).toList := by
  have hquote : quoteFor text.toList ≠ '\n' := by
    unfold quoteFor
    split <;> decide
  simp only [quoted, String.toList_ofList, List.cons_append, List.mem_cons, List.mem_append,
    List.mem_flatMap, List.not_mem_nil, or_false, not_or, not_exists, not_and]
  exact ⟨hquote.symm, fun c _ => newline_notMem_quotedChar hquote c, hquote.symm⟩

theorem newline_notMem_toString (n : Int) : '\n' ∉ (toString n).toList := fun h =>
  not_inNumberText (Or.inr (Or.inl rfl)) (inNumberText_of_mem_toString h)

theorem newline_notMem_append {left right : String} (hleft : '\n' ∉ left.toList)
    (hright : '\n' ∉ right.toList) : '\n' ∉ (left ++ right).toList := by
  rw [String.toList_append, List.mem_append, not_or]
  exact ⟨hleft, hright⟩

theorem Location.newline_notMem_text (location : Location) : '\n' ∉ location.text.toList := by
  have hline := newline_notMem_toString location.line
  have hcolumn := newline_notMem_toString location.column
  rw [text]
  exact newline_notMem_append (newline_notMem_append (newline_notMem_append
    (newline_notMem_append (by decide) hline) (by decide)) hcolumn) (by decide)

namespace LineError

def found? : LineError → Option String
  | unclosedParen found _ => found
  | _ => none

theorem newline_notMem_message {e : LineError} (h : ∀ lexeme ∈ e.found?, '\n' ∉ lexeme.toList) :
    '\n' ∉ e.message.toList := by
  have hplace := e.location.newline_notMem_text
  cases e with
  | unexpectedToken lexeme location =>
    exact newline_notMem_append (newline_notMem_append (newline_notMem_append (by decide)
      (newline_notMem_quoted lexeme)) (by decide)) hplace
  | unexpectedEnd location => exact newline_notMem_append (by decide) hplace
  | unclosedParen found location =>
    have hfound : '\n' ∉ (foundText found).toList := by
      cases found with
      | none => decide
      | some lexeme => exact h lexeme rfl
    exact newline_notMem_append (newline_notMem_append (newline_notMem_append (by decide) hplace)
      (by decide)) hfound

end LineError

theorem linesOf_message {errors : List LineError} (hne : errors ≠ [])
    (h : ∀ e ∈ errors, ∀ lexeme ∈ e.found?, '\n' ∉ lexeme.toList) :
    linesOf (ParseError.refused errors).message.toList =
      errors.map fun e => ("Parser error: " ++ e.message).toList := by
  rw [ParseError.message, toList_joined, List.map_map]
  apply linesOf_joinLines
  · simpa using hne
  · intro line hline
    obtain ⟨e, he, rfl⟩ := List.mem_map.mp hline
    exact newline_notMem_append (by decide) (LineError.newline_notMem_message (h e he))

end Calculator
