import Calculator.Proofs.Scan.FirstFault
import Calculator.Proofs.Text.SingleLine
import Calculator.Token.Diagnostic

/-! # The caret points at the fault

A diagnostic of a text that cannot be scanned takes three lines: the message, a piece of the line
with the fault, and the caret below the character at which the fault was found. An ellipsis stands
where characters of the line are left out and takes its place in front of the caret.
-/
namespace Calculator

/-- A line of a text, cut where a piece of it begins and ends. -/
structure Window where
  before : List Char
  piece : List Char
  after : List Char

namespace Window

def line (window : Window) : List Char :=
  window.before ++ window.piece ++ window.after

def elided (omitted : List Char) : List Char :=
  if omitted = [] then [] else Diagnostic.ellipsis

def shown (window : Window) : List Char :=
  elided window.before ++ window.piece ++ elided window.after

/-- A window holds a column and reaches at most ten columns before it and nine behind it. It ends
short of that only with the line. -/
structure IsAround (window : Window) (column : Nat) : Prop where
  length_piece_le : window.piece.length ≤ 20
  length_before_le : window.before.length ≤ column
  column_le : column ≤ window.before.length + 10
  column_lt : column < window.before.length + window.piece.length
  stop_le : window.before.length + window.piece.length ≤ column + 10
  column_eq : window.before ≠ [] → column = window.before.length + 10
  stop_eq : window.after ≠ [] → window.before.length + window.piece.length = column + 10

theorem getElem?_shown {window : Window} {column : Nat} (h : window.IsAround column) :
    window.shown[(elided window.before).length + (column - window.before.length)]? =
      window.line[column]? := by
  have hle := h.length_before_le
  have hlt := h.column_lt
  rw [shown, line, List.append_assoc, List.append_assoc,
    List.getElem?_append_right (Nat.le_add_right _ _), Nat.add_sub_cancel_left,
    List.getElem?_append_right hle, List.getElem?_append_left (by omega),
    List.getElem?_append_left (by omega)]

/-- The window that a diagnostic takes of a line. -/
def around (line : List Char) (column : Nat) : Window where
  before := line.take (column - Diagnostic.reach)
  piece := (line.drop (column - Diagnostic.reach)).take
    (min line.length (column + Diagnostic.reach) - (column - Diagnostic.reach))
  after := line.drop (min line.length (column + Diagnostic.reach))

section

variable {line : List Char} {column : Nat}

theorem length_before_around (h : column < line.length) :
    (around line column).before.length = column - 10 := by
  rw [around, List.length_take, Diagnostic.reach]
  omega

theorem length_piece_around (h : column < line.length) :
    (around line column).piece.length = min line.length (column + 10) - (column - 10) := by
  rw [around, List.length_take, List.length_drop, Diagnostic.reach]
  omega

theorem before_around_eq_nil_iff (h : column < line.length) :
    (around line column).before = [] ↔ ¬ 0 < column - Diagnostic.reach := by
  rw [← List.length_eq_zero_iff, length_before_around h, Diagnostic.reach]
  omega

theorem after_around_eq_nil_iff :
    (around line column).after = [] ↔
      ¬ min line.length (column + Diagnostic.reach) < line.length := by
  rw [around, List.drop_eq_nil_iff]
  omega

theorem isAround_around (h : column < line.length) : (around line column).IsAround column := by
  have hbefore := length_before_around h
  have hpiece := length_piece_around h
  refine ⟨?_, ?_, ?_, ?_, ?_, ?_, ?_⟩
  · omega
  · omega
  · omega
  · omega
  · omega
  · intro hne
    have hpos := mt (before_around_eq_nil_iff h).mpr hne
    rw [Diagnostic.reach] at hpos
    omega
  · intro hne
    have hlt := mt after_around_eq_nil_iff.mpr hne
    rw [Diagnostic.reach] at hlt
    omega

theorem line_around (h : column < line.length) : (around line column).line = line := by
  have hle : column - Diagnostic.reach ≤ min line.length (column + Diagnostic.reach) := by omega
  have hdrop : line.drop (min line.length (column + Diagnostic.reach)) =
      (line.drop (column - Diagnostic.reach)).drop
        (min line.length (column + Diagnostic.reach) - (column - Diagnostic.reach)) := by
    rw [List.drop_drop, Nat.add_sub_cancel' hle]
  rw [Window.line, around, hdrop, List.append_assoc, List.take_append_drop, List.take_append_drop]

theorem shown_around (h : column < line.length) :
    (around line column).shown = Diagnostic.excerpt line column := by
  simp only [shown, elided, before_around_eq_nil_iff h, after_around_eq_nil_iff, ite_not]
  rfl

theorem caretIndex_eq (h : column < line.length) :
    Diagnostic.caretIndex column =
      (elided (around line column).before).length +
        (column - (around line column).before.length) := by
  have hnil := before_around_eq_nil_iff h
  rw [Diagnostic.caretIndex, elided, length_before_around h]
  by_cases hpos : 0 < column - Diagnostic.reach
  · rw [if_pos hpos, if_neg (fun heq => hnil.mp heq hpos), Nat.add_comm]
    rfl
  · rw [if_neg hpos, if_pos (hnil.mpr hpos), Nat.add_comm]
    rfl

end

end Window

theorem LexicalFault.newline_notMem_message (fault : LexicalFault) :
    '\n' ∉ fault.message.toList := by
  cases fault with
  | malformedNumber run => exact newline_notMem_append (by decide) (newline_notMem_quoted _)
  | unexpectedCharacter c => exact newline_notMem_append (by decide) (newline_notMem_quoted _)

def Diagnostic.heading (diagnostic : Diagnostic) : String :=
  "[Tokenizer error] " ++ diagnostic.message ++ " at " ++ diagnostic.location.text

theorem LexicalError.newline_notMem_heading (e : LexicalError) (source : String) :
    '\n' ∉ (e.diagnostic source).heading.toList := by
  unfold Diagnostic.heading
  refine newline_notMem_append (newline_notMem_append (newline_notMem_append ?_ ?_) ?_) ?_
  · decide
  · exact e.fault.newline_notMem_message
  · decide
  · exact e.location.newline_notMem_text

namespace Diagnostic

theorem newline_notMem_excerpt {line : List Char} (h : '\n' ∉ line) (column : Nat) :
    '\n' ∉ excerpt line column := by
  have hpiece (m n : Nat) : '\n' ∉ (line.drop m).take n := fun hmem =>
    h (List.mem_of_mem_drop (List.mem_of_mem_take hmem))
  have hellipsis : '\n' ∉ ellipsis := by decide
  simp only [excerpt, List.mem_append, not_or]
  refine ⟨⟨?_, hpiece _ _⟩, ?_⟩
  · split
    · exact hellipsis
    · exact List.not_mem_nil
  · split
    · exact hellipsis
    · exact List.not_mem_nil

/-- A diagnostic about a line of its source is rendered in three lines. -/
theorem exists_render {diagnostic : Diagnostic} {line : List Char}
    (hline : diagnostic.line? = some line) (hheading : '\n' ∉ diagnostic.heading.toList) :
    ∃ text, diagnostic.render = .ok text ∧ linesOf text.toList =
      [diagnostic.heading.toList, excerpt line diagnostic.location.column.toNat,
        caretLine diagnostic.location.column.toNat] := by
  have hmem : line ∈ linesOf diagnostic.source.toList := by
    rw [line?] at hline
    split at hline
    · cases hline
    · exact List.mem_of_getElem? hline
  have hexcerpt := newline_notMem_excerpt (newline_notMem_of_mem_linesOf hmem)
    diagnostic.location.column.toNat
  have hcaret : '\n' ∉ caretLine diagnostic.location.column.toNat := by simp [caretLine]
  rw [render, hline]
  refine ⟨_, rfl, ?_⟩
  rw [← linesOf_joinLines (List.cons_ne_nil _ _) (by simp [hheading, hexcerpt, hcaret])]
  unfold heading
  simp [joinLines]

end Diagnostic

theorem exists_character_of_scan_error {source : String} {e : LexicalError}
    (h : scan source = .error e) :
    ∃ (line column : Nat) (text : List Char) (c : Char), e.location = ⟨line, column⟩ ∧
      (linesOf source.toList)[line]? = some text ∧ text[column]? = some c ∧
      source.toList[e.start source]? = some c := by
  obtain ⟨front, pieces, c, rest, hsource, hstops, hlocation, hstart⟩ :=
    exists_stopsAt_of_scan_error h
  obtain ⟨line, left, hplace, hline⟩ := Location.exists_line_of_following front (c :: rest)
  have hc : c ≠ '\n' := by
    rintro rfl
    have hfaulty := hstops.faulty
    rw [Head.of_newline] at hfaulty
    cases hfaulty
  rw [List.takeWhile_cons_of_pos (by simpa using hc), ← hsource] at hline
  refine ⟨line, left.length, _, c, hlocation.trans hplace, hline, ?_, ?_⟩
  · simp
  · rw [hsource, hstart]
    simp

theorem LexicalError.line?_diagnostic {e : LexicalError} {source : String} {line column : Nat}
    {text : List Char} (hlocation : e.location = ⟨line, column⟩)
    (htext : (linesOf source.toList)[line]? = some text) :
    (e.diagnostic source).line? = some text := by
  rw [Diagnostic.line?, diagnostic, hlocation]
  simpa using htext

/-- The text of a fault is the message, a piece of the line with the fault and a caret. The caret
stands below the character at which the text cannot be scanned. -/
theorem render_points_at_fault {source : String} {e : LexicalError} (h : scan source = .error e) :
    ∃ (text : String) (line column indent : Nat) (window : Window) (c : Char),
      (e.diagnostic source).render = .ok text ∧
      linesOf text.toList =
        [(e.diagnostic source).heading.toList, window.shown, List.replicate indent ' ' ++ ['^']] ∧
      e.location = ⟨line, column⟩ ∧ (linesOf source.toList)[line]? = some window.line ∧
      window.IsAround column ∧ window.shown[indent]? = some c ∧ window.line[column]? = some c ∧
      source.toList[e.start source]? = some c := by
  obtain ⟨line, column, text, c, hlocation, htext, hc, hsource⟩ := exists_character_of_scan_error h
  have hlt : column < text.length := (List.getElem?_eq_some_iff.mp hc).1
  obtain ⟨rendered, hrender, hlines⟩ := Diagnostic.exists_render
    (e.line?_diagnostic hlocation htext) (e.newline_notMem_heading source)
  have hcolumn : (e.diagnostic source).location.column.toNat = column := by
    rw [LexicalError.diagnostic, hlocation, Int.toNat_natCast]
  rw [hcolumn, ← Window.shown_around hlt, Diagnostic.caretLine, Window.caretIndex_eq hlt] at hlines
  have haround := Window.isAround_around hlt
  refine ⟨rendered, line, column, _, _, c, hrender, hlines, hlocation, ?_, haround, ?_, ?_, hsource⟩
  · rw [Window.line_around hlt, htext]
  · rw [Window.getElem?_shown haround, Window.line_around hlt, hc]
  · rw [Window.line_around hlt, hc]

/-- A fault in the twelfth column of a line that goes on beyond the window. -/
theorem render_points_at_fault_of_long_line :
    scan "x\n1234567890+$ klmnopqrstuv" = .error ⟨.unexpectedCharacter '$', ⟨1, 11⟩⟩ ∧
    ∃ (text : String) (indent : Nat) (window : Window),
      (LexicalError.diagnostic ⟨.unexpectedCharacter '$', ⟨1, 11⟩⟩
        "x\n1234567890+$ klmnopqrstuv").render = .ok text ∧
      (linesOf text.toList).drop 1 = [window.shown, List.replicate indent ' ' ++ ['^']] ∧
      window.IsAround 11 ∧ window.shown[indent]? = some '$' := by
  have hscan : scan "x\n1234567890+$ klmnopqrstuv" =
      .error ⟨.unexpectedCharacter '$', ⟨1, 11⟩⟩ := by
    decide +kernel
  obtain ⟨text, line, column, indent, window, c, hrender, hlines, hlocation, -, haround, hcaret, -,
    hc⟩ := render_points_at_fault hscan
  have hcharacter : "x\n1234567890+$ klmnopqrstuv".toList[LexicalError.start
      ⟨.unexpectedCharacter '$', ⟨1, 11⟩⟩ "x\n1234567890+$ klmnopqrstuv"]? = some '$' := by
    decide +kernel
  obtain rfl := Option.some.inj (hcharacter.symm.trans hc)
  obtain rfl : column = 11 := by
    have hcolumn : (11 : Int) = column := congrArg Location.column hlocation
    omega
  exact ⟨hscan, text, indent, window, hrender, by rw [hlines]; rfl, haround, hcaret⟩

example : Diagnostic.excerpt "1234567890+$ klmnopqrstuv".toList 11 =
    "...234567890+$ klmnopqr...".toList := by
  decide

end Calculator
