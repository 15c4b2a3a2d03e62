import Calculator.Proofs.Scan.Lines
import Calculator.Proofs.Scan.Words

/-! # Scanning cuts a text into longest words

`Segmentation` cuts a text from left to right into blanks and lexemes, each the longest word at its
place. A text has at most one segmentation. It can be scanned exactly when it has one, and the
tokens are then the lexemes of the segmentation, each at the place where it begins.
-/
namespace Calculator

/-- A piece of a text. -/
inductive Piece where
  | blank (c : Char)
  | lexeme (kind : TokenKind) (word : List Char)
  deriving DecidableEq

def Piece.text : Piece → List Char
  | blank c => [c]
  | lexeme _ word => word

/-- The ways to cut a text into blanks and longest words, where each number is a decimal. -/
inductive Segmentation : List Char → List Piece → Prop where
  | nil : Segmentation [] []
  | blank {c : Char} {rest : List Char} {pieces : List Piece} : isBlank c = true →
      Segmentation rest pieces → Segmentation (c :: rest) (.blank c :: pieces)
  | lexeme {kind : TokenKind} {word rest : List Char} {pieces : List Piece} :
      Longest kind word (word ++ rest) → (kind = .number → IsDecimal word) →
      Segmentation rest pieces → Segmentation (word ++ rest) (.lexeme kind word :: pieces)

def Location.behind (here : Location) (text : List Char) : Location :=
  text.foldl Location.after here

def placed : Location → List Piece → List Token
  | _, [] => []
  | here, .blank c :: rest => placed (here.after c) rest
  | here, .lexeme kind word :: rest =>
    ⟨kind, String.ofList word, here⟩ :: placed (here.behind word) rest

theorem Location.behind_append (here : Location) (front back : List Char) :
    here.behind (front ++ back) = (here.behind front).behind back :=
  List.foldl_append

theorem Location.behind_eq_right {text : List Char} (h : '\n' ∉ text) (here : Location) :
    here.behind text = here.right text.length := by
  induction text generalizing here with
  | nil => simp [behind]
  | cons c text ih =>
    obtain ⟨hc, htext⟩ := List.ne_and_not_mem_of_not_mem_cons h
    have hafter : here.after c = here.right 1 := by simp [after, Ne.symm hc]
    calc here.behind (c :: text) = (here.after c).behind text := rfl
      _ = (here.right 1).right text.length := by rw [hafter, ih htext]
      _ = here.right ((c :: text).length : Int) := by
        rw [Location.right_right, List.length_cons, Int.natCast_add, Int.add_comm]
        rfl

theorem IsWord.newline_notMem {kind : TokenKind} {word : List Char} (h : IsWord kind word) :
    '\n' ∉ word := by
  intro hmem
  have hblank : isBlank '\n' = true := by decide
  rw [h.isBlank_of_mem hmem] at hblank
  cases hblank

theorem IsWord.exists_concat {kind : TokenKind} {word : List Char} (h : IsWord kind word) :
    ∃ init last, word = init ++ [last] := by
  obtain ⟨c, tail, rfl⟩ := h.exists_cons
  exact ⟨_, _, (List.dropLast_concat_getLast (List.cons_ne_nil c tail)).symm⟩

theorem Longest.scanFrom_eq {kind : TokenKind} {word rest : List Char}
    (h : Longest kind word (word ++ rest)) (hdecimal : kind = .number → IsDecimal word)
    (here : Location) :
    scanFrom here (word ++ rest) =
      (scanFrom (here.behind word) rest).map (⟨kind, String.ofList word, here⟩ :: ·) := by
  have hline := h.isWord.newline_notMem
  obtain ⟨c, tail, rfl⟩ := h.isWord.exists_cons
  have hhead : Head.of c (tail ++ rest) = .lexeme kind tail := h.head_of_eq hdecimal
  rw [List.cons_append, scanFrom_lexeme hhead, List.drop_left, Location.behind_eq_right hline,
    List.length_cons, Int.natCast_succ]
  cases scanFrom (here.right (tail.length + 1)) rest <;> rfl

namespace Segmentation

variable {text : List Char} {pieces : List Piece}

theorem flatMap_text (h : Segmentation text pieces) : pieces.flatMap Piece.text = text := by
  induction h with
  | nil => rfl
  | blank _ _ ih => simp [Piece.text, ih]
  | lexeme _ _ _ ih => simp [Piece.text, ih]

/-- What is cut is scanned as it is cut. -/
theorem scanFrom_eq (h : Segmentation text pieces) (here : Location) :
    scanFrom here text = .ok (placed here pieces) := by
  induction h generalizing here with
  | nil => rw [scanFrom, placed]
  | blank hblank _ ih => rw [scanFrom_blank (Head.of_isBlank hblank _), ih, placed]
  | lexeme hlongest hdecimal _ ih => rw [hlongest.scanFrom_eq hdecimal, ih, placed, Except.map]

theorem of_head_lexeme {c : Char} {rest tail : List Char} {kind : TokenKind}
    (h : Head.of c rest = .lexeme kind tail) (hrest : Segmentation (rest.drop tail.length) pieces) :
    Segmentation (c :: rest) (.lexeme kind (c :: tail) :: pieces) := by
  obtain ⟨hlongest, hdecimal⟩ := Head.longest_of_eq h
  rw [(Head.isLexeme_of_eq h).rest_eq, ← List.cons_append] at hlongest ⊢
  exact .lexeme hlongest hdecimal hrest

theorem of_scanFrom {here : Location} {tokens : List Token} (h : scanFrom here text = .ok tokens) :
    ∃ pieces, Segmentation text pieces := by
  fun_induction scanFrom here text generalizing tokens with
  | case1 => exact ⟨[], .nil⟩
  | case2 here c rest kind tail hhead others hscan ih =>
    obtain ⟨pieces, hpieces⟩ := ih hscan
    exact ⟨_, of_head_lexeme hhead hpieces⟩
  | case3 => cases h
  | case4 here c rest hhead ih =>
    obtain ⟨pieces, hpieces⟩ := ih h
    exact ⟨_, .blank (Head.isBlank_of_eq hhead) hpieces⟩
  | case5 => cases h

/-- No word is longest where a blank stands, so that the first piece is told by the text. -/
theorem not_longest_of_isBlank {c : Char} (hc : isBlank c = true) {kind : TokenKind}
    {word rest : List Char} (heq : word ++ rest = c :: text) :
    ¬ Longest kind word (word ++ rest) := by
  intro hlongest
  obtain ⟨first, tail, rfl⟩ := hlongest.isWord.exists_cons
  obtain ⟨rfl, _⟩ := List.cons.inj heq
  rw [hlongest.isWord.isBlank_of_mem List.mem_cons_self] at hc
  cases hc

theorem unique (h : Segmentation text pieces) {others : List Piece}
    (hothers : Segmentation text others) : pieces = others := by
  induction h generalizing others with
  | nil =>
    generalize htext : ([] : List Char) = text at hothers
    cases hothers with
    | nil => rfl
    | blank => cases htext
    | lexeme hlongest =>
      obtain ⟨c, tail, rfl⟩ := hlongest.isWord.exists_cons
      cases htext
  | @blank c rest pieces hblank _ ih =>
    generalize htext : c :: rest = text at hothers
    cases hothers with
    | nil => cases htext
    | blank _ hrest =>
      obtain ⟨rfl, rfl⟩ := List.cons.inj htext
      rw [ih hrest]
    | lexeme hlongest => exact absurd hlongest (not_longest_of_isBlank hblank htext.symm)
  | @lexeme kind word rest pieces hlongest _ _ ih =>
    generalize htext : word ++ rest = text at hothers
    cases hothers with
    | nil =>
      obtain ⟨c, tail, rfl⟩ := hlongest.isWord.exists_cons
      cases htext
    | blank hblank _ => exact absurd hlongest (not_longest_of_isBlank hblank htext)
    | @lexeme other more back _ hother _ hback =>
      rw [← htext] at hother
      obtain ⟨rfl, rfl⟩ := hlongest.unique hother
      obtain rfl := List.append_cancel_left htext
      rw [ih hback]

theorem right {front back : List Piece} (h : Segmentation text (front ++ back)) :
    Segmentation (back.flatMap Piece.text) back := by
  induction front generalizing text with
  | nil =>
    rw [← List.nil_append back, h.flatMap_text]
    exact h
  | cons piece front ih =>
    rw [List.cons_append] at h
    cases h with
    | blank _ hrest => exact ih hrest
    | lexeme _ _ hrest => exact ih hrest

end Segmentation

/-- What may stand directly behind a lexeme. -/
def Separates (kind : TokenKind) (next : Char) : Prop :=
  match kind with
  | .number => isNumeral next = false
  | .identifier => isNamePart next = false
  | .operator .gt | .operator .lt | .assign => next ≠ '='
  | _ => True

theorem Longest.not_isWord_snoc {kind : TokenKind} {word rest : List Char} {next : Char}
    (h : Longest kind word (word ++ next :: rest)) (other : TokenKind) :
    ¬ IsWord other (word ++ [next]) := by
  intro hword
  have hle := h.length_le other _ hword ⟨rest, by simp⟩
  simp only [List.length_append, List.length_cons, List.length_nil] at hle
  omega

theorem Longest.separates {kind : TokenKind} {word rest : List Char} {next : Char}
    (h : Longest kind word (word ++ next :: rest)) : Separates kind next := by
  have hmore := h.not_isWord_snoc
  have hsymbol (other : TokenKind) {longer : String} (hother : other.spelling? = some longer) :
      longer.toList ≠ word ++ [next] := by
    intro heq
    exact hmore other (heq ▸ .symbol hother)
  have hword := h.isWord
  generalize word ++ next :: rest = text at h
  cases hword with
  | number hne hall =>
    refine Bool.eq_false_iff.mpr fun hnext => hmore .number (.number (by simp) ?_)
    rw [List.forall_mem_append]
    exact ⟨hall, by simpa using hnext⟩
  | @identifier first tail hfirst hall =>
    have hlonger (hnext : isNamePart next = true) :
        IsWord .identifier (first :: (tail ++ [next])) := by
      refine .identifier hfirst ?_
      rw [List.forall_mem_append]
      exact ⟨hall, by simpa using hnext⟩
    exact Bool.eq_false_iff.mpr fun hnext => hmore .identifier (hlonger hnext)
  | symbol hspelling =>
    cases kind with
    | number | identifier | leftParen | rightParen => trivial
    | assign =>
      rintro rfl
      cases hspelling
      exact hsymbol (.operator .eq) rfl (by decide)
    | operator op =>
      cases op with
      | gt =>
        rintro rfl
        cases hspelling
        exact hsymbol (.operator .ge) rfl (by decide)
      | lt =>
        rintro rfl
        cases hspelling
        exact hsymbol (.operator .le) rfl (by decide)
      | add | sub | mul | div | ge | le | eq => trivial

/-- A text is scanned exactly when it can be cut into blanks and longest words, with every number a
decimal. The tokens are the lexemes in order. There is no second way to cut the text, and no
lexeme is followed by a character with which it would go on. -/
theorem scan_cuts_longest_words (source : String) :
    (∀ tokens, scan source = .ok tokens ↔
      ∃ pieces, Segmentation source.toList pieces ∧ tokens = placed .origin pieces) ∧
    (∀ pieces others, Segmentation source.toList pieces → Segmentation source.toList others →
      pieces = others) ∧
    ∀ front kind word back, Segmentation source.toList (front ++ .lexeme kind word :: back) →
      ∀ next ∈ (back.flatMap Piece.text).head?, Separates kind next := by
  refine ⟨?_, fun _ _ h hothers => h.unique hothers, ?_⟩
  · intro tokens
    constructor
    · intro h
      obtain ⟨pieces, hpieces⟩ := Segmentation.of_scanFrom h
      have hplaced := hpieces.scanFrom_eq .origin
      rw [scan] at h
      rw [h] at hplaced
      exact ⟨pieces, hpieces, Except.ok.inj hplaced⟩
    · rintro ⟨pieces, hpieces, rfl⟩
      exact hpieces.scanFrom_eq .origin
  · intro front kind word back h next hnext
    have hlexeme := h.right
    generalize htext : (Piece.lexeme kind word :: back).flatMap Piece.text = text at hlexeme
    cases hlexeme with
    | @lexeme _ _ rest _ hlongest _ hrest =>
      obtain ⟨more, hmore⟩ := List.head?_eq_some_iff.mp hnext
      rw [hrest.flatMap_text] at hmore
      rw [hmore] at hlongest
      exact hlongest.separates

def touching : List Piece :=
  [.lexeme .identifier ['x', '1'], .lexeme (.operator .ge) ['>', '='], .lexeme .assign ['='],
    .lexeme .number ['.', '5']]

theorem scan_touching :
    Segmentation "x1>==.5".toList touching ∧
    (∀ others, Segmentation "x1>==.5".toList others → others = touching) ∧
    scan "x1>==.5" = .ok [⟨.identifier, "x1", ⟨0, 0⟩⟩, ⟨.operator .ge, ">=", ⟨0, 2⟩⟩,
      ⟨.assign, "=", ⟨0, 4⟩⟩, ⟨.number, ".5", ⟨0, 5⟩⟩] ∧
    Separates .identifier '>' ∧ Separates .assign '.' := by
  have hcut : Segmentation "x1>==.5".toList touching := by
    have htext : "x1>==.5".toList = ['x', '1', '>', '=', '=', '.', '5'] := by decide
    rw [htext]
    apply Segmentation.of_head_lexeme (by decide)
    apply Segmentation.of_head_lexeme (by decide)
    apply Segmentation.of_head_lexeme (by decide)
    apply Segmentation.of_head_lexeme (by decide)
    exact .nil
  obtain ⟨hscan, hunique, hseparates⟩ := scan_cuts_longest_words "x1>==.5"
  have hidentifier := hseparates [] .identifier ['x', '1'] (touching.drop 1) hcut
  have hassign := hseparates (touching.take 2) .assign ['='] (touching.drop 3) hcut
  refine ⟨hcut, fun others hothers => hunique _ _ hothers hcut, ?_, ?_, ?_⟩
  · exact (hscan _).mpr ⟨touching, hcut, by decide⟩
  · exact hidentifier '>' (by decide)
  · exact hassign '.' (by decide)

end Calculator
