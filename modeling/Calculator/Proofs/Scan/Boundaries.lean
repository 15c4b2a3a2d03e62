import Mathlib.Data.List.Basic
import Calculator.Proofs.Scan.Segmentation

/-! # Where one word ends and the next begins

Whether a word is the longest at its place is told by the single character behind it. Two texts that
are cut into pieces can therefore be put together, and a text can be cut in two between any of its
pieces, with the same pieces on both sides.
-/
namespace Calculator

theorem not_separates_of_symbolAt? {c : Char} {kind other : TokenKind}
    (h : symbolAt? c false = some (kind, false)) (hother : symbolAt? c true = some (other, true)) :
    ¬ Separates kind '=' := by
  unfold symbolAt? at h hother
  split at hother
  all_goals cases hother
  all_goals cases h
  all_goals simp [Separates]

theorem Separates.of_isBlank {next : Char} (h : isBlank next = true) (kind : TokenKind) :
    Separates kind next := by
  have hequals : next ≠ '=' := by
    rintro rfl
    revert h
    decide
  have hnumeral : isNumeral next = false := by
    refine Bool.eq_false_iff.mpr fun hnext => ?_
    rw [isBlank_of_isNumeral hnext] at h
    cases h
  have hname : isNamePart next = false := by
    refine Bool.eq_false_iff.mpr fun hnext => ?_
    rw [isBlank_of_isNamePart hnext] at h
    cases h
  cases kind with
  | number => exact hnumeral
  | identifier => exact hname
  | assign => exact hequals
  | leftParen | rightParen => trivial
  | operator op =>
    cases op with
    | gt | lt => exact hequals
    | add | sub | mul | div | ge | le | eq => trivial

namespace IsWord

variable {kind other : TokenKind} {word rest : List Char} {next : Char}

theorem not_isWord_append (h : IsWord kind word) (hnext : Separates kind next) :
    ¬ IsWord other (word ++ next :: rest) := by
  intro hlonger
  cases h with
  | number hne hall =>
    obtain ⟨c, tail, rfl⟩ := List.exists_cons_of_ne_nil hne
    have hnumeral := (hlonger.of_isNumeral (hall c List.mem_cons_self)).2 next (by simp)
    rw [Separates, hnumeral] at hnext
    cases hnext
  | identifier hfirst _ =>
    have hname := (hlonger.of_isLetter hfirst).2 next (by simp)
    rw [Separates, hname] at hnext
    cases hnext
  | symbol hspelling =>
    obtain ⟨c, two, heq, hmem, hpoint, hsymbol⟩ := symbolAt?_of_spelling hspelling
    have hclass := class_of_mem_specials c hmem
    have hnumeral : isNumeral c = false := by
      simp [isNumeral, isDigit_of_class_other hclass, hpoint]
    rw [heq] at hlonger
    obtain ⟨more, htail, hother⟩ := hlonger.of_symbol hnumeral (isLetter_of_class_other hclass)
    -- Only one sign may be followed by an equals sign, and then by nothing else.
    cases two with
    | true => cases more <;> simp at htail
    | false =>
      cases more with
      | false => simp at htail
      | true =>
        obtain ⟨rfl, rfl⟩ : next = '=' ∧ rest = [] := by simpa using htail
        exact not_separates_of_symbolAt? hsymbol hother hnext

theorem longest_of_separates (h : IsWord kind word)
    (hrest : ∀ next ∈ rest.head?, Separates kind next) : Longest kind word (word ++ rest) where
  isWord := h
  word_prefix := List.prefix_append _ _
  length_le := by
    intro other longer hlonger hbegins
    rcases List.prefix_or_prefix_of_prefix hbegins (List.prefix_append word rest) with hle | hge
    · exact hle.length_le
    · obtain ⟨more, rfl⟩ := hge
      obtain ⟨back, rfl⟩ := (List.prefix_append_right_inj word).mp hbegins
      cases more with
      | nil => simp
      | cons next more => exact absurd hlonger (h.not_isWord_append (hrest next rfl))

end IsWord

theorem longest_append_iff {kind : TokenKind} {word rest : List Char} :
    Longest kind word (word ++ rest) ↔
      IsWord kind word ∧ ∀ next ∈ rest.head?, Separates kind next := by
  constructor
  · intro h
    refine ⟨h.isWord, fun next hnext => ?_⟩
    obtain ⟨more, rfl⟩ := List.head?_eq_some_iff.mp hnext
    exact h.separates
  · rintro ⟨hword, hrest⟩
    exact hword.longest_of_separates hrest

/-- A character that may follow pieces: it does not go on with a word at their end. -/
def MayFollow (pieces : List Piece) (next : Char) : Prop :=
  ∀ kind word, pieces.getLast? = some (.lexeme kind word) → Separates kind next

theorem mayFollow_nil (next : Char) : MayFollow [] next := by
  intro kind word h
  cases h

theorem mayFollow_blank_cons (c : Char) (pieces : List Piece) (next : Char) :
    MayFollow (.blank c :: pieces) next ↔ MayFollow pieces next := by
  cases pieces with
  | nil => simp [MayFollow]
  | cons piece pieces => simp [MayFollow, List.getLast?_cons_cons]

theorem mayFollow_lexeme_cons (kind : TokenKind) (word : List Char) (pieces : List Piece)
    (next : Char) :
    MayFollow (.lexeme kind word :: pieces) next ↔
      MayFollow pieces next ∧ (pieces = [] → Separates kind next) := by
  cases pieces with
  | nil => simp [MayFollow]
  | cons piece pieces => simp [MayFollow, List.getLast?_cons_cons]

namespace Segmentation

variable {front back : List Char} {pieces : List Piece}

theorem eq_nil_of_nil (h : Segmentation front []) : front = [] :=
  h.flatMap_text.symm

theorem head_ne_nil {piece : Piece} (h : Segmentation front (piece :: pieces)) : front ≠ [] := by
  cases h with
  | blank => exact List.cons_ne_nil _ _
  | lexeme hlongest =>
    obtain ⟨c, tail, rfl⟩ := hlongest.isWord.exists_cons
    exact List.cons_ne_nil _ _

theorem separates_of_mem_head? {kind : TokenKind} {word rest : List Char}
    (hlongest : Longest kind word (word ++ rest)) (hrest : Segmentation rest pieces)
    (hback : ∀ next ∈ back.head?, MayFollow (.lexeme kind word :: pieces) next) :
    ∀ next ∈ (rest ++ back).head?, Separates kind next := by
  intro next hnext
  cases pieces with
  | nil =>
    rw [hrest.eq_nil_of_nil, List.nil_append] at hnext
    exact ((mayFollow_lexeme_cons kind word [] next).mp (hback next hnext)).2 rfl
  | cons piece pieces =>
    rw [List.head?_append_of_ne_nil _ hrest.head_ne_nil] at hnext
    exact (longest_append_iff.mp hlongest).2 next hnext

/-- A text is scanned up to any place where a piece of it ends, and from there on by itself. -/
theorem scanFrom_append (h : Segmentation front pieces)
    (hback : ∀ next ∈ back.head?, MayFollow pieces next) (here : Location) :
    scanFrom here (front ++ back) =
      (scanFrom (here.behind front) back).map (placed here pieces ++ ·) := by
  induction h generalizing here with
  | nil => cases hscan : scanFrom here back <;> simp [Location.behind, placed, hscan, Except.map]
  | blank hblank _ ih =>
    have hrest := ih fun next hnext => (mayFollow_blank_cons _ _ next).mp (hback next hnext)
    rw [List.cons_append, scanFrom_blank (Head.of_isBlank hblank _), hrest, placed]
    rfl
  | @lexeme kind word rest pieces hlongest hdecimal hrest ih =>
    have hscan := ih
      (fun next hnext => ((mayFollow_lexeme_cons _ _ _ next).mp (hback next hnext)).1)
      (here.behind word)
    have hwhole := hlongest.isWord.longest_of_separates
      (separates_of_mem_head? hlongest hrest hback)
    rw [List.append_assoc, hwhole.scanFrom_eq hdecimal, hscan, placed, Location.behind_append]
    cases scanFrom ((here.behind word).behind rest) back <;> rfl

end Segmentation

end Calculator
