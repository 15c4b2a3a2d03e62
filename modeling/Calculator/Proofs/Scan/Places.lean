import Mathlib.Data.List.DropRight
import Calculator.Proofs.Scan.Segmentation

/-! # Tokens stand where they say

A place counts the line feeds before a character and the characters since the last of them. Every
token of a text is found in it at its place, the tokens come in the order of their places, and behind
the last token of a line there are only blanks up to its end.
-/
namespace Calculator

namespace Location

/-- The place of what follows a text: as many lines down as it has line feeds, and as many columns
to the right as there are characters behind the last of them. -/
def following (front : List Char) : Location :=
  ⟨front.count '\n', (front.rtakeWhile (· != '\n')).length⟩

theorem origin_behind (front : List Char) : origin.behind front = following front := by
  induction front using List.reverseRecOn with
  | nil => rfl
  | append_singleton front c ih =>
    rw [behind_append, ih]
    by_cases hc : c = '\n'
    · subst hc
      simp [behind, after, newline, following]
    · simp [behind, after, right, following, hc]

/-- The order of places in a text. -/
def Before (location other : Location) : Prop :=
  location.line < other.line ∨ location.line = other.line ∧ location.column < other.column

theorem before_behind {text : List Char} (h : text ≠ []) (here : Location) :
    here.Before (here.behind text) := by
  have hafter (here : Location) (c : Char) : here.Before (here.after c) := by
    unfold after
    split
    · exact Or.inl (Int.lt_succ _)
    · exact Or.inr ⟨rfl, Int.lt_succ _⟩
  induction text generalizing here with
  | nil => exact absurd rfl h
  | cons c text ih =>
    have hfirst := hafter here c
    have hcons : here.behind (c :: text) = (here.after c).behind text := rfl
    rw [hcons]
    cases text with
    | nil => exact hfirst
    | cons next text =>
      have hrest := ih (List.cons_ne_nil _ _) (here.after c)
      unfold Before at hfirst hrest ⊢
      omega

theorem Before.trans {location other further : Location} (h : location.Before other)
    (hother : other.Before further) : location.Before further := by
  unfold Before at h hother ⊢
  omega

theorem Before.ne {location other : Location} (h : location.Before other) : location ≠ other := by
  rintro rfl
  unfold Before at h
  omega

end Location

/-- A text stands at a place of a source. -/
def StandsAt (source : String) (location : Location) (text : String) : Prop :=
  ∃ front back, source.toList = front ++ text.toList ++ back ∧ location = .following front

/-- At a place stands the last character of its line that is not blank. -/
def EndsLineAt (source : String) (location : Location) : Prop :=
  ∃ front c blanks back, source.toList = front ++ c :: (blanks ++ back) ∧
    location = .following front ∧ isBlank c = false ∧
    (∀ d ∈ blanks, isBlank d = true ∧ d ≠ '\n') ∧ ∀ d ∈ back.head?, d = '\n'

def Token.Spelled (token : Token) : Prop :=
  ∀ spelling, token.kind.spelling? = some spelling → token.lexeme = spelling

theorem Token.spelled_of_isWord {token : Token} (h : IsWord token.kind token.lexeme.toList) :
    token.Spelled := by
  intro spelling hspelling
  rcases token with ⟨kind, lexeme, location⟩
  generalize hword : lexeme.toList = word at h
  cases h with
  | number | identifier => cases hspelling
  | symbol h =>
    obtain rfl := Option.some.inj (h.symm.trans hspelling)
    exact String.toList_injective hword

theorem exists_segmentation {source : String} {tokens : List Token} (h : scan source = .ok tokens) :
    ∃ pieces, Segmentation source.toList pieces ∧ tokens = placed .origin pieces := by
  obtain ⟨pieces, hpieces⟩ := Segmentation.of_scanFrom h
  have hplaced := hpieces.scanFrom_eq .origin
  rw [scan] at h
  rw [h] at hplaced
  exact ⟨pieces, hpieces, Except.ok.inj hplaced⟩

/-- A token is one of the pieces, it stands behind the pieces before it, and what follows it are the
tokens of the pieces behind it. -/
theorem exists_piece_of_placed {here : Location} {pieces : List Piece} {before after : List Token}
    {token : Token} (h : placed here pieces = before ++ token :: after) :
    ∃ front word back, pieces = front ++ .lexeme token.kind word :: back ∧
      token.lexeme = String.ofList word ∧
      token.location = here.behind (front.flatMap Piece.text) ∧
      after = placed (here.behind (front.flatMap Piece.text ++ word)) back := by
  induction pieces generalizing here before with
  | nil => simp [placed] at h
  | cons piece pieces ih =>
    cases piece with
    | blank c =>
      rw [placed] at h
      obtain ⟨front, word, back, rfl, hlexeme, hlocation, hafter⟩ := ih h
      exact ⟨.blank c :: front, word, back, rfl, hlexeme, hlocation, hafter⟩
    | lexeme kind word =>
      rw [placed] at h
      cases before with
      | nil =>
        obtain ⟨rfl, rfl⟩ := List.cons.inj h
        exact ⟨[], word, pieces, rfl, rfl, rfl, rfl⟩
      | cons first before =>
        obtain ⟨front, other, back, rfl, hlexeme, hlocation, hafter⟩ := ih (List.cons.inj h).2
        refine ⟨.lexeme kind word :: front, other, back, rfl, hlexeme, ?_, ?_⟩
        · rw [hlocation, ← Location.behind_append]
          rfl
        · rw [hafter, ← Location.behind_append, ← List.append_assoc]
          rfl

theorem Segmentation.isWord {text : List Char} {pieces front back : List Piece} {kind : TokenKind}
    {word : List Char} (h : Segmentation text pieces)
    (hpieces : pieces = front ++ .lexeme kind word :: back) : IsWord kind word := by
  subst hpieces
  have hright := h.right
  generalize (Piece.lexeme kind word :: back).flatMap Piece.text = rest at hright
  cases hright with
  | lexeme hlongest => exact hlongest.isWord

theorem Segmentation.pairwise_before {text : List Char} {pieces : List Piece}
    (h : Segmentation text pieces) (here : Location) :
    (placed here pieces).Pairwise fun a b => a.location.Before b.location := by
  induction h generalizing here with
  | nil => exact List.Pairwise.nil
  | blank _ _ ih => exact ih _
  | @lexeme kind word rest pieces hlongest _ _ ih =>
    refine List.pairwise_cons.mpr ⟨?_, ih _⟩
    intro token htoken
    obtain ⟨before, after, hsplit⟩ := List.append_of_mem htoken
    obtain ⟨front, other, back, _, _, hlocation, _⟩ := exists_piece_of_placed hsplit
    rw [hlocation, ← Location.behind_append]
    apply Location.before_behind
    obtain ⟨c, tail, rfl⟩ := hlongest.isWord.exists_cons
    exact List.cons_ne_nil _ _

theorem pairwise_before_of_scan {source : String} {tokens : List Token}
    (h : scan source = .ok tokens) : tokens.Pairwise fun a b => a.location.Before b.location := by
  obtain ⟨pieces, hpieces, rfl⟩ := exists_segmentation h
  exact hpieces.pairwise_before _

theorem isWord_of_scan {source : String} {tokens : List Token} (h : scan source = .ok tokens)
    {token : Token} (htoken : token ∈ tokens) : IsWord token.kind token.lexeme.toList := by
  obtain ⟨pieces, hpieces, rfl⟩ := exists_segmentation h
  obtain ⟨before, after, hsplit⟩ := List.append_of_mem htoken
  obtain ⟨front, word, back, hfront, hlexeme, _⟩ := exists_piece_of_placed hsplit
  rw [hlexeme, String.toList_ofList]
  exact hpieces.isWord hfront

theorem standsAt_of_scan {source : String} {tokens : List Token} (h : scan source = .ok tokens)
    {token : Token} (htoken : token ∈ tokens) :
    StandsAt source token.location token.lexeme ∧ token.Spelled := by
  refine ⟨?_, Token.spelled_of_isWord (isWord_of_scan h htoken)⟩
  obtain ⟨pieces, hpieces, rfl⟩ := exists_segmentation h
  obtain ⟨before, after, hsplit⟩ := List.append_of_mem htoken
  obtain ⟨front, word, back, hfront, hlexeme, hlocation, _⟩ := exists_piece_of_placed hsplit
  rw [Location.origin_behind] at hlocation
  refine ⟨front.flatMap Piece.text, back.flatMap Piece.text, ?_, hlocation⟩
  rw [← hpieces.flatMap_text, hfront, hlexeme, String.toList_ofList]
  simp [Piece.text]

theorem Segmentation.exists_blanks {text : List Char} {pieces : List Piece}
    (h : Segmentation text pieces) {here : Location}
    (hline : ∀ token ∈ placed here pieces, token.line ≠ here.line) :
    ∃ blanks back, text = blanks ++ back ∧ (∀ d ∈ blanks, isBlank d = true ∧ d ≠ '\n') ∧
      ∀ d ∈ back.head?, d = '\n' := by
  induction h generalizing here with
  | nil => exact ⟨[], [], rfl, by simp, by simp⟩
  | @blank c rest pieces hblank _ ih =>
    by_cases hc : c = '\n'
    · exact ⟨[], c :: rest, rfl, by simp, by simp [hc]⟩
    · have hsame : (here.after c).line = here.line := by simp [Location.after, hc]
      rw [placed, ← hsame] at hline
      obtain ⟨blanks, back, rfl, hblanks, hback⟩ := ih hline
      refine ⟨c :: blanks, back, rfl, ?_, hback⟩
      rw [List.forall_mem_cons]
      exact ⟨⟨hblank, hc⟩, hblanks⟩
  | lexeme => exact absurd rfl (hline _ List.mem_cons_self)

theorem endsLineAt_of_scan {source : String} {before after : List Token} {token : Token}
    (h : scan source = .ok (before ++ token :: after))
    (hlast : ∀ other ∈ after, other.line ≠ token.line) : EndsLineAt source token.endLocation := by
  obtain ⟨pieces, hpieces, hplaced⟩ := exists_segmentation h
  obtain ⟨front, word, back, hfront, hlexeme, hlocation, rfl⟩ := exists_piece_of_placed hplaced.symm
  have hword := hpieces.isWord hfront
  have hnewline := hword.newline_notMem
  obtain ⟨init, c, rfl⟩ := hword.exists_concat
  have hline : token.line =
      (Location.origin.behind (front.flatMap Piece.text ++ (init ++ [c]))).line := by
    rw [Location.behind_append, Location.behind_eq_right hnewline, Location.line_right, ← hlocation]
    rfl
  rw [hline] at hlast
  have hback : Segmentation (back.flatMap Piece.text) back := by
    have hsplit : pieces = (front ++ [.lexeme token.kind (init ++ [c])]) ++ back := by simp [hfront]
    exact Segmentation.right (hsplit ▸ hpieces)
  obtain ⟨blanks, rest, htext, hblanks, hrest⟩ := hback.exists_blanks hlast
  refine ⟨front.flatMap Piece.text ++ init, c, blanks, rest, ?_, ?_, ?_, hblanks, hrest⟩
  · rw [← hpieces.flatMap_text, hfront, ← htext]
    simp [Piece.text]
  · have hinit : '\n' ∉ init := fun hmem => hnewline (List.mem_append_left _ hmem)
    rw [← Location.origin_behind, Location.behind_append, Location.behind_eq_right hinit,
      ← hlocation, Token.endLocation, hlexeme]
    simp
  · exact hword.isBlank_of_mem (List.mem_append_right _ List.mem_cons_self)

end Calculator
