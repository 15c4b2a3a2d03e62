import Calculator.Proofs.Scan.Boundaries

/-! # Words with spaces between them

Words that are written with single spaces between them are scanned back: no word runs into the next
one, so that the tokens are the words, all on one line.
-/
namespace Calculator

structure Word where
  kind : TokenKind
  spelling : String
  isWord : IsWord kind spelling.toList
  isDecimal : kind = .number → IsDecimal spelling.toList

def Token.key (token : Token) : TokenKind × String :=
  (token.kind, token.lexeme)

def Piece.key? : Piece → Option (TokenKind × String)
  | blank _ => none
  | lexeme kind word => some (kind, String.ofList word)

namespace Word

def ofSymbol (kind : TokenKind) (spelling : String) (h : kind.spelling? = some spelling) : Word where
  kind := kind
  spelling := spelling
  isWord := .symbol h
  isDecimal := by
    rintro rfl
    cases h

def key (word : Word) : TokenKind × String :=
  (word.kind, word.spelling)

def piece (word : Word) : Piece :=
  .lexeme word.kind word.spelling.toList

def spaced (words : List Word) : String :=
  " ".intercalate (words.map Word.spelling)

theorem toList_spaced_cons_cons (word next : Word) (rest : List Word) :
    (spaced (word :: next :: rest)).toList =
      word.spelling.toList ++ ' ' :: (spaced (next :: rest)).toList := by
  simp [spaced, String.toList_intercalate, List.intercalate]

theorem segmentation_spaced (words : List Word) :
    Segmentation (spaced words).toList ((words.map piece).intersperse (.blank ' ')) := by
  have hspace : isBlank ' ' = true := by decide
  induction words with
  | nil => exact .nil
  | cons word rest ih =>
    cases rest with
    | nil =>
      have htext : (spaced [word]).toList = word.spelling.toList ++ [] := by simp [spaced]
      rw [htext]
      exact .lexeme (word.isWord.longest_of_separates (by simp)) word.isDecimal .nil
    | cons next rest =>
      rw [toList_spaced_cons_cons]
      refine .lexeme (word.isWord.longest_of_separates ?_) word.isDecimal (.blank hspace ih)
      simpa using Separates.of_isBlank hspace word.kind

end Word

theorem map_key_placed (here : Location) (pieces : List Piece) :
    (placed here pieces).map Token.key = pieces.filterMap Piece.key? := by
  induction pieces generalizing here with
  | nil => rfl
  | cons piece pieces ih =>
    cases piece with
    | blank c => exact ih _
    | lexeme kind word =>
      rw [placed, List.map_cons, ih]
      rfl

namespace Word

theorem filterMap_key?_intersperse (words : List Word) :
    ((words.map piece).intersperse (.blank ' ')).filterMap Piece.key? = words.map key := by
  induction words with
  | nil => rfl
  | cons word rest ih =>
    have hkey : word.piece.key? = some word.key := by simp [piece, Piece.key?, key]
    cases rest with
    | nil => simp [hkey]
    | cons next rest =>
      simp only [List.map_cons, List.intersperse_cons_cons] at ih ⊢
      rw [List.filterMap_cons_some hkey, List.filterMap_cons_none rfl, ih]

theorem newline_notMem_spaced (words : List Word) : '\n' ∉ (spaced words).toList := by
  induction words with
  | nil => simp [spaced]
  | cons word rest ih =>
    have hword := word.isWord.newline_notMem
    cases rest with
    | nil => simpa [spaced] using hword
    | cons next rest =>
      rw [toList_spaced_cons_cons]
      simp [hword, ih]

theorem scan_spaced (words : List Word) :
    ∃ tokens, scan (spaced words) = .ok tokens ∧ tokens.map Token.key = words.map key ∧
      ∀ token ∈ tokens, token.line = 0 := by
  have hscan := (segmentation_spaced words).scanFrom_eq .origin
  refine ⟨_, hscan, ?_, line_eq_zero (newline_notMem_spaced words) hscan⟩
  rw [map_key_placed, filterMap_key?_intersperse]

end Word

end Calculator
