import Calculator.Proofs.Scan.Places

/-! # Tokens cover all of a text but its blanks

The offset of a place is the number of characters before it: those of the lines above, each with its
line feed, and those to the left on its own line. A token is the piece of the text between two
offsets. The pieces of different tokens do not overlap, and outside them the text is blank.
-/
namespace Calculator

/-- How many characters the first lines of a text take, with the line feed behind each. -/
def lineStart : List (List Char) → Nat → Nat
  | line :: lines, n + 1 => line.length + 1 + lineStart lines n
  | _, _ => 0

@[simp] theorem lineStart_zero (lines : List (List Char)) : lineStart lines 0 = 0 := by
  cases lines <;> rfl

@[simp] theorem lineStart_cons_succ (line : List Char) (lines : List (List Char)) (n : Nat) :
    lineStart (line :: lines) (n + 1) = line.length + 1 + lineStart lines n := rfl

theorem lineStart_append_left (above below : List (List Char)) :
    lineStart (above ++ below) above.length = lineStart above above.length := by
  induction above with
  | nil => simp
  | cons line above ih => simp [ih]

theorem lineStart_concat (above : List (List Char)) (line : List Char) :
    lineStart (above ++ [line]) (above.length + 1) =
      lineStart above above.length + line.length + 1 := by
  induction above with
  | nil => simp
  | cons first above ih =>
    simp only [List.cons_append, List.length_cons, lineStart_cons_succ, ih]
    omega

/-- What a text ends with: some full lines, and the beginning of a further line. -/
structure EndsBehind (front : List Char) (above : List (List Char)) (left : List Char) : Prop where
  newline_notMem : '\n' ∉ left
  linesOf_append : ∀ back, linesOf (front ++ back) = above ++ linesOf (left ++ back)
  length_eq : front.length = lineStart above above.length + left.length
  following_eq : Location.following front = ⟨above.length, left.length⟩

theorem exists_endsBehind (front : List Char) : ∃ above left, EndsBehind front above left := by
  induction front using List.reverseRecOn with
  | nil =>
    exact ⟨[], [], by simp, fun _ => rfl, rfl, rfl⟩
  | append_singleton front c ih =>
    obtain ⟨above, left, hfront⟩ := ih
    have hplace : Location.following (front ++ [c]) = (Location.following front).after c := by
      rw [← Location.origin_behind, ← Location.origin_behind, Location.behind_append]
      rfl
    by_cases hc : c = '\n'
    · subst hc
      refine ⟨above ++ [left], [], by simp, ?_, ?_, ?_⟩
      · intro back
        rw [List.append_assoc, hfront.linesOf_append, List.singleton_append,
          linesOf_append_newline hfront.newline_notMem]
        simp
      · rw [List.length_append, List.length_append, List.length_singleton, List.length_singleton,
          lineStart_concat, hfront.length_eq]
        simp
      · rw [hplace, hfront.following_eq]
        simp [Location.after, Location.newline]
    · refine ⟨above, left ++ [c], ?_, ?_, ?_, ?_⟩
      · simp [hfront.newline_notMem, Ne.symm hc]
      · intro back
        rw [List.append_assoc, hfront.linesOf_append, List.append_assoc]
      · rw [List.length_append, List.length_append, hfront.length_eq, Nat.add_assoc]
      · rw [hplace, hfront.following_eq]
        simp [Location.after, Location.right, hc]

namespace Location

/-- How many characters of a text stand before a place. -/
def offset (location : Location) (text : List Char) : Nat :=
  lineStart (linesOf text) location.line.toNat + location.column.toNat

theorem offset_following (front back : List Char) :
    (following front).offset (front ++ back) = front.length := by
  obtain ⟨above, left, hfront⟩ := exists_endsBehind front
  rw [offset, hfront.following_eq, hfront.linesOf_append, Int.toNat_natCast, Int.toNat_natCast,
    lineStart_append_left, hfront.length_eq]

theorem exists_line_of_following (front back : List Char) :
    ∃ (line : Nat) (left : List Char), following front = ⟨line, left.length⟩ ∧
      (linesOf (front ++ back))[line]? = some (left ++ back.takeWhile (· != '\n')) := by
  obtain ⟨above, left, hfront⟩ := exists_endsBehind front
  refine ⟨above.length, left, hfront.following_eq, ?_⟩
  rw [hfront.linesOf_append, List.getElem?_append_right (Nat.le_refl _), Nat.sub_self,
    ← List.head?_eq_getElem?, head?_linesOf,
    takeWhile_append_of_newline_notMem hfront.newline_notMem]

theorem exists_line_of_newline_notMem {text : List Char} (h : '\n' ∉ text)
    (front back : List Char) :
    ∃ (line column : Nat) (whole : List Char), following front = ⟨line, column⟩ ∧
      (linesOf (front ++ (text ++ back)))[line]? = some whole ∧
      column + text.length ≤ whole.length ∧ (whole.drop column).take text.length = text := by
  obtain ⟨line, left, hplace, hline⟩ := exists_line_of_following front (text ++ back)
  rw [takeWhile_append_of_newline_notMem h] at hline
  refine ⟨line, left.length, _, hplace, hline, ?_, ?_⟩
  · simp
  · rw [List.drop_left, List.take_left]

theorem following_behind (front back : List Char) :
    (following front).behind back = following (front ++ back) := by
  rw [← origin_behind, ← origin_behind, behind_append]

theorem offset_right {location : Location} (h : 0 ≤ location.column) (n : Nat) (text : List Char) :
    (location.right n).offset text = location.offset text + n := by
  simp only [offset, right]
  omega

end Location

namespace Token

def start (token : Token) (source : String) : Nat :=
  token.location.offset source.toList

def stop (token : Token) (source : String) : Nat :=
  token.start source + token.lexeme.length

/-- A token is a piece of a text: its lexeme is what the text holds from its offset on, on one line
from its column on, and its last character is the one at its end. -/
structure Occupies (token : Token) (source : String) : Prop where
  ne_empty : token.lexeme ≠ ""
  slice : (source.toList.drop (token.start source)).take token.lexeme.length = token.lexeme.toList
  inLine : ∃ (line column : Nat) (text : List Char), token.location = ⟨line, column⟩ ∧
    (linesOf source.toList)[line]? = some text ∧ column + token.lexeme.length ≤ text.length ∧
    (text.drop column).take token.lexeme.length = token.lexeme.toList
  ends : token.endLocation.line = token.line ∧
    token.endLocation.offset source.toList + 1 = token.stop source ∧
    source.toList[token.endLocation.offset source.toList]? = token.lexeme.toList.getLast?

variable {token : Token} {source : String} {front back : List Char}

theorem endLocation_of_concat {init : List Char} {last : Char}
    (h : token.lexeme.toList = init ++ [last]) :
    token.endLocation = token.location.right init.length := by
  have hlength : token.lexeme.length = init.length + 1 := by
    rw [← String.length_toList, h, List.length_append, List.length_singleton]
  simp [endLocation, hlength]

theorem start_of_following (hlocation : token.location = .following front)
    (hsource : source.toList = front ++ back) : token.start source = front.length := by
  rw [start, hlocation, hsource, Location.offset_following]

theorem occupies_of_standsAt (h : StandsAt source token.location token.lexeme)
    (hword : IsWord token.kind token.lexeme.toList) : token.Occupies source := by
  obtain ⟨front, back, hsource, hlocation⟩ := h
  rw [List.append_assoc] at hsource
  have hlength : token.lexeme.length = token.lexeme.toList.length := String.length_toList.symm
  have hstart := start_of_following hlocation hsource
  obtain ⟨init, last, hlast⟩ := hword.exists_concat
  have hend := endLocation_of_concat hlast
  have hoffset : token.endLocation.offset source.toList = front.length + init.length := by
    have hcolumn : 0 ≤ token.location.column := by
      rw [hlocation]
      exact Int.natCast_nonneg _
    rw [hend, Location.offset_right hcolumn, ← hstart, start]
  refine ⟨?_, ?_, ?_, ?_, ?_, ?_⟩
  · intro hempty
    rw [hempty] at hlast
    simp at hlast
  · rw [hstart, hsource, hlength, List.drop_left, List.take_left]
  · rw [hlocation, hsource, hlength]
    exact Location.exists_line_of_newline_notMem hword.newline_notMem front back
  · rw [hend, Location.line_right]
    rfl
  · rw [hoffset, stop, hstart, hlength, hlast, List.length_append, List.length_singleton,
      Nat.add_assoc]
  · rw [hoffset, hsource, hlast]
    simp

theorem Occupies.start_lt_stop (h : token.Occupies source) :
    token.start source < token.stop source := by
  have hlength : token.lexeme.length ≠ 0 := by
    intro hzero
    exact h.ne_empty (String.length_eq_zero_iff.mp hzero)
  rw [stop]
  omega

end Token

theorem length_le_start_of_mem_placed {source : String} {front : List Char} {pieces : List Piece}
    (hsource : source.toList = front ++ pieces.flatMap Piece.text) {token : Token}
    (htoken : token ∈ placed (.following front) pieces) : front.length ≤ token.start source := by
  obtain ⟨before, after, hsplit⟩ := List.append_of_mem htoken
  obtain ⟨passed, word, back, rfl, _, hlocation, _⟩ := exists_piece_of_placed hsplit
  rw [Location.following_behind] at hlocation
  rw [List.flatMap_append, ← List.append_assoc] at hsource
  rw [token.start_of_following hlocation hsource, List.length_append]
  omega

theorem Segmentation.pairwise_stop_le_start {text : List Char} {pieces : List Piece}
    (h : Segmentation text pieces) {source : String} {front : List Char}
    (hsource : source.toList = front ++ text) :
    (placed (.following front) pieces).Pairwise fun a b => a.stop source ≤ b.start source := by
  induction h generalizing front with
  | nil => exact List.Pairwise.nil
  | @blank c rest pieces _ _ ih =>
    have hafter : (Location.following front).after c = .following (front ++ [c]) :=
      Location.following_behind front [c]
    rw [placed, hafter]
    exact ih (by simpa using hsource)
  | @lexeme kind word rest pieces _ _ hrest ih =>
    rw [← List.append_assoc] at hsource
    rw [placed, Location.following_behind]
    refine List.pairwise_cons.mpr ⟨?_, ih hsource⟩
    intro token htoken
    have hstart : Token.start ⟨kind, String.ofList word, .following front⟩ source = front.length :=
      Token.start_of_following rfl (hsource.trans (List.append_assoc ..))
    rw [← hrest.flatMap_text] at hsource
    have hle := length_le_start_of_mem_placed hsource htoken
    rw [List.length_append] at hle
    simpa [Token.stop, hstart] using hle

/-- Every character of a text belongs to one of the pieces that it is cut into. -/
theorem exists_piece_of_getElem? {pieces : List Piece} {i : Nat} {c : Char}
    (h : (pieces.flatMap Piece.text)[i]? = some c) :
    ∃ front piece back, pieces = front ++ piece :: back ∧ c ∈ piece.text ∧
      (front.flatMap Piece.text).length ≤ i ∧
      i < (front.flatMap Piece.text).length + piece.text.length := by
  induction pieces generalizing i with
  | nil => simp at h
  | cons piece pieces ih =>
    rw [List.flatMap_cons] at h
    by_cases hi : i < piece.text.length
    · rw [List.getElem?_append_left hi] at h
      exact ⟨[], piece, pieces, rfl, List.mem_of_getElem? h, by simp, by simpa using hi⟩
    · rw [List.getElem?_append_right (by omega)] at h
      obtain ⟨front, other, back, rfl, hc, hle, hlt⟩ := ih h
      refine ⟨piece :: front, other, back, rfl, hc, ?_, ?_⟩
      · rw [List.flatMap_cons, List.length_append]
        omega
      · rw [List.flatMap_cons, List.length_append]
        omega

theorem mem_placed (here : Location) (front : List Piece) (kind : TokenKind) (word : List Char)
    (back : List Piece) :
    ⟨kind, String.ofList word, here.behind (front.flatMap Piece.text)⟩ ∈
      placed here (front ++ .lexeme kind word :: back) := by
  induction front generalizing here with
  | nil => exact List.mem_cons_self
  | cons piece front ih =>
    rw [List.flatMap_cons, Location.behind_append]
    cases piece with
    | blank c => exact ih _
    | lexeme other text => exact List.mem_cons_of_mem _ (ih _)

theorem exists_token_of_piece {source : String} {front back : List Piece} {kind : TokenKind}
    {word : List Char}
    (h : Segmentation source.toList (front ++ .lexeme kind word :: back)) :
    ∃ token ∈ placed .origin (front ++ .lexeme kind word :: back),
      token.start source = (front.flatMap Piece.text).length ∧
      token.stop source = (front.flatMap Piece.text).length + word.length := by
  have htoken := mem_placed .origin front kind word back
  rw [Location.origin_behind] at htoken
  have hstart : Token.start ⟨kind, String.ofList word, .following (front.flatMap Piece.text)⟩ source =
      (front.flatMap Piece.text).length :=
    Token.start_of_following rfl (h.flatMap_text.symm.trans (List.flatMap_append ..))
  exact ⟨_, htoken, hstart, by rw [Token.stop, hstart, String.length_ofList]⟩

theorem Segmentation.isBlank_of_mem {text : List Char} {pieces : List Piece}
    (h : Segmentation text pieces) {c : Char} (hc : .blank c ∈ pieces) : isBlank c = true := by
  induction h with
  | nil => cases hc
  | blank hblank _ ih =>
    rcases List.mem_cons.mp hc with heq | hc
    · cases heq
      exact hblank
    · exact ih hc
  | lexeme _ _ _ ih =>
    rcases List.mem_cons.mp hc with heq | hc
    · cases heq
    · exact ih hc

theorem isBlank_of_not_occupied {source : String} {tokens : List Token}
    (h : scan source = .ok tokens) {i : Nat} {c : Char} (hc : source.toList[i]? = some c)
    (hfree : ∀ token ∈ tokens, ¬ (token.start source ≤ i ∧ i < token.stop source)) :
    isBlank c = true := by
  obtain ⟨pieces, hpieces, rfl⟩ := exists_segmentation h
  have htext := hpieces.flatMap_text
  rw [← htext] at hc
  obtain ⟨front, piece, back, rfl, hmem, hle, hlt⟩ := exists_piece_of_getElem? hc
  cases piece with
  | blank d =>
    obtain rfl : c = d := by simpa [Piece.text] using hmem
    exact hpieces.isBlank_of_mem (by simp)
  | lexeme kind word =>
    obtain ⟨token, htoken, hstart, hstop⟩ := exists_token_of_piece hpieces
    refine absurd ⟨?_, ?_⟩ (hfree token htoken)
    · rw [hstart]
      exact hle
    · rw [hstop]
      simpa [Piece.text] using hlt

/-- The tokens of a text are pieces of it, each on one line, in the order of their places and one
behind the other. What belongs to none of them is blank. -/
theorem scan_covers_text {source : String} {tokens : List Token} (h : scan source = .ok tokens) :
    (∀ token ∈ tokens, token.Occupies source) ∧
    (tokens.Pairwise fun a b => a.start source < b.start source ∧ a.stop source ≤ b.start source ∧
      a.location.Before b.location) ∧
    ∀ (i : Nat) (c : Char), source.toList[i]? = some c →
      (∀ token ∈ tokens, ¬ (token.start source ≤ i ∧ i < token.stop source)) →
        isBlank c = true := by
  have hoccupies : ∀ token ∈ tokens, token.Occupies source := fun token htoken =>
    Token.occupies_of_standsAt (standsAt_of_scan h htoken).1 (isWord_of_scan h htoken)
  refine ⟨hoccupies, ?_, fun _ _ hc hfree => isBlank_of_not_occupied h hc hfree⟩
  have hbefore := pairwise_before_of_scan h
  have happart : tokens.Pairwise fun a b => a.stop source ≤ b.start source := by
    obtain ⟨pieces, hpieces, rfl⟩ := exists_segmentation h
    exact hpieces.pairwise_stop_le_start (List.nil_append _).symm
  refine (happart.and hbefore).imp_of_mem ?_
  rintro a b ha - ⟨hle, hplace⟩
  exact ⟨Nat.lt_of_lt_of_le (hoccupies a ha).start_lt_stop hle, hle, hplace⟩

theorem scan_covers_text_of_lines :
    scan "ab>=\n\u2028 c" = .ok [⟨.identifier, "ab", ⟨0, 0⟩⟩, ⟨.operator .ge, ">=", ⟨0, 2⟩⟩,
      ⟨.identifier, "c", ⟨1, 2⟩⟩] ∧
    Token.Occupies ⟨.identifier, "c", ⟨1, 2⟩⟩ "ab>=\n\u2028 c" ∧
    Token.stop ⟨.identifier, "ab", ⟨0, 0⟩⟩ "ab>=\n\u2028 c" ≤
      Token.start ⟨.operator .ge, ">=", ⟨0, 2⟩⟩ "ab>=\n\u2028 c" ∧
    isBlank '\u2028' = true := by
  have hscan : scan "ab>=\n\u2028 c" = .ok [⟨.identifier, "ab", ⟨0, 0⟩⟩,
      ⟨.operator .ge, ">=", ⟨0, 2⟩⟩, ⟨.identifier, "c", ⟨1, 2⟩⟩] := by
    decide +kernel
  obtain ⟨hoccupies, hpairs, hblank⟩ := scan_covers_text hscan
  refine ⟨hscan, hoccupies _ (by simp), ?_, ?_⟩
  · exact ((List.pairwise_cons.mp hpairs).1 _ (by simp)).2.1
  · exact hblank 5 '\u2028' (by decide +kernel) (by decide +kernel)

end Calculator
