import Calculator.Proofs.Program.Relocation
import Calculator.Proofs.Scan.Layout

/-! # Blanks between tokens

Blanks that are inserted into a text, but not into a token, make room for themselves: what stands
behind them on their line moves to the right, and everything else stays where it is. Words that
touched before are cut as they were.
-/
namespace Calculator

namespace Location

/-- Where a place is when `n` columns are inserted before `place`. -/
def makeRoom (place : Location) (n : Int) (location : Location) : Location :=
  if location.line = place.line ∧ place.column ≤ location.column then location.right n
  else location

@[simp] theorem line_makeRoom (place : Location) (n : Int) (location : Location) :
    (place.makeRoom n location).line = location.line := by
  unfold makeRoom
  split <;> rfl

@[simp] theorem makeRoom_zero (place location : Location) : place.makeRoom 0 location = location := by
  simp [makeRoom]

theorem makeRoom_self (place : Location) (n : Int) : place.makeRoom n place = place.right n := by
  simp [makeRoom]

theorem makeRoom_of_before {place location : Location} (h : location.Before place) (n : Int) :
    place.makeRoom n location = location := by
  unfold Before at h
  rw [makeRoom, if_neg (by omega)]

theorem makeRoom_right {place location : Location} {k : Int} (hk : 0 ≤ k)
    (h : location.line = place.line → location.column < place.column →
      location.column + k < place.column) (n : Int) :
    place.makeRoom n (location.right k) = (place.makeRoom n location).right k := by
  by_cases hline : location.line = place.line
  · by_cases hcolumn : place.column ≤ location.column
    · have hright : place.column ≤ (location.right k).column := by
        simp only [right]
        omega
      rw [makeRoom, if_pos ⟨hline, hright⟩, makeRoom, if_pos ⟨hline, hcolumn⟩, right_right,
        right_right, Int.add_comm]
    · have hright : ¬ place.column ≤ (location.right k).column := by
        have := h hline (Int.not_le.mp hcolumn)
        simp only [right]
        omega
      rw [makeRoom, if_neg fun h => hright h.2, makeRoom, if_neg fun h => hcolumn h.2]
  · rw [makeRoom, if_neg fun h => hline h.1, makeRoom, if_neg fun h => hline h.1]

theorem Reaches.after {here there : Location} (h : here.Reaches there) (c : Char) :
    here.Reaches (there.after c) := by
  have hafter : there.Before (there.after c) := before_behind (List.cons_ne_nil c []) there
  rcases h with rfl | h
  · exact Or.inr hafter
  · exact Or.inr (h.trans hafter)

theorem Reaches.behind {here there : Location} (h : here.Reaches there) (text : List Char) :
    here.Reaches (there.behind text) := by
  induction text generalizing there with
  | nil => exact h
  | cons c text ih => exact ih (h.after c)

theorem makeRoom_after {place here : Location} (h : place.Reaches here) (n : Int) (c : Char) :
    place.makeRoom n (here.after c) = (place.makeRoom n here).after c := by
  have hle : place.line ≤ here.line := by
    rcases h with rfl | hlt | ⟨heq, _⟩
    · exact Int.le_refl _
    · exact Int.le_of_lt hlt
    · exact Int.le_of_eq heq
  unfold after
  split
  · have hbelow : here.newline.line ≠ place.line := by
      simp only [newline]
      omega
    rw [makeRoom, if_neg fun h => hbelow h.1, newline, newline, line_makeRoom]
  · refine makeRoom_right (by decide) (fun hline hlt => ?_) n
    have hcolumn := h.column_le hline.symm
    omega

theorem makeRoom_behind {place here : Location} (h : place.Reaches here) (n : Int)
    (text : List Char) :
    place.makeRoom n (here.behind text) = (place.makeRoom n here).behind text := by
  induction text generalizing here with
  | nil => rfl
  | cons c text ih =>
    calc place.makeRoom n (here.behind (c :: text))
        = (place.makeRoom n (here.after c)).behind text := ih (h.after c)
      _ = (place.makeRoom n here).behind (c :: text) := by
        rw [makeRoom_after h]
        rfl

end Location

theorem placed_append (here : Location) (front back : List Piece) :
    placed here (front ++ back) =
      placed here front ++ placed (here.behind (front.flatMap Piece.text)) back := by
  induction front generalizing here with
  | nil => rfl
  | cons piece front ih =>
    cases piece with
    | blank c => exact ih (here.after c)
    | lexeme kind word =>
      rw [List.flatMap_cons, Location.behind_append, List.cons_append, placed, ih]
      rfl

theorem placed_makeRoom {place here : Location} (h : place.Reaches here) (n : Int)
    (pieces : List Piece) :
    placed (place.makeRoom n here) pieces =
      (placed here pieces).map (Token.relocate (place.makeRoom n)) := by
  induction pieces generalizing here with
  | nil => rfl
  | cons piece pieces ih =>
    cases piece with
    | blank c =>
      rw [placed, placed, ← Location.makeRoom_after h, ih (h.after c)]
    | lexeme kind word =>
      rw [placed, placed, ← Location.makeRoom_behind h, ih (h.behind word)]
      rfl

theorem map_makeRoom_placed {here : Location} {pieces : List Piece} {text : List Char}
    (h : Segmentation text pieces) (n : Int) :
    (placed here pieces).map (Token.relocate ((here.behind text).makeRoom n)) = placed here pieces := by
  have hfixed : ∀ token ∈ placed here pieces,
      token.relocate ((here.behind text).makeRoom n) = token := by
    intro token htoken
    obtain ⟨before, after, hsplit⟩ := List.append_of_mem htoken
    obtain ⟨front, word, back, hpieces, _, hlocation, _⟩ := exists_piece_of_placed hsplit
    obtain ⟨c, tail, rfl⟩ := (h.isWord hpieces).exists_cons
    have hbefore : token.location.Before (here.behind text) := by
      rw [← h.flatMap_text, hpieces, List.flatMap_append, Location.behind_append, ← hlocation]
      exact Location.before_behind (by simp [Piece.text]) _
    rw [Token.relocate, Location.makeRoom_of_before hbefore]
  rw [List.map_congr_left hfixed, List.map_id']

theorem Segmentation.left {text : List Char} {front back : List Piece}
    (h : Segmentation text (front ++ back)) : Segmentation (front.flatMap Piece.text) front := by
  induction front generalizing text with
  | nil => exact .nil
  | cons piece front ih =>
    rw [List.cons_append] at h
    cases h with
    | blank hblank hrest => exact .blank hblank (ih hrest)
    | @lexeme kind word rest _ hlongest hdecimal hrest =>
      obtain ⟨hword, hseparates⟩ := longest_append_iff.mp hlongest
      refine .lexeme (hword.longest_of_separates ?_) hdecimal (ih hrest)
      intro next (hnext : next ∈ (front.flatMap Piece.text).head?)
      obtain ⟨more, hmore⟩ := List.head?_eq_some_iff.mp hnext
      apply hseparates next
      rw [← hrest.flatMap_text, List.flatMap_append, hmore]
      rfl

/-- Pieces can be cut in two at every offset that is not inside one of them. -/
theorem exists_cut {pieces : List Piece} {front back : List Char}
    (htext : pieces.flatMap Piece.text = front ++ back)
    (hcut : ∀ before piece after, pieces = before ++ piece :: after →
      ¬ ((before.flatMap Piece.text).length < front.length ∧
        front.length < (before.flatMap Piece.text).length + piece.text.length)) :
    ∃ left right, pieces = left ++ right ∧ left.flatMap Piece.text = front := by
  induction pieces generalizing front with
  | nil =>
    obtain ⟨rfl, rfl⟩ := List.nil_eq_append_iff.mp htext
    exact ⟨[], [], rfl, rfl⟩
  | cons piece pieces ih =>
    by_cases hempty : front = []
    · exact ⟨[], piece :: pieces, rfl, hempty.symm⟩
    · rw [List.flatMap_cons] at htext
      have hle : piece.text.length ≤ front.length := by
        have hfirst := hcut [] piece pieces rfl
        have hpos := List.length_pos_iff.mpr hempty
        simp only [List.flatMap_nil, List.length_nil] at hfirst
        omega
      obtain ⟨more, rfl⟩ : piece.text <+: front :=
        List.prefix_of_prefix_length_le ⟨_, htext⟩ (List.prefix_append front back) hle
      rw [List.append_assoc] at htext
      have hmore : ∀ before other after, pieces = before ++ other :: after →
          ¬ ((before.flatMap Piece.text).length < more.length ∧
            more.length < (before.flatMap Piece.text).length + other.text.length) := by
        rintro before other after rfl
        have := hcut (piece :: before) other after rfl
        simp only [List.flatMap_cons, List.length_append] at this
        omega
      obtain ⟨left, right, rfl, rfl⟩ := ih (List.append_cancel_left htext) hmore
      exact ⟨piece :: left, right, rfl, rfl⟩

/-- A text is scanned up to a cut between two of its pieces, then come the blanks that are inserted,
and then the rest. -/
theorem Segmentation.scanFrom_insert {left right : List Piece} {text : List Char}
    (h : Segmentation text (left ++ right)) {blanks : List Char}
    (hblanks : ∀ c ∈ blanks, isBlank c = true ∧ c ≠ '\n') (here : Location) :
    scanFrom here (left.flatMap Piece.text ++ (blanks ++ right.flatMap Piece.text)) =
      .ok ((placed here (left ++ right)).map (Token.relocate
        ((here.behind (left.flatMap Piece.text)).makeRoom blanks.length))) := by
  have htext : text = left.flatMap Piece.text ++ right.flatMap Piece.text := by
    rw [← h.flatMap_text, List.flatMap_append]
  cases hcases : blanks with
  | nil =>
    have hstay : Token.relocate ((here.behind (left.flatMap Piece.text)).makeRoom 0) = id := by
      funext token
      simp [Token.relocate]
    rw [List.nil_append, ← htext, h.scanFrom_eq, List.length_nil, Int.natCast_zero, hstay,
      List.map_id]
  | cons c more =>
    rw [← hcases]
    have hfollow : ∀ next ∈ (blanks ++ right.flatMap Piece.text).head?, MayFollow left next := by
      intro next hnext kind word _
      obtain rfl : c = next := by simpa [hcases] using hnext
      exact Separates.of_isBlank (hblanks c (by simp [hcases])).1 kind
    have hnewline : '\n' ∉ blanks := fun hmem => (hblanks _ hmem).2 rfl
    have hroom : (here.behind (left.flatMap Piece.text)).behind blanks =
        (here.behind (left.flatMap Piece.text)).makeRoom blanks.length
          (here.behind (left.flatMap Piece.text)) := by
      rw [Location.behind_eq_right hnewline, Location.makeRoom_self]
    rw [h.left.scanFrom_append hfollow, scanFrom_blanks fun c hc => (hblanks c hc).1, hroom,
      h.right.scanFrom_eq, placed_append, List.map_append, map_makeRoom_placed h.left,
      placed_makeRoom (Or.inl rfl)]
    rfl

theorem Location.offset_sub_column {location other : Location} (hline : location.line = other.line)
    (hlocation : 0 ≤ location.column) (hother : 0 ≤ other.column) (text : List Char) :
    location.offset text - location.column = other.offset text - other.column := by
  simp only [offset, hline]
  omega

section

variable {front back blanks : String} {tokens : List Token}

def Location.inserting (front inserted : String) : Location → Location :=
  (Location.following front.toList).makeRoom inserted.length

theorem start_sub_column (hscan : scan (front ++ back) = .ok tokens) {token : Token}
    (htoken : token ∈ tokens) (hline : token.line = (Location.following front.toList).line) :
    (token.start (front ++ back) : Int) - token.location.column =
      front.length - (Location.following front.toList).column := by
  obtain ⟨before, _, _, hlocation⟩ := (standsAt_of_scan hscan htoken).1
  have hcolumn : 0 ≤ token.location.column := by
    rw [hlocation]
    exact Int.natCast_nonneg _
  have hplace := Location.offset_following front.toList back.toList
  rw [String.length_toList] at hplace
  rw [← hplace, Token.start, String.toList_append]
  exact Location.offset_sub_column hline hcolumn (Int.natCast_nonneg _) _

theorem makeRoom_location (hscan : scan (front ++ back) = .ok tokens) {token : Token}
    (htoken : token ∈ tokens) (n : Int) :
    (Location.following front.toList).makeRoom n token.location =
      if token.line = (Location.following front.toList).line ∧
          front.length ≤ token.start (front ++ back) then token.location.right n
      else token.location := by
  by_cases hline : token.line = (Location.following front.toList).line
  · have hcolumns := start_sub_column hscan htoken hline
    have hiff : (Location.following front.toList).column ≤ token.location.column ↔
        front.length ≤ token.start (front ++ back) := by
      omega
    exact if_congr (and_congr Iff.rfl hiff) rfl rfl
  · rw [Location.makeRoom, if_neg fun h => hline h.1, if_neg fun h => hline h.1]

/-- A token that blanks are not inserted into is moved as a whole. -/
theorem endLocation_makeRoom (hscan : scan (front ++ back) = .ok tokens) {token : Token}
    (htoken : token ∈ tokens) (hcut : ¬ (token.start (front ++ back) < front.length ∧
      front.length < token.stop (front ++ back))) (n : Int) :
    (token.relocate ((Location.following front.toList).makeRoom n)).endLocation =
      (Location.following front.toList).makeRoom n token.endLocation := by
  have hlength : 0 < token.lexeme.length := by
    obtain ⟨c, tail, hlexeme⟩ := (isWord_of_scan hscan htoken).exists_cons
    rw [← String.length_toList, hlexeme]
    exact Nat.zero_lt_succ _
  have hk : 0 ≤ (token.lexeme.length : Int) - 1 := by omega
  refine (Location.makeRoom_right hk ?_ n).symm
  intro hline hbefore
  have hcolumns := start_sub_column hscan htoken hline
  rw [Token.stop] at hcut
  omega

/-- Blanks that are inserted between tokens leave the tokens as they are, but move those behind them
on their line. -/
theorem scan_insert (hscan : scan (front ++ back) = .ok tokens)
    (hcut : ∀ token ∈ tokens, ¬ (token.start (front ++ back) < front.length ∧
      front.length < token.stop (front ++ back)))
    (hblanks : ∀ c ∈ blanks.toList, isBlank c = true ∧ c ≠ '\n') :
    scan (front ++ blanks ++ back) = .ok (tokens.map (Token.relocate
      ((Location.following front.toList).makeRoom blanks.length))) := by
  obtain ⟨pieces, hpieces, rfl⟩ := exists_segmentation hscan
  have htext : pieces.flatMap Piece.text = front.toList ++ back.toList := by
    rw [hpieces.flatMap_text, String.toList_append]
  have hbetween : ∀ before piece after, pieces = before ++ piece :: after →
      ¬ ((before.flatMap Piece.text).length < front.toList.length ∧
        front.toList.length < (before.flatMap Piece.text).length + piece.text.length) := by
    rintro before piece after rfl
    cases piece with
    | blank c =>
      simp only [Piece.text, List.length_singleton]
      omega
    | lexeme kind word =>
      obtain ⟨token, htoken, hstart, hstop⟩ := exists_token_of_piece hpieces
      have hfree := hcut token htoken
      rw [hstart, hstop] at hfree
      rwa [String.length_toList]
  obtain ⟨left, right, rfl, hleft⟩ := exists_cut htext hbetween
  have hright : right.flatMap Piece.text = back.toList := by
    rw [List.flatMap_append, hleft] at htext
    exact List.append_cancel_left htext
  have hinsert := hpieces.scanFrom_insert hblanks .origin
  rw [hleft, hright, Location.origin_behind, String.length_toList] at hinsert
  rw [scan, String.toList_append, String.toList_append, List.append_assoc]
  exact hinsert

end

end Calculator
