import Mathlib.Data.List.Chain
import Calculator.Proofs.Scan.Boundaries
import Calculator.Proofs.Scan.Offsets

/-! # Tokens laid out as a text

Tokens are laid out as a text that has each of them at its place, with line feeds and spaces to fill
what is between. The text is scanned back when the tokens stand in the order of their places and
none runs into the next. The tokens of any text do, also where they touch.
-/
namespace Calculator

/-- Line feeds from one place down to the line of a later one, then spaces up to its column. -/
def gap (here there : Location) : List Char :=
  if here.line = there.line then List.replicate (there.column - here.column).toNat ' '
  else List.replicate (there.line - here.line).toNat '\n' ++ List.replicate there.column.toNat ' '

def Token.behind (token : Token) : Location :=
  token.location.right token.lexeme.length

theorem Token.behind_eq {token : Token} (h : '\n' ∉ token.lexeme.toList) :
    token.behind = token.location.behind token.lexeme.toList := by
  rw [Location.behind_eq_right h, String.length_toList, behind]

def layoutFrom : Location → List Token → List Char
  | _, [] => []
  | here, token :: rest =>
    gap here token.location ++ (token.lexeme.toList ++ layoutFrom token.behind rest)

def layout (tokens : List Token) : String :=
  String.ofList (layoutFrom .origin tokens)

theorem isBlank_of_mem_gap {here there : Location} {c : Char} (h : c ∈ gap here there) :
    isBlank c = true := by
  have hspace : isBlank ' ' = true := by decide
  have hnewline : isBlank '\n' = true := by decide
  unfold gap at h
  split at h
  · rw [List.eq_of_mem_replicate h, hspace]
  · rcases List.mem_append.mp h with h | h
    · rw [List.eq_of_mem_replicate h, hnewline]
    · rw [List.eq_of_mem_replicate h, hspace]

namespace Location

theorem behind_spaces (here : Location) (n : Nat) :
    here.behind (List.replicate n ' ') = here.right n := by
  rw [behind_eq_right, List.length_replicate]
  intro hmem
  have hspace := List.eq_of_mem_replicate hmem
  revert hspace
  decide

theorem behind_newlines (here : Location) (n : Nat) :
    here.behind (List.replicate (n + 1) '\n') = ⟨here.line + (n + 1), 0⟩ := by
  induction n generalizing here with
  | zero => rfl
  | succ n ih =>
    have hcons : here.behind (List.replicate (n + 1 + 1) '\n') =
        here.newline.behind (List.replicate (n + 1) '\n') := rfl
    rw [hcons, ih]
    simp only [newline, Int.natCast_succ, mk.injEq, and_true]
    omega

/-- A place that is not behind another can be filled up to it. -/
def Reaches (here there : Location) : Prop :=
  here = there ∨ here.Before there

theorem origin_reaches {there : Location} (hline : 0 ≤ there.line) (hcolumn : 0 ≤ there.column) :
    origin.Reaches there := by
  rcases there with ⟨line, column⟩
  simp only [Reaches, origin, Before, mk.injEq] at *
  omega

theorem Reaches.column_le {here there : Location} (h : here.Reaches there)
    (hline : here.line = there.line) : here.column ≤ there.column := by
  rcases h with rfl | hlt | ⟨_, hlt⟩
  · exact Int.le_refl _
  · omega
  · exact Int.le_of_lt hlt

theorem Reaches.exists_line_eq_add {here there : Location} (h : here.Reaches there)
    (hline : here.line ≠ there.line) : ∃ n : Nat, there.line = here.line + (n + 1) := by
  rcases h with rfl | hlt | ⟨heq, _⟩
  · exact absurd rfl hline
  · exact ⟨(there.line - here.line - 1).toNat, by omega⟩
  · exact absurd heq hline

theorem Reaches.behind_gap {here there : Location} (h : here.Reaches there)
    (hcolumn : 0 ≤ there.column) : here.behind (gap here there) = there := by
  unfold gap
  split
  · next hline =>
    have hle := h.column_le hline
    have hsum : here.column + (there.column - here.column).toNat = there.column := by omega
    rw [behind_spaces, right, hline, hsum]
  · next hline =>
    obtain ⟨n, hn⟩ := h.exists_line_eq_add hline
    have hcount : (there.line - here.line).toNat = n + 1 := by omega
    rw [hcount, behind_append, behind_newlines, behind_spaces, right, ← hn,
      Int.toNat_of_nonneg hcolumn, Int.zero_add]

theorem gap_ne_nil {here there : Location} (h : here.Before there) : gap here there ≠ [] := by
  intro hgap
  unfold Before at h
  unfold gap at hgap
  split at hgap
  · rw [List.replicate_eq_nil_iff] at hgap
    omega
  · rw [List.append_eq_nil_iff, List.replicate_eq_nil_iff] at hgap
    omega

end Location

theorem scanFrom_blanks {blanks : List Char} (h : ∀ c ∈ blanks, isBlank c = true)
    (here : Location) (text : List Char) :
    scanFrom here (blanks ++ text) = scanFrom (here.behind blanks) text := by
  induction blanks generalizing here with
  | nil => rfl
  | cons c blanks ih =>
    obtain ⟨hc, hblanks⟩ := List.forall_mem_cons.mp h
    rw [List.cons_append, scanFrom_blank (Head.of_isBlank hc _), ih hblanks]
    rfl

/-- A token can stand before another: it ends before it, or where the other begins, and does not run
into it. -/
def Token.MayPrecede (token next : Token) : Prop :=
  token.behind.Before next.location ∨
    token.behind = next.location ∧ ∀ c ∈ next.lexeme.toList.head?, Separates token.kind c

structure Token.Placeable (token : Token) : Prop where
  isWord : IsWord token.kind token.lexeme.toList
  isDecimal : token.kind = .number → IsDecimal token.lexeme.toList
  line_nonneg : 0 ≤ token.location.line
  column_nonneg : 0 ≤ token.location.column

/-- Tokens that a text can have, in their order. -/
structure Arranged (tokens : List Token) : Prop where
  placeable : ∀ token ∈ tokens, token.Placeable
  chain : tokens.IsChain Token.MayPrecede

theorem Token.MayPrecede.reaches {token next : Token} (h : token.MayPrecede next) :
    token.behind.Reaches next.location := by
  rcases h with hbefore | ⟨heq, _⟩
  · exact Or.inr hbefore
  · exact Or.inl heq

namespace Arranged

variable {token : Token} {rest : List Token}

theorem tail (h : Arranged (token :: rest)) : Arranged rest where
  placeable := fun other hother => h.placeable other (List.mem_cons_of_mem _ hother)
  chain := h.chain.tail

theorem mayPrecede_of_mem_head? (h : Arranged (token :: rest)) {next : Token}
    (hnext : next ∈ rest.head?) : token.MayPrecede next := by
  obtain ⟨others, rfl⟩ := List.head?_eq_some_iff.mp hnext
  exact (List.isChain_cons_cons.mp h.chain).1

end Arranged

theorem separates_of_mem_layoutFrom {token : Token} {rest : List Token}
    (h : Arranged (token :: rest)) :
    ∀ c ∈ (layoutFrom token.behind rest).head?, Separates token.kind c := by
  intro c hc
  cases rest with
  | nil => cases hc
  | cons next rest =>
    have hnext := h.mayPrecede_of_mem_head? rfl
    rw [layoutFrom] at hc
    cases hgap : gap token.behind next.location with
    | cons d blanks =>
      have hblank : isBlank d = true := isBlank_of_mem_gap (hgap ▸ List.mem_cons_self)
      rw [hgap] at hc
      obtain rfl : d = c := by simpa using hc
      exact .of_isBlank hblank _
    | nil =>
      obtain ⟨d, tail, hlexeme⟩ := (h.placeable next (by simp)).isWord.exists_cons
      rw [hgap, hlexeme] at hc
      obtain rfl : d = c := by simpa using hc
      rcases hnext with hbefore | ⟨_, hseparates⟩
      · exact absurd hgap (Location.gap_ne_nil hbefore)
      · exact hseparates d (by simp [hlexeme])

theorem scanFrom_layoutFrom {tokens : List Token} (h : Arranged tokens) {here : Location}
    (hhere : ∀ token ∈ tokens.head?, here.Reaches token.location) :
    scanFrom here (layoutFrom here tokens) = .ok tokens := by
  induction tokens generalizing here with
  | nil => rw [layoutFrom, scanFrom]
  | cons token rest ih =>
    have hplace := h.placeable token List.mem_cons_self
    have hrest := ih h.tail fun next hnext => (h.mayPrecede_of_mem_head? hnext).reaches
    have hlongest := hplace.isWord.longest_of_separates (separates_of_mem_layoutFrom h)
    have hbehind := Token.behind_eq hplace.isWord.newline_notMem
    rw [layoutFrom, scanFrom_blanks (fun _ => isBlank_of_mem_gap),
      (hhere token rfl).behind_gap hplace.column_nonneg,
      hlongest.scanFrom_eq hplace.isDecimal, ← hbehind, hrest, Except.map, String.ofList_toList]

theorem Segmentation.first_placed {text : List Char} {pieces : List Piece}
    (h : Segmentation text pieces) {here : Location} {first : Token}
    (hfirst : first ∈ (placed here pieces).head?) :
    here.Before first.location ∨
      here = first.location ∧ text.head? = first.lexeme.toList.head? := by
  induction h generalizing here with
  | nil => cases hfirst
  | @blank c rest pieces _ _ ih =>
    have hafter : here.Before (here.after c) :=
      Location.before_behind (List.cons_ne_nil c []) here
    refine Or.inl ?_
    rcases ih hfirst with hbefore | ⟨heq, _⟩
    · exact hafter.trans hbefore
    · exact heq ▸ hafter
  | lexeme hlongest =>
    obtain ⟨c, tail, rfl⟩ := hlongest.isWord.exists_cons
    obtain rfl := Option.some.inj hfirst
    exact Or.inr ⟨rfl, by simp⟩

theorem Segmentation.isChain_mayPrecede {text : List Char} {pieces : List Piece}
    (h : Segmentation text pieces) (here : Location) :
    (placed here pieces).IsChain Token.MayPrecede := by
  induction h generalizing here with
  | nil => exact List.isChain_nil
  | blank _ _ ih => exact ih _
  | @lexeme kind word rest pieces hlongest _ hrest ih =>
    refine List.isChain_cons.mpr ⟨?_, ih _⟩
    intro next hnext
    have hbehind : Token.behind ⟨kind, String.ofList word, here⟩ = here.behind word := by
      rw [Token.behind_eq, String.toList_ofList]
      rw [String.toList_ofList]
      exact hlongest.isWord.newline_notMem
    rw [Token.MayPrecede, hbehind]
    rcases hrest.first_placed hnext with hbefore | ⟨heq, hhead⟩
    · exact Or.inl hbefore
    · refine Or.inr ⟨heq, fun c hc => ?_⟩
      rw [← hhead] at hc
      exact (longest_append_iff.mp hlongest).2 c hc

theorem arranged_of_scan {source : String} {tokens : List Token} (h : scan source = .ok tokens) :
    Arranged tokens where
  placeable := by
    intro token htoken
    obtain ⟨front, back, _, hlocation⟩ := (standsAt_of_scan h htoken).1
    refine ⟨isWord_of_scan h htoken, ?_, ?_, ?_⟩
    · intro hkind
      exact (isDecimal_iff _).mpr (readable_of_scan h token htoken hkind).2
    · rw [hlocation]
      exact Int.natCast_nonneg _
    · rw [hlocation]
      exact Int.natCast_nonneg _
  chain := by
    obtain ⟨pieces, hpieces, rfl⟩ := exists_segmentation h
    exact hpieces.isChain_mayPrecede _

theorem scan_layout_of_arranged {tokens : List Token} (h : Arranged tokens) :
    scan (layout tokens) = .ok tokens := by
  rw [scan, layout, String.toList_ofList]
  refine scanFrom_layoutFrom h fun token htoken => ?_
  have hplace := h.placeable token (List.mem_of_mem_head? htoken)
  exact Location.origin_reaches hplace.line_nonneg hplace.column_nonneg

/-- Tokens are scanned back from their layout exactly when they are arranged. -/
theorem scan_layout_iff (tokens : List Token) :
    scan (layout tokens) = .ok tokens ↔ Arranged tokens :=
  ⟨arranged_of_scan, scan_layout_of_arranged⟩

/-- Lines do not decrease, and on one line a column at least is left free behind a token. -/
def Token.LeavesGap (token next : Token) : Prop :=
  token.line ≤ next.line ∧
    (token.line = next.line →
      token.location.column + token.lexeme.length + 1 ≤ next.location.column)

theorem Token.LeavesGap.mayPrecede {token next : Token} (h : token.LeavesGap next) :
    token.MayPrecede next := by
  obtain ⟨hle, hcolumn⟩ := h
  refine Or.inl ?_
  simp only [Location.Before, behind, Location.right, line] at *
  omega

/-- Tokens with gaps between them are laid out as a text that has each of them at its place and is
scanned back. So are the tokens of any text, also where they touch. -/
theorem scan_layout_returns_tokens :
    (∀ tokens : List Token, (∀ token ∈ tokens, token.Placeable) →
      tokens.IsChain Token.LeavesGap →
      scan (layout tokens) = .ok tokens ∧
        ∀ token ∈ tokens, StandsAt (layout tokens) token.location token.lexeme) ∧
    ∀ (source : String) (tokens : List Token), scan source = .ok tokens →
      scan (layout tokens) = .ok tokens := by
  constructor
  · intro tokens hplaceable hchain
    have harranged : Arranged tokens := ⟨hplaceable, hchain.imp fun _ _ h => h.mayPrecede⟩
    have hscan := (scan_layout_iff tokens).mpr harranged
    exact ⟨hscan, fun token htoken => (standsAt_of_scan hscan htoken).1⟩
  · intro source tokens hscan
    exact (scan_layout_iff tokens).mpr (arranged_of_scan hscan)

theorem scan_layout_returns_tokens_of_lines :
    layout [⟨.identifier, "x", ⟨0, 2⟩⟩, ⟨.assign, "=", ⟨0, 4⟩⟩, ⟨.number, ".5", ⟨2, 1⟩⟩] =
      "  x =\n\n .5" ∧
    scan (layout [⟨.identifier, "x", ⟨0, 2⟩⟩, ⟨.assign, "=", ⟨0, 4⟩⟩, ⟨.number, ".5", ⟨2, 1⟩⟩]) =
      .ok [⟨.identifier, "x", ⟨0, 2⟩⟩, ⟨.assign, "=", ⟨0, 4⟩⟩, ⟨.number, ".5", ⟨2, 1⟩⟩] ∧
    scan "\t>==\u2028" = .ok [⟨.operator .ge, ">=", ⟨0, 1⟩⟩, ⟨.assign, "=", ⟨0, 3⟩⟩] ∧
    scan (layout [⟨.operator .ge, ">=", ⟨0, 1⟩⟩, ⟨.assign, "=", ⟨0, 3⟩⟩]) =
      .ok [⟨.operator .ge, ">=", ⟨0, 1⟩⟩, ⟨.assign, "=", ⟨0, 3⟩⟩] := by
  have htouching : scan "\t>==\u2028" =
      .ok [⟨.operator .ge, ">=", ⟨0, 1⟩⟩, ⟨.assign, "=", ⟨0, 3⟩⟩] := by
    decide +kernel
  have hname : Token.Placeable ⟨.identifier, "x", ⟨0, 2⟩⟩ :=
    ⟨.identifier (by decide) (by simp), by simp, by decide, by decide⟩
  have hsign : Token.Placeable ⟨.assign, "=", ⟨0, 4⟩⟩ :=
    ⟨.symbol rfl, by simp, by decide, by decide⟩
  have hnumber : Token.Placeable ⟨.number, ".5", ⟨2, 1⟩⟩ :=
    ⟨.number (by decide) (List.all_eq_true.mp (by decide)),
      fun _ => (isDecimal_iff _).mpr (by decide), by decide, by decide⟩
  obtain ⟨hgaps, hscans⟩ := scan_layout_returns_tokens
  refine ⟨by decide +kernel, (hgaps _ ?_ ?_).1, htouching, hscans _ _ htouching⟩
  · simp [hname, hsign, hnumber]
  · refine List.isChain_cons_cons.mpr ⟨⟨by decide, by decide⟩, ?_⟩
    exact List.isChain_pair.mpr ⟨by decide, by decide⟩

end Calculator
