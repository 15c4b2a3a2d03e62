import Mathlib.Data.List.Find
import Calculator.Proofs.Evaluation.Walk
import Calculator.Proofs.Program.Statements
import Calculator.Proofs.Scan.Places

/-! # Names without a value are visible in the text

Which name an evaluation finds without a value is told by the tokens and the names in the table: it
is the first that is read and neither in the table nor assigned on an earlier line. A name that a
line assigns is not visible on that line.
-/
namespace Calculator

namespace Token

def IsTarget (tokens : List Token) (token : Token) : Prop :=
  token.kind = .identifier ∧ ∃ sign ∈ tokens, sign.kind = .assign ∧ sign.line = token.line ∧
    [token, sign] <:+: tokens

/-- A name that is read. -/
def IsUse (tokens : List Token) (token : Token) : Prop :=
  token.kind = .identifier ∧ ¬ IsTarget tokens token

/-- A name that is read, is not among the given ones, and is not assigned on an earlier line. -/
def IsUndefined (defined : String → Bool) (tokens : List Token) (token : Token) : Prop :=
  IsUse tokens token ∧ defined token.lexeme = false ∧
    ∀ target ∈ tokens, IsTarget tokens target → target.line < token.line →
      target.lexeme ≠ token.lexeme

instance (tokens : List Token) (token : Token) : Decidable (IsTarget tokens token) :=
  inferInstanceAs (Decidable (_ ∧ _))

instance (tokens : List Token) (token : Token) : Decidable (IsUse tokens token) :=
  inferInstanceAs (Decidable (_ ∧ _))

instance (defined : String → Bool) (tokens : List Token) (token : Token) :
    Decidable (IsUndefined defined tokens token) :=
  inferInstanceAs (Decidable (_ ∧ _))

def read (token : Token) : Access :=
  .read token.lexeme token.location

def store (token : Token) : Access :=
  .store token.lexeme

def undefined (token : Token) : EvalError :=
  .undefined token.lexeme token.location

end Token

open Token Access

theorem Token.IsTarget.mem {tokens : List Token} {token : Token} (h : IsTarget tokens token) :
    token ∈ tokens := by
  obtain ⟨_, sign, _, _, _, hpair⟩ := h
  exact hpair.subset List.mem_cons_self

/-- No assignment reaches over a change of line. -/
theorem isTarget_append {front back : List Token} (h : ∀ a ∈ front, ∀ b ∈ back, a.line < b.line)
    (token : Token) :
    IsTarget (front ++ back) token ↔ IsTarget front token ∨ IsTarget back token := by
  constructor
  · rintro ⟨hkind, sign, _, hsign, hline, hpair⟩
    have hfront (hpair : [token, sign] <:+: front) : IsTarget front token :=
      ⟨hkind, sign, hpair.subset (by simp), hsign, hline, hpair⟩
    have hback (hpair : [token, sign] <:+: back) : IsTarget back token :=
      ⟨hkind, sign, hpair.subset (by simp), hsign, hline, hpair⟩
    rcases List.infix_append_iff.mp hpair with hpair | hpair | ⟨left, right, heq, hleft, hright⟩
    · exact Or.inl (hfront hpair)
    · exact Or.inr (hback hpair)
    · rcases List.cons_eq_append_iff.mp heq with ⟨rfl, rfl⟩ | ⟨left, rfl, hrest⟩
      · exact Or.inr (hback hright.isInfix)
      · rcases List.singleton_eq_append_iff.mp hrest with ⟨rfl, rfl⟩ | ⟨rfl, rfl⟩
        · have hlt := h token (hleft.subset (by simp)) sign (hright.subset (by simp))
          omega
        · exact Or.inl (hfront hleft.isInfix)
  · rintro (⟨hkind, sign, hmem, hsign, hline, hpair⟩ | ⟨hkind, sign, hmem, hsign, hline, hpair⟩)
    · exact ⟨hkind, sign, List.mem_append_left _ hmem, hsign, hline,
        hpair.trans (List.prefix_append _ _).isInfix⟩
    · exact ⟨hkind, sign, List.mem_append_right _ hmem, hsign, hline,
        hpair.trans (List.suffix_append _ _).isInfix⟩

theorem isTarget_append_left {front back : List Token}
    (h : ∀ a ∈ front, ∀ b ∈ back, a.line < b.line) {token : Token} (htoken : token ∈ front) :
    IsTarget (front ++ back) token ↔ IsTarget front token := by
  rw [isTarget_append h, or_iff_left]
  intro hback
  exact Int.lt_irrefl _ (h token htoken token hback.mem)

theorem isTarget_append_right {front back : List Token}
    (h : ∀ a ∈ front, ∀ b ∈ back, a.line < b.line) {token : Token} (htoken : token ∈ back) :
    IsTarget (front ++ back) token ↔ IsTarget back token := by
  rw [isTarget_append h, or_iff_right]
  intro hfront
  exact Int.lt_irrefl _ (h token hfront.mem token htoken)

def targetNames (tokens : List Token) : List String :=
  (tokens.filter fun token => IsTarget tokens token).map Token.lexeme

theorem isUndefined_append_left {front back : List Token}
    (h : ∀ a ∈ front, ∀ b ∈ back, a.line < b.line) (hfront : ∀ a ∈ front, ∀ b ∈ front, a.line = b.line)
    (defined : String → Bool) {token : Token} (htoken : token ∈ front) :
    IsUndefined defined (front ++ back) token ↔
      IsUse front token ∧ defined token.lexeme = false := by
  rw [IsUndefined, IsUse, isTarget_append_left h htoken, ← IsUse, ← and_assoc, and_iff_left]
  intro target hmem _ hlt
  rcases List.mem_append.mp hmem with hmem | hmem
  · have heq := hfront target hmem token htoken
    omega
  · have hgt := h token htoken target hmem
    omega

theorem isUndefined_append_right {front back : List Token}
    (h : ∀ a ∈ front, ∀ b ∈ back, a.line < b.line) (defined : String → Bool) {token : Token}
    (htoken : token ∈ back) :
    IsUndefined defined (front ++ back) token ↔
      IsUndefined (fun name => decide (name ∈ targetNames front) || defined name) back token := by
  have htarget : ∀ {target}, target ∈ back →
      (IsTarget (front ++ back) target ↔ IsTarget back target) :=
    fun hmem => isTarget_append_right h hmem
  have hassigned : (∀ target ∈ front, IsTarget (front ++ back) target → target.line < token.line →
      target.lexeme ≠ token.lexeme) ↔ token.lexeme ∉ targetNames front := by
    simp only [targetNames, List.mem_map, List.mem_filter, decide_eq_true_eq, not_exists, not_and,
      and_imp]
    refine forall₂_congr fun target hmem => ?_
    rw [isTarget_append_left h hmem]
    exact forall_congr' fun _ => imp_iff_right (h target hmem token htoken)
  have hlater : (∀ target ∈ back, IsTarget (front ++ back) target → target.line < token.line →
      target.lexeme ≠ token.lexeme) ↔ ∀ target ∈ back, IsTarget back target →
      target.line < token.line → target.lexeme ≠ token.lexeme :=
    forall₂_congr fun target hmem => by rw [htarget hmem]
  simp only [IsUndefined, IsUse, htarget htoken, List.forall_mem_append, hassigned, hlater,
    Bool.or_eq_false_iff, decide_eq_false_iff_not, and_assoc, and_left_comm]

namespace Access

theorem failure?_reads (defined : String → Bool) (uses : List Token) (rest : List Access) :
    failure? defined (uses.map Token.read ++ rest) =
      ((uses.find? fun token => !defined token.lexeme).map Token.undefined).or
        (failure? defined rest) := by
  induction uses with
  | nil => rfl
  | cons token uses ih =>
    rw [List.map_cons, List.cons_append, Token.read, failure?_read, ih, List.find?_cons]
    cases defined token.lexeme <;> rfl

theorem failure?_stores (defined : String → Bool) (targets : List Token) (rest : List Access) :
    failure? defined (targets.map Token.store ++ rest) =
      failure? (fun name => decide (name ∈ targets.map Token.lexeme) || defined name) rest := by
  induction targets generalizing defined with
  | nil => rfl
  | cons target targets ih =>
    rw [List.map_cons, List.cons_append, Token.store, failure?_store, ih]
    congr 1
    funext name
    simp only [List.map_cons, List.mem_cons, eq_comm (a := name), Bool.decide_or, Bool.or_assoc]
    rw [← Bool.or_assoc, Bool.or_comm (decide _), Bool.or_assoc]

end Access

theorem Derives.walk_eq {symbol : Nonterminal} {tokens : List Token} {node : Node}
    (h : Derives symbol tokens node) :
    node.walk = (tokens.filter fun token => token.kind = .identifier).map Token.read := by
  induction h with
  | number hkind => simp [hkind, Node.walk]
  | identifier hkind => simp [hkind, Node.walk, Token.read]
  | group hopening _ hclosing ih => simp [hopening, hclosing, ih]
  | tighter _ ih => exact ih
  | binary _ hsign _ ihleft ihright => simp [Node.walk, hsign, ihleft, ihright]

theorem Derives.not_isTarget {symbol : Nonterminal} {tokens : List Token} {node : Node}
    (h : Derives symbol tokens node) (token : Token) : ¬ IsTarget tokens token := by
  rintro ⟨_, sign, hmem, hsign, _⟩
  exact h.phrase.assign_notMem (List.mem_map.mpr ⟨sign, hmem, hsign⟩)

theorem isTarget_assignment {name sign : Token} {tokens : List Token} (hname : name.kind = .identifier)
    (hsign : sign.kind = .assign) (hline : sign.line = name.line)
    (hno : ∀ other ∈ tokens, other.kind ≠ .assign) (token : Token) :
    IsTarget (name :: sign :: tokens) token ↔ token = name := by
  constructor
  · rintro ⟨hkind, other, hmem, hother, _, hpair⟩
    rcases List.infix_cons_iff.mp hpair with hhead | hpair
    · exact (List.cons_prefix_cons.mp hhead).1
    · rcases List.infix_cons_iff.mp hpair with hhead | hpair
      · obtain rfl := (List.cons_prefix_cons.mp hhead).1
        simp [hkind] at hsign
      · exact absurd hother (hno other (hpair.subset (by simp)))
  · rintro rfl
    exact ⟨hname, sign, by simp, hsign, hline, (List.prefix_append [token, sign] tokens).isInfix⟩

theorem Sentence.walk_eq {tokens : List Token} {node : Node} (h : Sentence tokens node)
    (hnodup : tokens.Nodup) (hline : ∀ a ∈ tokens, ∀ b ∈ tokens, a.line = b.line) :
    node.walk = (tokens.filter fun token => IsUse tokens token).map Token.read ++
      (tokens.filter fun token => IsTarget tokens token).map Token.store := by
  cases h with
  | expression h => simp [h.walk_eq, IsUse, h.not_isTarget]
  | @assignment name sign tokens value hname hsign h =>
    have hassign : ∀ other ∈ tokens, other.kind ≠ .assign := by
      intro other hother hkind
      exact h.phrase.assign_notMem (List.mem_map.mpr ⟨other, hother, hkind⟩)
    have htarget := isTarget_assignment hname hsign (hline sign (by simp) name (by simp)) hassign
    have hfresh : ∀ other ∈ tokens, other ≠ name := by
      rintro other hother rfl
      simp [hother] at hnodup
    have hdistinct : sign ≠ name := by
      rintro rfl
      simp [hname] at hsign
    have huses : (tokens.filter fun token =>
        decide (token.kind = .identifier) && !decide (token = name)) =
        tokens.filter fun token => decide (token.kind = .identifier) := by
      apply List.filter_congr
      intro other hother
      simp [hfresh other hother]
    have hstores : (tokens.filter fun token => decide (token = name)) = [] := by
      simpa using hfresh
    simp [Node.walk, h.walk_eq, IsUse, htarget, hname, hsign, hdistinct, huses, hstores, Token.store]

/-- The walk of a program fails at the first name that is undefined, and nowhere else. -/
theorem StatementLines.failure?_eq_find? {lines : List Line} {statements : List Node}
    (h : StatementLines lines statements) (hnodup : (lines.flatMap Line.tokens).Nodup)
    (defined : String → Bool) :
    failure? defined (statements.flatMap Node.walk) =
      ((lines.flatMap Line.tokens).find? fun token =>
        IsUndefined defined (lines.flatMap Line.tokens) token).map Token.undefined := by
  induction lines generalizing statements defined with
  | nil =>
    obtain rfl : statements = [] := by simpa using h.statements_eq.symm
    rfl
  | cons line lines ih =>
    obtain ⟨node, rest, rfl, hnode, hrest⟩ := h.exists_cons
    rw [List.flatMap_cons] at hnodup
    obtain ⟨hfront, hback, _⟩ := List.nodup_append.mp hnodup
    have hsame : ∀ a ∈ line.tokens, ∀ b ∈ line.tokens, a.line = b.line := by
      intro a ha b hb
      rw [h.same_line line List.mem_cons_self a ha, h.same_line line List.mem_cons_self b hb]
    have hbelow : ∀ a ∈ line.tokens, ∀ b ∈ lines.flatMap Line.tokens, a.line < b.line := by
      intro a ha b hb
      obtain ⟨other, hother, hb⟩ := List.mem_flatMap.mp hb
      rw [h.same_line line List.mem_cons_self a ha,
        h.same_line other (List.mem_cons_of_mem _ hother) b hb]
      exact (List.pairwise_cons.mp h.ascending).1 other hother
    -- What the first line assigns is defined for the lines below, and for none of its own tokens.
    rw [List.flatMap_cons, List.flatMap_cons, hnode.walk_eq hfront hsame, List.append_assoc,
      failure?_reads, failure?_stores, ih hrest hback, List.find?_append, Option.map_or,
      List.find?_filter]
    congr 2
    · apply List.find?_congr
      intro token htoken
      simp [isUndefined_append_left hbelow hsame defined htoken]
    · apply List.find?_congr
      intro token htoken
      exact decide_eq_decide.mpr (isUndefined_append_right hbelow defined htoken).symm

theorem nodup_of_scan {source : String} {tokens : List Token} (hscan : scan source = .ok tokens) :
    tokens.Nodup :=
  (pairwise_before_of_scan hscan).imp fun h heq => h.ne (congrArg Token.location heq)

theorem Program.evaluate_eq_error_iff {source : String} {tokens : List Token} {program : Program}
    (hscan : scan source = .ok tokens) (hparse : parse tokens = .ok program) (table : SymbolTable)
    (e : EvalError) :
    (program.evaluate table).result = .error e ↔
      ∃ first, (tokens.find? fun token => IsUndefined table.defines tokens token) = some first ∧
        first.undefined = e := by
  obtain ⟨statements, hstatements, rfl⟩ := (parse_eq_ok_iff tokens program).mp hparse
  have hlines := StatementLines.of_scan hscan hstatements
  have htokens := Line.flatMap_tokens_ofTokens tokens
  have hnodup : ((Line.ofTokens tokens).flatMap Line.tokens).Nodup := by
    rw [htokens]
    exact nodup_of_scan hscan
  have hfind := hlines.failure?_eq_find? hnodup table.defines
  rw [htokens] at hfind
  rw [Program.evaluate, Node.evaluateAll_eq_error_iff, ofStatements, hfind, Option.map_eq_some_iff]

/-- A program fails exactly if a name is read in its text that is neither in the table nor assigned
on an earlier line; it fails for the first such name, and reports where it stands. -/
theorem Program.evaluate_undefined_iff {source : String} {tokens : List Token} {program : Program}
    (hscan : scan source = .ok tokens) (hparse : parse tokens = .ok program) (table : SymbolTable) :
    ((∃ name location, (program.evaluate table).result = .error (.undefined name location)) ↔
      ∃ token ∈ tokens, IsUndefined table.defines tokens token) ∧
    ∀ e, (program.evaluate table).result = .error e →
      ∃ first ∈ tokens, e = .undefined first.lexeme first.location ∧
        IsUndefined table.defines tokens first ∧
        ∀ other ∈ tokens, IsUndefined table.defines tokens other → other = first ∨
          first.location.Before other.location := by
  have hfailure := evaluate_eq_error_iff hscan hparse table
  constructor
  · constructor
    · rintro ⟨name, location, herror⟩
      obtain ⟨first, hfirst, _⟩ := (hfailure _).mp herror
      exact ⟨first, List.mem_of_find?_eq_some hfirst, by simpa using List.find?_some hfirst⟩
    · rintro ⟨token, htoken, hundefined⟩
      have hsome : (tokens.find? fun token => IsUndefined table.defines tokens token).isSome :=
        List.find?_isSome.mpr ⟨token, htoken, decide_eq_true hundefined⟩
      obtain ⟨first, hfirst⟩ := Option.isSome_iff_exists.mp hsome
      exact ⟨first.lexeme, first.location, (hfailure _).mpr ⟨first, hfirst, rfl⟩⟩
  · intro e herror
    obtain ⟨first, hfirst, rfl⟩ := (hfailure e).mp herror
    obtain ⟨hundefined, front, back, rfl, hfront⟩ := List.find?_eq_some_iff_append.mp hfirst
    refine ⟨first, List.mem_of_find?_eq_some hfirst, rfl, of_decide_eq_true hundefined, ?_⟩
    intro other hother hundefined
    rcases List.mem_append.mp hother with hearlier | hlater
    · simpa [hundefined] using hfront other hearlier
    · apply (List.mem_cons.mp hlater).imp_right
      have hbefore := (List.pairwise_append.mp (pairwise_before_of_scan hscan)).2.1
      exact (List.pairwise_cons.mp hbefore).1 other

/-- In `x = 1` above `y = x + y * z` the names `y` and `z` are undefined on the right side, and `y`
comes first. -/
theorem Program.evaluate_undefined_of_text :
    let y : Token := ⟨.identifier, "y", ⟨1, 8⟩⟩
    let z : Token := ⟨.identifier, "z", ⟨1, 12⟩⟩
    ∃ tokens program, scan "x = 1\ny = x + y * z" = .ok tokens ∧ parse tokens = .ok program ∧
      (∀ token ∈ tokens, IsUndefined (fun _ => false) tokens token ↔ token = y ∨ token = z) ∧
      (program.evaluate .empty).result = .error (.undefined "y" ⟨1, 8⟩) := by
  intro y z
  obtain ⟨tokens, hscan, hundefined, hy, program, hparse⟩ :
      ∃ tokens, scan "x = 1\ny = x + y * z" = .ok tokens ∧
        (∀ token ∈ tokens, IsUndefined (fun _ => false) tokens token ↔ token = y ∨ token = z) ∧
        y ∈ tokens ∧ ∃ program, parse tokens = .ok program :=
    ⟨[⟨.identifier, "x", ⟨0, 0⟩⟩, ⟨.assign, "=", ⟨0, 2⟩⟩, ⟨.number, "1", ⟨0, 4⟩⟩,
      ⟨.identifier, "y", ⟨1, 0⟩⟩, ⟨.assign, "=", ⟨1, 2⟩⟩, ⟨.identifier, "x", ⟨1, 4⟩⟩,
      ⟨.operator .add, "+", ⟨1, 6⟩⟩, y, ⟨.operator .mul, "*", ⟨1, 10⟩⟩, z],
      by decide +kernel, by decide, by decide, _, rfl⟩
  refine ⟨tokens, program, hscan, hparse, hundefined, ?_⟩
  obtain ⟨hiff, hfirst⟩ := Program.evaluate_undefined_iff hscan hparse .empty
  obtain ⟨name, location, herror⟩ := hiff.mpr ⟨y, hy, (hundefined y hy).mpr (Or.inl rfl)⟩
  obtain ⟨first, hmem, he, hisUndefined, hbefore⟩ := hfirst _ herror
  rw [herror, he]
  rcases (hundefined first hmem).mp hisUndefined with rfl | rfl
  · rfl
  · rcases hbefore y hy ((hundefined y hy).mpr (Or.inl rfl)) with heq | hlt
    · simp [y, z] at heq
    · simp [Location.Before, y, z] at hlt

end Calculator
