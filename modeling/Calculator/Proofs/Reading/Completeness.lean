import Calculator.Proofs.Grammar.Basic

/-! # Everything the grammar derives is read

The stacks apply an operator only when a looser one follows, so what a derivation leaves behind is
not its tree alone. `Holds` says that the stacks are as good as that tree: applying the operators
that bind at least as tight as the symbol gives the same as if only the tree had been pushed.
-/
namespace Calculator.Stacks

/-- The least level that an operand on top of the pending operators has to have. -/
def bound : List Pending → Nat
  | .operator op _ :: _ => op.precedence + 1
  | _ => 0

@[simp] theorem bound_nil : bound [] = 0 := rfl

@[simp] theorem bound_openGroup (state : Stacks) : bound state.openGroup.pending = 0 := rfl

theorem bound_le (pending : List Pending) : bound pending ≤ 3 := by
  match pending with
  | [] | .paren :: _ => exact Nat.zero_le _
  | .operator op _ :: _ => exact Nat.succ_le_succ op.precedence_le

theorem fold_of_bound_le {least : Nat} {pending : List Pending} (h : bound pending ≤ least)
    (operands : List Node) : fold least operands pending = .ok (operands, pending) := by
  match pending with
  | [] => simp [fold]
  | .paren :: rest => simp [fold]
  | .operator op location :: rest =>
    have hlt : op.precedence < least := h
    simp [fold, hlt]

theorem fold_operator {least : Nat} {op : Operator} (h : least ≤ op.precedence) (l r : Node)
    (operands : List Node) (location : Location) (pending : List Pending) :
    fold least (r :: l :: operands) (.operator op location :: pending) =
      fold least (.binary op l r location :: operands) pending := by
  have hge : ¬ op.precedence < least := by omega
  rw [fold.eq_def]
  simp only [hge, if_false]

/-- The state after reading what a symbol derives: as good as the tree on top of the former state,
as far as operators of the symbol's level are concerned. -/
structure Holds (symbol : Nonterminal) (node : Node) (before after : Stacks) : Prop where
  expectsOperand : after.expectsOperand = false
  enclosing : after.enclosing = before.enclosing
  compared : 0 < symbol.level → after.compared = before.compared
  fold_eq : ∀ least ≤ symbol.level,
    fold least after.operands after.pending = fold least (node :: before.operands) before.pending

theorem holds_push (symbol : Nonterminal) (node : Node) (state : Stacks) :
    Holds symbol node state (state.push node) where
  expectsOperand := rfl
  enclosing := rfl
  compared := fun _ => rfl
  fold_eq := fun _ _ => rfl

theorem Holds.loosen {symbol looser : Nonterminal} {node : Node} {before after : Stacks}
    (h : Holds symbol node before after) (hle : looser.level ≤ symbol.level) :
    Holds looser node before after where
  expectsOperand := h.expectsOperand
  enclosing := h.enclosing
  compared := fun hpos => h.compared (by omega)
  fold_eq := fun least hleast => h.fold_eq least (by omega)

theorem readAll_singleton {state next : Stacks} {token : Token} (h : state.read token = .ok next) :
    state.readAll [token] = .ok next := by
  simp [readAll, h]

theorem readAll_append_of_eq {state middle : Stacks} {left : List Token}
    (h : state.readAll left = .ok middle) (right : List Token) :
    state.readAll (left ++ right) = middle.readAll right := by
  simp [readAll_append, h]

theorem readAll_cons_of_eq {state middle : Stacks} {token : Token}
    (h : state.read token = .ok middle) (rest : List Token) :
    state.readAll (token :: rest) = middle.readAll rest := by
  simp [readAll, h]

theorem read_number {state : Stacks} (hexpects : state.expectsOperand = true) {token : Token}
    (hkind : token.kind = .number) {value : Float} (hvalue : Literal.value? token.lexeme = some value) :
    state.read token = .ok (state.push (.number value token.location)) := by
  simp [read, readOperand, hexpects, hkind, hvalue]

theorem read_identifier {state : Stacks} (hexpects : state.expectsOperand = true) {token : Token}
    (hkind : token.kind = .identifier) :
    state.read token = .ok (state.push (.identifier token.lexeme token.location)) := by
  simp [read, readOperand, hexpects, hkind]

theorem read_leftParen {state : Stacks} (hexpects : state.expectsOperand = true) {token : Token}
    (hkind : token.kind = .leftParen) : state.read token = .ok state.openGroup := by
  simp [read, readOperand, hexpects, hkind]

def awaitRight (state : Stacks) (l : Node) (op : Operator) (location : Location) : Stacks :=
  ⟨l :: state.operands, .operator op location :: state.pending,
    state.compared || !op.isChainable, state.enclosing, true⟩

@[simp] theorem bound_awaitRight (state : Stacks) (l : Node) (op : Operator) (location : Location) :
    bound (state.awaitRight l op location).pending = op.precedence + 1 := rfl

theorem read_rightParen_of_fold {state outside : Stacks} {node : Node} {token : Token}
    (hexpects : state.expectsOperand = false) (hkind : token.kind = .rightParen)
    (henclosing : state.enclosing = outside.compared :: outside.enclosing)
    (hfold : fold 0 state.operands state.pending =
      .ok (node :: outside.operands, .paren :: outside.pending)) :
    state.read token = .ok (outside.push node) := by
  have hread : state.read token =
      (state.closeGroup outside.compared outside.enclosing).mapError .defect := by
    simp [read, readOperator, hexpects, hkind, henclosing]
  have hclose : state.closeGroup outside.compared outside.enclosing = .ok (outside.push node) := by
    simp [closeGroup, hfold, push]
  rw [hread, hclose]
  rfl

theorem allowed_eq_true {op : Operator} {compared : Bool}
    (h : op.precedence = 0 → compared = false) : (op.isChainable || !compared) = true := by
  rcases Nat.eq_zero_or_pos op.precedence with hzero | hpos
  · simp [h hzero]
  · simp [op.isChainable_iff.mpr hpos]

theorem read_operator_of_fold {state rest : Stacks} {l : Node} {op : Operator} {token : Token}
    (hexpects : state.expectsOperand = false) (hkind : token.kind = .operator op)
    (hallowed : op.precedence = 0 → state.compared = false)
    (hfold : fold op.precedence state.operands state.pending =
      .ok (l :: rest.operands, rest.pending))
    (hcompared : rest.compared = state.compared) (henclosing : rest.enclosing = state.enclosing) :
    state.read token = .ok (rest.awaitRight l op token.location) := by
  have hread : state.read token = (state.takeOperator op token.location).mapError .defect := by
    simp [read, readOperator, hexpects, hkind, allowed_eq_true hallowed]
  have htake : state.takeOperator op token.location = .ok (rest.awaitRight l op token.location) := by
    simp [takeOperator, hfold, awaitRight, hcompared, henclosing]
  rw [hread, htake]
  rfl

theorem Holds.read_rightParen {before inside : Stacks} {node : Node} {token : Token}
    (h : Holds .rightExpr node before.openGroup inside) (hkind : token.kind = .rightParen) :
    inside.read token = .ok (before.push node) := by
  have hfold : fold 0 inside.operands inside.pending =
      .ok (node :: before.operands, .paren :: before.pending) := by
    rw [h.fold_eq 0 (Nat.zero_le _)]
    exact fold_of_bound_le (by simp) _
  exact read_rightParen_of_fold h.expectsOperand hkind h.enclosing hfold

theorem Holds.read_operator {before middle : Stacks} {l : Node} {op : Operator} {token : Token}
    (h : Holds op.leftSide l before middle) (hbound : bound before.pending ≤ op.precedence)
    (hallowed : op.precedence = 0 → before.compared = false) (hkind : token.kind = .operator op) :
    middle.read token = .ok (before.awaitRight l op token.location) := by
  have hcompared : middle.compared = before.compared := h.compared op.level_leftSide_pos
  have hfold : fold op.precedence middle.operands middle.pending =
      .ok (l :: before.operands, before.pending) := by
    rw [h.fold_eq _ op.precedence_le_level_leftSide]
    exact fold_of_bound_le hbound _
  rw [← hcompared] at hallowed
  exact read_operator_of_fold h.expectsOperand hkind hallowed hfold hcompared.symm h.enclosing.symm

theorem Holds.binary {before after : Stacks} {l r : Node} {op : Operator} {location : Location}
    (h : Holds op.rightSide r (before.awaitRight l op location) after) :
    Holds op.result (.binary op l r location) before after where
  expectsOperand := h.expectsOperand
  enclosing := h.enclosing
  compared := by
    intro hpos
    rw [op.level_result, ← op.isChainable_iff] at hpos
    rw [h.compared (by simp)]
    simp [awaitRight, hpos]
  fold_eq := by
    intro least hleast
    rw [op.level_result] at hleast
    rw [h.fold_eq least (by simp; omega)]
    exact fold_operator hleast l r _ _ _

/-- What a symbol derives is read in every state that waits for an operand, if the pending operator
binds looser and, for an expression with a comparison, the group has none yet. -/
theorem exists_readAll_of_derives {symbol : Nonterminal} {tokens : List Token} {node : Node}
    (h : Derives symbol tokens node) (state : Stacks) (hexpects : state.expectsOperand = true)
    (hbound : bound state.pending ≤ symbol.level)
    (hallowed : symbol.level = 0 → state.compared = false) :
    ∃ next, state.readAll tokens = .ok next ∧ Holds symbol node state next := by
  induction h generalizing state with
  | number hkind hvalue =>
    exact ⟨_, readAll_singleton (read_number hexpects hkind hvalue), holds_push _ _ _⟩
  | identifier hkind =>
    exact ⟨_, readAll_singleton (read_identifier hexpects hkind), holds_push _ _ _⟩
  | group hopening _ hclosing ih =>
    obtain ⟨inside, hinside, hholds⟩ := ih state.openGroup hexpects (by simp)
      (fun _ => rfl)
    refine ⟨_, ?_, holds_push _ _ state⟩
    rw [readAll_cons_of_eq (read_leftParen hexpects hopening), readAll_append_of_eq hinside]
    exact readAll_singleton (hholds.read_rightParen hclosing)
  | @tighter symbol _ _ _ ih =>
    have hle := symbol.level_le_tighter
    obtain ⟨next, hnext, hholds⟩ := ih state hexpects (by omega) (fun hzero => hallowed (by omega))
    exact ⟨next, hnext, hholds.loosen hle⟩
  | @binary op sign left right l r _ hsign _ ihleft ihright =>
    rw [op.level_result] at hbound hallowed
    have hleft := op.precedence_le_level_leftSide
    obtain ⟨middle, hmiddle, hl⟩ := ihleft state hexpects (by omega)
      (fun hzero => absurd hzero (Nat.ne_of_gt op.level_leftSide_pos))
    obtain ⟨next, hnext, hr⟩ := ihright (state.awaitRight l op sign.location) rfl
      (by simp) (by simp)
    refine ⟨next, ?_, hr.binary⟩
    rw [readAll_append_of_eq hmiddle, readAll_cons_of_eq (hl.read_operator hbound hallowed hsign)]
    exact hnext

theorem expression_of_derives {tokens : List Token} {node : Node}
    (h : Derives .rightExpr tokens node) (lineEnd : Location) :
    expression tokens lineEnd = .ok node := by
  obtain ⟨state, hstate, hholds⟩ := exists_readAll_of_derives h start rfl (by simp [start])
    (fun _ => rfl)
  have hfold : fold 0 state.operands state.pending = .ok ([node], []) := by
    rw [hholds.fold_eq 0 (Nat.zero_le _)]
    exact fold_of_bound_le (by simp [start]) _
  have henclosing : state.enclosing = [] := hholds.enclosing
  simp [expression, hstate, finish, hholds.expectsOperand, henclosing, hfold]

end Calculator.Stacks
