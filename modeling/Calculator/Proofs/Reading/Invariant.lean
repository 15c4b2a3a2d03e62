import Calculator.Proofs.Reading.Completeness

/-! # What the stacks hold is derived from what was read

`Awaiting` describes the states that wait for an operand: each pending operator has the tree of its
left operand below it, and within a group the operators bind tighter from the bottom to the top.
`Reached` adds the states in which one more operand is complete. Reading a token leads from one such
state to another, and a state in which the line may end holds the tree of a whole expression.
-/
namespace Calculator.Stacks

/-- The states that wait for an operand, with the tokens read. -/
inductive Awaiting : List Token → Stacks → Prop where
  | start : Awaiting [] start
  | openGroup {tokens : List Token} {state : Stacks} {opening : Token} : Awaiting tokens state →
      opening.kind = .leftParen → Awaiting (tokens ++ [opening]) state.openGroup
  | operator {tokens left : List Token} {state : Stacks} {l : Node} {op : Operator} {sign : Token} :
      Awaiting tokens state → Derives op.leftSide left l → sign.kind = .operator op →
      bound state.pending ≤ op.precedence →
      Awaiting (tokens ++ left ++ [sign]) (state.awaitRight l op sign.location)

/-- The states that are reached without a refusal, with the tokens read. -/
inductive Reached : List Token → Stacks → Prop where
  | awaiting {tokens : List Token} {state : Stacks} : Awaiting tokens state → Reached tokens state
  | complete {tokens operand : List Token} {state : Stacks} {node : Node} : Awaiting tokens state →
      Derives .factor operand node → Reached (tokens ++ operand) (state.push node)

variable {tokens operand : List Token} {state : Stacks} {node : Node}

theorem Awaiting.expectsOperand (h : Awaiting tokens state) : state.expectsOperand = true := by
  induction h with
  | start | operator => rfl
  | openGroup _ _ ih => exact ih

theorem Awaiting.eq_start (h : Awaiting tokens state) (hbound : bound state.pending = 0)
    (henclosing : state.enclosing = []) : tokens = [] ∧ state = Stacks.start := by
  cases h with
  | start => exact ⟨rfl, rfl⟩
  | openGroup => simp [Stacks.openGroup] at henclosing
  | operator => simp at hbound

theorem Awaiting.exists_openGroup (h : Awaiting tokens state) (hbound : bound state.pending = 0)
    (henclosing : state.enclosing ≠ []) :
    ∃ outer outside opening, Awaiting outer outside ∧ opening.kind = .leftParen ∧
      tokens = outer ++ [opening] ∧ state = outside.openGroup := by
  cases h with
  | start => exact absurd rfl henclosing
  | @openGroup outer outside opening h hkind => exact ⟨outer, outside, opening, h, hkind, rfl, rfl⟩
  | operator => simp at hbound

/-- What applying pending operators leads to: fewer tokens below, more in the operand on top. -/
structure Folded (least : Nat) (tokens operand : List Token) (node : Node) (state : Stacks)
    (below top : List Token) (tree : Node) (rest : Stacks) : Prop where
  fold_eq : fold least (node :: state.operands) state.pending =
    .ok (tree :: rest.operands, rest.pending)
  awaiting : Awaiting below rest
  tokens_eq : tokens ++ operand = below ++ top
  bound_le : bound rest.pending ≤ least
  derives : ∀ symbol : Nonterminal, symbol.level ≤ least → Derives symbol top tree
  enclosing : rest.enclosing = state.enclosing
  compared : 0 < least → rest.compared = state.compared

/-- Applying the pending operators that bind at least as tight as asked for, with an operand on top
that is tight enough for the uppermost of them. -/
theorem Awaiting.exists_folded (h : Awaiting tokens state) {symbol : Nonterminal}
    (hnode : Derives symbol operand node) (hbound : bound state.pending ≤ symbol.level) {least : Nat}
    (hleast : least ≤ symbol.level) :
    ∃ below top tree rest, Folded least tokens operand node state below top tree rest := by
  -- When the bound on top is already small enough, the state stays as it is.
  have stays {tokens : List Token} {state : Stacks} {symbol : Nonterminal} {operand : List Token}
      {node : Node} (h : Awaiting tokens state) (hnode : Derives symbol operand node)
      (hleast : least ≤ symbol.level) (hle : bound state.pending ≤ least) :
      Folded least tokens operand node state tokens operand node state :=
    ⟨fold_of_bound_le hle _, h, rfl, hle, fun other hother => hnode.loosen other (by omega), rfl,
      fun _ => rfl⟩
  induction h generalizing symbol operand node with
  | start => exact ⟨_, _, _, _, stays .start hnode hleast (Nat.zero_le _)⟩
  | openGroup h hkind =>
    exact ⟨_, _, _, _, stays (.openGroup h hkind) hnode hleast (Nat.zero_le _)⟩
  | @operator tokens left state l op sign h hl hsign hop ih =>
    by_cases hlt : op.precedence < least
    · exact ⟨_, _, _, _, stays (.operator h hl hsign hop) hnode hleast hlt⟩
    · have hprec : least ≤ op.precedence := by omega
      have hr : Derives op.rightSide operand node := hnode.loosen _ (by simpa using hbound)
      obtain ⟨below, top, tree, rest, hfolded⟩ := ih (.binary hl hsign hr) (by simpa using hop)
        (by simpa using hprec)
      refine ⟨below, top, tree, rest, ?_, hfolded.awaiting, ?_, hfolded.bound_le, hfolded.derives,
        hfolded.enclosing, ?_⟩
      · rw [← hfolded.fold_eq]
        exact fold_operator hprec l node _ _ _
      · simpa using hfolded.tokens_eq
      · intro hpos
        have hchain : op.isChainable = true := op.isChainable_iff.mpr (by omega)
        simpa [awaitRight, hchain] using hfolded.compared hpos

/-- Where a group has no comparison, all its operators are arithmetic. -/
theorem Awaiting.bound_eq_zero (h : Awaiting tokens state) (hcompared : state.compared = false)
    (hbound : bound state.pending ≤ 1) : bound state.pending = 0 := by
  cases h with
  | start | openGroup => rfl
  | @operator _ _ _ _ op _ _ _ _ _ =>
    simp only [awaitRight, Bool.or_eq_false_iff, Bool.not_eq_false'] at hcompared
    have hpos := op.isChainable_iff.mp hcompared.2
    simp only [bound_awaitRight] at hbound
    omega

theorem Awaiting.fold_zero (h : Awaiting tokens state) (hcompared : state.compared = false)
    (node : Node) :
    fold 0 (node :: state.operands) state.pending = fold 1 (node :: state.operands) state.pending := by
  induction h generalizing node with
  | start => rfl
  | openGroup => rfl
  | @operator tokens left state l op sign _ _ _ _ ih =>
    simp only [awaitRight, Bool.or_eq_false_iff, Bool.not_eq_false'] at hcompared ⊢
    have hpos := op.isChainable_iff.mp hcompared.2
    rw [fold_operator (Nat.zero_le _), fold_operator hpos]
    exact ih hcompared.1 _

/-- Before an operator that is allowed, everything is applied that belongs to its left operand. -/
theorem Awaiting.exists_leftSide (h : Awaiting tokens state) (hnode : Derives .factor operand node)
    {op : Operator} (hallowed : op.precedence = 0 → state.compared = false) :
    ∃ below top l rest, fold op.precedence (node :: state.operands) state.pending =
        .ok (l :: rest.operands, rest.pending) ∧ Awaiting below rest ∧
      tokens ++ operand = below ++ top ∧ bound rest.pending ≤ op.precedence ∧
      Derives op.leftSide top l ∧ rest.enclosing = state.enclosing ∧
      rest.compared = state.compared := by
  -- A comparison has only arithmetic before it in its group, which is applied down to the bottom.
  have hleast : max 1 op.precedence ≤ Nonterminal.factor.level := by cases op <;> decide
  obtain ⟨below, top, l, rest, hfolded⟩ := h.exists_folded hnode (bound_le _) hleast
  have hcompared : rest.compared = state.compared := hfolded.compared (by omega)
  have hl : Derives op.leftSide top l := hfolded.derives _ op.level_leftSide_le
  have hle := hfolded.bound_le
  refine ⟨below, top, l, rest, ?_, hfolded.awaiting, hfolded.tokens_eq, ?_, hl, hfolded.enclosing,
    hcompared⟩
  · rw [← hfolded.fold_eq]
    rcases Nat.eq_zero_or_pos op.precedence with hzero | hpos
    · rw [hzero]
      exact h.fold_zero (hallowed hzero) node
    · rw [Nat.max_eq_right hpos]
  · rcases Nat.eq_zero_or_pos op.precedence with hzero | hpos
    · rw [hzero, Nat.le_zero]
      exact hfolded.awaiting.bound_eq_zero (hcompared.trans (hallowed hzero)) (by omega)
    · rwa [Nat.max_eq_right hpos] at hle

theorem Awaiting.read_operator (h : Awaiting tokens state) (hnode : Derives .factor operand node)
    {token : Token} {op : Operator} (hkind : token.kind = .operator op)
    (hallowed : op.precedence = 0 → state.compared = false) :
    ∃ next, (state.push node).read token = .ok next ∧
      Awaiting (tokens ++ operand ++ [token]) next := by
  obtain ⟨below, top, l, rest, hfold, hrest, htokens, hbound, hl, henclosing, hcompared⟩ :=
    h.exists_leftSide hnode hallowed
  refine ⟨rest.awaitRight l op token.location, ?_, ?_⟩
  · exact read_operator_of_fold rfl hkind hallowed hfold hcompared henclosing
  · rw [htokens]
    exact .operator hrest hl hkind hbound

theorem Awaiting.exists_rightExpr (h : Awaiting tokens state) (hnode : Derives .factor operand node) :
    ∃ below top tree rest, Folded 0 tokens operand node state below top tree rest ∧
      Derives .rightExpr top tree ∧ bound rest.pending = 0 := by
  obtain ⟨below, top, tree, rest, hfolded⟩ := h.exists_folded hnode (bound_le _) (Nat.zero_le _)
  exact ⟨below, top, tree, rest, hfolded, hfolded.derives _ (Nat.le_refl 0),
    Nat.le_zero.mp hfolded.bound_le⟩

theorem Awaiting.read_rightParen (h : Awaiting tokens state) (hnode : Derives .factor operand node)
    {token : Token} (hkind : token.kind = .rightParen) (henclosing : state.enclosing ≠ []) :
    ∃ next, (state.push node).read token = .ok next ∧
      Reached (tokens ++ operand ++ [token]) next := by
  obtain ⟨below, top, tree, rest, hfolded, htree, hbound⟩ := h.exists_rightExpr hnode
  have hrest : rest.enclosing ≠ [] := by rwa [hfolded.enclosing]
  obtain ⟨outer, outside, opening, houtside, hopening, hbelow, rfl⟩ :=
    hfolded.awaiting.exists_openGroup hbound hrest
  have hstack : state.enclosing = outside.compared :: outside.enclosing := hfolded.enclosing.symm
  refine ⟨outside.push tree, ?_, ?_⟩
  · exact read_rightParen_of_fold rfl hkind hstack hfolded.fold_eq
  · have htokens : tokens ++ operand ++ [token] = outer ++ (opening :: (top ++ [token])) := by
      rw [hfolded.tokens_eq, hbelow]
      simp
    rw [htokens]
    exact .complete houtside (.group hopening htree hkind)

theorem Awaiting.complete_of_enclosing_eq_nil (h : Awaiting tokens state)
    (hnode : Derives .factor operand node) (henclosing : state.enclosing = []) :
    ∃ tree, Derives .rightExpr (tokens ++ operand) tree ∧
      fold 0 (node :: state.operands) state.pending = .ok ([tree], []) := by
  obtain ⟨below, top, tree, rest, hfolded, htree, hbound⟩ := h.exists_rightExpr hnode
  have hrest : rest.enclosing = [] := hfolded.enclosing.trans henclosing
  obtain ⟨rfl, rfl⟩ := hfolded.awaiting.eq_start hbound hrest
  refine ⟨tree, ?_, hfolded.fold_eq⟩
  rw [hfolded.tokens_eq]
  exact htree

inductive Outcome (tokens : List Token) (state : Stacks) (token : Token) : Prop where
  | taken {next : Stacks} : state.read token = .ok next → Reached (tokens ++ [token]) next →
      Outcome tokens state token
  | noOperand : state.expectsOperand = true →
      state.read token = .error (.refused (.unexpectedToken token.lexeme token.location)) →
      Outcome tokens state token
  | noOperator : state.expectsOperand = false →
      state.read token = .error (.refused (state.refusal token)) → Outcome tokens state token

theorem Awaiting.outcome (h : Awaiting tokens state) {token : Token} (hreadable : token.Readable) :
    Outcome tokens state token := by
  have hexpects := h.expectsOperand
  cases hkind : token.kind with
  | number =>
    obtain ⟨value, hvalue⟩ := hreadable.exists_value hkind
    exact .taken (read_number hexpects hkind hvalue) (.complete h (.number hkind hvalue))
  | identifier => exact .taken (read_identifier hexpects hkind) (.complete h (.identifier hkind))
  | leftParen => exact .taken (read_leftParen hexpects hkind) (.awaiting (.openGroup h hkind))
  | operator op => exact .noOperand hexpects (by simp [read, readOperand, hexpects, hkind])
  | assign | rightParen =>
    exact .noOperand hexpects (by simp [read, readOperand, hexpects, hkind])

theorem Awaiting.outcome_push (h : Awaiting tokens state) (hnode : Derives .factor operand node)
    (token : Token) : Outcome (tokens ++ operand) (state.push node) token := by
  cases hkind : token.kind with
  | operator op =>
    by_cases hallowed : op.precedence = 0 → state.compared = false
    · obtain ⟨next, hnext, hawaiting⟩ := h.read_operator hnode hkind hallowed
      exact .taken hnext (.awaiting hawaiting)
    · have hrefused : (op.isChainable || !state.compared) = false := by
        simp only [Classical.not_imp, Bool.not_eq_false] at hallowed
        simp [Operator.isChainable, hallowed]
      exact .noOperator rfl (by simp [read, readOperator, push, hkind, hrefused])
  | rightParen =>
    by_cases henclosing : state.enclosing = []
    · exact .noOperator rfl (by simp [read, readOperator, push, hkind, henclosing])
    · obtain ⟨next, hnext, hreached⟩ := h.read_rightParen hnode hkind henclosing
      exact .taken hnext hreached
  | number | identifier | assign | leftParen =>
    exact .noOperator rfl (by simp [read, readOperator, push, hkind])

theorem Reached.outcome (h : Reached tokens state) {token : Token} (hreadable : token.Readable) :
    Outcome tokens state token := by
  cases h with
  | awaiting h => exact h.outcome hreadable
  | complete h hnode => exact h.outcome_push hnode token

/-- Whatever is read without a refusal is derived from the tokens read. -/
theorem Reached.readAll (h : Reached tokens state) {more : List Token}
    (hreadable : ∀ token ∈ more, token.Readable) {next : Stacks}
    (hnext : state.readAll more = .ok next) : Reached (tokens ++ more) next := by
  induction more generalizing tokens state with
  | nil =>
    obtain rfl : state = next := by simpa [Stacks.readAll] using hnext
    simpa using h
  | cons token rest ih =>
    have hrest : ∀ other ∈ rest, other.Readable := by
      intro other hother
      exact hreadable other (List.mem_cons_of_mem _ hother)
    cases h.outcome (hreadable token List.mem_cons_self) with
    | taken hread hreached =>
      rw [readAll_cons_of_eq hread] at hnext
      simpa using ih hreached hrest hnext
    | noOperand _ hread | noOperator _ hread => simp [Stacks.readAll, hread] at hnext

theorem Reached.derives_of_finish (h : Reached tokens state) {lineEnd : Location}
    (hfinish : state.finish lineEnd = .ok node) : Derives .rightExpr tokens node := by
  cases h with
  | awaiting h => simp [finish, h.expectsOperand] at hfinish
  | @complete tokens operand state leaf h hleaf =>
    by_cases henclosing : state.enclosing = []
    · obtain ⟨tree, htree, hfold⟩ := h.complete_of_enclosing_eq_nil hleaf henclosing
      obtain rfl : tree = node := by simpa [finish, push, henclosing, hfold] using hfinish
      exact htree
    · simp [finish, push, henclosing] at hfinish

end Calculator.Stacks
