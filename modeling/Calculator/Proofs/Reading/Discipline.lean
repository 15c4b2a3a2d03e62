import Mathlib.Data.List.Forall2
import Calculator.Proofs.Reading.Viable

/-! # The discipline of the stacks

Whatever tokens have been read, the stacks hold them in their order: the operands with the operators
between them are the tokens without the parentheses that are closed. There is an operand for every
operator, and one more where none is awaited; the operators of a group bind tighter from the bottom
to the top; and a group is marked just if one comparison stands directly in it. Applying operators
keeps the order and goes no further than the innermost open parenthesis.
-/
namespace Calculator

/-- What the stacks keep of a token. -/
inductive Mark where
  | number (value : Float) (location : Location)
  | identifier (name : String) (location : Location)
  | operator (op : Operator) (location : Location)
  | paren

namespace Token

def mark? (token : Token) : Option Mark :=
  match token.kind with
  | .number => (Literal.value? token.lexeme).map (.number · token.location)
  | .identifier => some (.identifier token.lexeme token.location)
  | .operator op => some (.operator op token.location)
  | .leftParen => some .paren
  | .assign | .rightParen => none

def isPart (token : Token) : Bool :=
  token.kind ≠ .leftParen && token.kind ≠ .rightParen

theorem isPart_of_operator {token : Token} {op : Operator} (h : token.kind = .operator op) :
    token.isPart = true := by
  simp [isPart, h]

def isComparison (token : Token) : Bool :=
  match token.kind with
  | .operator op => !op.isChainable
  | _ => false

end Token

def Node.marks : Node → List Mark
  | .number value location => [.number value location]
  | .identifier name location => [.identifier name location]
  | .binary op left right location => left.marks ++ .operator op location :: right.marks
  | .assignment .. | .root .. | .missing => []

/-- One token more among those that are not closed, the last of them first: a closing parenthesis
takes the last open one away. -/
def keepUnclosed (kept : List Token) (token : Token) : List Token :=
  if token.kind = .rightParen then kept.eraseP (·.kind = .leftParen) else token :: kept

def unclosed (tokens : List Token) : List Token :=
  (tokens.foldl keepUnclosed []).reverse

/-- One token more in the innermost open group. What a group held is forgotten when it is closed. -/
def enterGroup (groups : List (List Token)) (token : Token) : List (List Token) :=
  match token.kind, groups with
  | .leftParen, groups => [] :: groups
  | .rightParen, _ :: enclosing => enclosing
  | _, group :: enclosing => (token :: group) :: enclosing
  | _, [] => []

/-- The tokens that stand directly in each of the open groups, the innermost first. The outermost of
them stands in no parentheses. -/
def openGroups (tokens : List Token) : List (List Token) :=
  tokens.foldl enterGroup [[]]

namespace Pending

def isOperator : Pending → Bool
  | operator .. => true
  | paren => false

def groups : List Pending → List (List Operator)
  | [] => [[]]
  | .paren :: pending => [] :: groups pending
  | .operator op _ :: pending =>
    match groups pending with
    | operators :: enclosing => (op :: operators) :: enclosing
    | [] => [[op]]

end Pending

namespace Stacks

/-- The marks of operands and the operators and parentheses behind them, from the bottom to the top. -/
def interleave : List Node → List Pending → List Mark
  | operands, [] => operands.reverse.flatMap Node.marks
  | operands, .paren :: pending => interleave operands pending ++ [.paren]
  | l :: operands, .operator op location :: pending =>
    interleave operands pending ++ l.marks ++ [.operator op location]
  | [], .operator op location :: pending => interleave [] pending ++ [.operator op location]

/-- The marks on the stacks; where no operand is awaited, the uppermost has no operator behind it. -/
def marks (state : Stacks) : List Mark :=
  match state.expectsOperand, state.operands with
  | false, node :: operands => interleave operands state.pending ++ node.marks
  | _, operands => interleave operands state.pending

def flags (state : Stacks) : List Bool :=
  state.compared :: state.enclosing

/-- The discipline of the stacks after the given tokens. -/
structure Disciplined (consumed : List Token) (state : Stacks) : Prop where
  /-- All groups but the outermost have an open parenthesis. -/
  parens : state.pending.count .paren = state.flags.length - 1
  operands : state.operands.length =
    state.pending.countP Pending.isOperator + if state.expectsOperand then 0 else 1
  /-- In a group the operators bind tighter from the bottom to the top. -/
  ascending : ∀ operators ∈ Pending.groups state.pending,
    operators.Pairwise fun upper lower => lower.precedence < upper.precedence
  flagged : List.Forall₂ (fun flag operators => (∃ op ∈ operators, op.isChainable = false) → flag = true)
    state.flags (Pending.groups state.pending)
  /-- A group with a flag has one comparison directly in it, and any other has none. -/
  compared : List.Forall₂ (fun flag group => group.countP Token.isComparison = flag.toNat)
    state.flags (openGroups consumed)
  /-- The stacks hold each token once and in order, but for parentheses that are closed. -/
  inorder : state.marks.map some = (unclosed consumed).map Token.mark?

end Stacks

theorem keepUnclosed_of_ne {token : Token} (h : token.kind ≠ .rightParen) (kept : List Token) :
    keepUnclosed kept token = token :: kept := by
  simp [keepUnclosed, h]

theorem keepUnclosed_rightParen {closing opening : Token} (hclosing : closing.kind = .rightParen)
    {front : List Token} (hfront : ∀ token ∈ front, ¬ token.kind = .leftParen)
    (hopening : opening.kind = .leftParen) (kept : List Token) :
    keepUnclosed (front ++ opening :: kept) closing = front ++ kept := by
  rw [keepUnclosed, if_pos hclosing, List.eraseP_append_right _ (by simpa using hfront),
    List.eraseP_cons_of_pos (by simpa using hopening)]

section Derives

variable {symbol : Nonterminal} {tokens : List Token} {node : Node}

/-- The parentheses in an expression are all closed. -/
theorem Derives.foldl_keepUnclosed (h : Derives symbol tokens node) (kept : List Token) :
    tokens.foldl keepUnclosed kept = (tokens.filter Token.isPart).reverse ++ kept := by
  induction h generalizing kept with
  | number hkind | identifier hkind => simp [keepUnclosed, Token.isPart, hkind]
  | @group opening closing inner _ hopening _ hclosing ih =>
    have hfilter : (opening :: (inner ++ [closing])).filter Token.isPart =
        inner.filter Token.isPart := by simp [Token.isPart, hopening, hclosing]
    have hfree : ∀ token ∈ (inner.filter Token.isPart).reverse, ¬ token.kind = .leftParen := by
      simp +contextual [Token.isPart]
    have hne : opening.kind ≠ .rightParen := by simp [hopening]
    rw [hfilter, List.foldl_cons, List.foldl_append, List.foldl_cons, List.foldl_nil, ih,
      keepUnclosed_of_ne hne, keepUnclosed_rightParen hclosing hfree hopening]
  | tighter _ ih => exact ih kept
  | @binary op sign left right _ _ _ hsign _ ihleft ihright =>
    rw [List.foldl_append, List.foldl_cons, ihleft, ihright, keepUnclosed_of_ne (by simp [hsign]),
      List.filter_append, List.filter_cons_of_pos (Token.isPart_of_operator hsign)]
    simp

theorem Derives.map_mark? (h : Derives symbol tokens node) :
    (tokens.filter Token.isPart).map Token.mark? = node.marks.map some := by
  induction h with
  | number hkind hvalue => simp [Token.isPart, Token.mark?, hkind, hvalue, Node.marks]
  | identifier hkind => simp [Token.isPart, Token.mark?, hkind, Node.marks]
  | group hopening _ hclosing ih => simpa [Token.isPart, hopening, hclosing] using ih
  | tighter _ ih => exact ih
  | @binary op sign left right _ _ _ hsign _ ihleft ihright =>
    rw [List.filter_append, List.filter_cons_of_pos (Token.isPart_of_operator hsign),
      List.map_append, List.map_cons, ihleft, ihright, Node.marks, List.map_append, List.map_cons]
    simp [Token.mark?, hsign]

/-- An expression stands in the group that it begins in, and without a comparison at its root it has
none directly in that group. -/
theorem Derives.exists_foldl_enterGroup (h : Derives symbol tokens node) :
    ∃ direct, (∀ group enclosing,
        tokens.foldl enterGroup (group :: enclosing) = (direct ++ group) :: enclosing) ∧
      (0 < symbol.level → direct.countP Token.isComparison = 0) := by
  induction h with
  | @number token _ hkind | @identifier token hkind =>
    exact ⟨[token], by simp [enterGroup, hkind], by simp [Token.isComparison, hkind]⟩
  | group hopening _ hclosing ih =>
    obtain ⟨direct, hdirect, _⟩ := ih
    exact ⟨[], by simp [enterGroup, hopening, hclosing, hdirect], by simp⟩
  | @tighter symbol _ _ _ ih =>
    obtain ⟨direct, hdirect, hcount⟩ := ih
    exact ⟨direct, hdirect, fun hlevel =>
      hcount (Nat.lt_of_lt_of_le hlevel symbol.level_le_tighter)⟩
  | @binary op sign _ _ _ _ _ hsign _ ihleft ihright =>
    obtain ⟨left, hleft, hleftCount⟩ := ihleft
    obtain ⟨right, hright, hrightCount⟩ := ihright
    refine ⟨right ++ sign :: left, by simp [enterGroup, hsign, hleft, hright], fun hlevel => ?_⟩
    have hchain : op.isChainable = true := by
      rw [op.isChainable_iff, ← op.level_result]
      exact hlevel
    rw [List.countP_append, List.countP_cons, hleftCount op.level_leftSide_pos,
      hrightCount (by simp)]
    simp [Token.isComparison, hsign, hchain]

end Derives

namespace Pending

theorem exists_groups_eq (pending : List Pending) :
    ∃ operators enclosing, groups pending = operators :: enclosing := by
  induction pending with
  | nil => exact ⟨[], [], rfl⟩
  | cons entry pending ih =>
    obtain ⟨operators, enclosing, hgroups⟩ := ih
    cases entry with
    | paren => exact ⟨_, _, rfl⟩
    | operator op location => exact ⟨op :: operators, enclosing, by simp [groups, hgroups]⟩

theorem groups_operator {pending : List Pending} {operators : List Operator}
    {enclosing : List (List Operator)} (h : groups pending = operators :: enclosing) (op : Operator)
    (location : Location) :
    groups (.operator op location :: pending) = (op :: operators) :: enclosing := by
  simp [groups, h]

end Pending

namespace Stacks

variable {tokens : List Token} {state : Stacks}

theorem Awaiting.count_paren (h : Awaiting tokens state) :
    state.pending.count .paren = state.enclosing.length := by
  induction h with
  | start => rfl
  | openGroup _ _ ih => simpa [Stacks.openGroup] using ih
  | operator _ _ _ _ ih => simpa [awaitRight] using ih

theorem Awaiting.length_operands (h : Awaiting tokens state) :
    state.operands.length = state.pending.countP Pending.isOperator := by
  induction h with
  | start => rfl
  | openGroup _ _ ih =>
    rw [Stacks.openGroup, List.countP_cons_of_neg (by simp [Pending.isOperator])]
    exact ih
  | operator _ _ _ _ ih =>
    rw [awaitRight, List.countP_cons_of_pos rfl, List.length_cons, ih]

theorem precedence_lt_bound {pending : List Pending} {operators : List Operator}
    {enclosing : List (List Operator)} (hgroups : Pending.groups pending = operators :: enclosing)
    (hascending : operators.Pairwise fun upper lower => lower.precedence < upper.precedence) :
    ∀ op ∈ operators, op.precedence < bound pending := by
  match pending with
  | [] | .paren :: pending =>
    obtain ⟨rfl, _⟩ := List.cons.inj hgroups
    simp
  | .operator top location :: pending =>
    obtain ⟨others, _, hothers⟩ := Pending.exists_groups_eq pending
    rw [Pending.groups_operator hothers] at hgroups
    obtain ⟨rfl, _⟩ := List.cons.inj hgroups
    rw [List.forall_mem_cons]
    refine ⟨Nat.lt_succ_self _, fun op hop => ?_⟩
    exact Nat.lt_succ_of_lt ((List.pairwise_cons.mp hascending).1 op hop)

theorem Awaiting.ascending (h : Awaiting tokens state) :
    ∀ operators ∈ Pending.groups state.pending,
      operators.Pairwise fun upper lower => lower.precedence < upper.precedence := by
  induction h with
  | start => simp [Stacks.start, Pending.groups]
  | openGroup _ _ ih => simpa [Stacks.openGroup, Pending.groups] using ih
  | @operator _ _ state _ op _ _ _ _ hbound ih =>
    obtain ⟨operators, enclosing, hgroups⟩ := Pending.exists_groups_eq state.pending
    rw [hgroups, List.forall_mem_cons] at ih
    simp only [awaitRight]
    rw [Pending.groups_operator hgroups, List.forall_mem_cons]
    refine ⟨List.pairwise_cons.mpr ⟨?_, ih.1⟩, ih.2⟩
    intro lower hlower
    exact Nat.lt_of_lt_of_le (precedence_lt_bound hgroups ih.1 lower hlower) hbound

theorem Awaiting.flagged (h : Awaiting tokens state) :
    List.Forall₂ (fun flag operators => (∃ op ∈ operators, op.isChainable = false) → flag = true)
      state.flags (Pending.groups state.pending) := by
  induction h with
  | start => exact .cons (by simp) .nil
  | openGroup _ _ ih => exact .cons (by simp) ih
  | @operator _ _ state _ op _ _ _ _ hbound ih =>
    obtain ⟨operators, enclosing, hgroups⟩ := Pending.exists_groups_eq state.pending
    rw [hgroups] at ih
    obtain ⟨hgroup, hrest⟩ := List.forall₂_cons.mp ih
    simp only [awaitRight, flags]
    rw [Pending.groups_operator hgroups]
    refine .cons ?_ hrest
    rintro ⟨other, hother, hcomparison⟩
    rcases List.mem_cons.mp hother with rfl | hother
    · simp [hcomparison]
    · simp [hgroup ⟨other, hother, hcomparison⟩]

theorem Awaiting.compared_eq_false (h : Awaiting tokens state) (hbound : bound state.pending = 0) :
    state.compared = false := by
  cases h with
  | start | openGroup => rfl
  | operator => simp at hbound

theorem Awaiting.compared_openGroups (h : Awaiting tokens state) :
    List.Forall₂ (fun flag group => group.countP Token.isComparison = flag.toNat)
      state.flags (openGroups tokens) := by
  induction h with
  | start => exact .cons rfl .nil
  | openGroup _ hkind ih =>
    rw [openGroups, List.foldl_append, ← openGroups]
    simp only [List.foldl_cons, List.foldl_nil, enterGroup, hkind]
    exact .cons rfl ih
  | @operator tokens left state _ op sign h hl hsign hbound ih =>
    obtain ⟨group, enclosing, hgroup, hrest, hgroups⟩ := List.forall₂_cons_left_iff.mp ih
    obtain ⟨direct, hdirect, hcount⟩ := hl.exists_foldl_enterGroup
    have hnone := hcount op.level_leftSide_pos
    have hopen : openGroups (tokens ++ left ++ [sign]) = (sign :: (direct ++ group)) :: enclosing := by
      rw [openGroups, List.foldl_append, List.foldl_append, ← openGroups, hgroups, hdirect]
      simp [enterGroup, hsign]
    rw [hopen]
    refine .cons ?_ hrest
    rw [List.countP_cons, List.countP_append, hnone, hgroup]
    change _ = (state.compared || !op.isChainable).toNat
    cases hchain : op.isChainable with
    | true => simp [Token.isComparison, hsign, hchain]
    | false =>
      -- The first comparison of its group comes when nothing of the group is pending.
      have hzero : op.precedence = 0 :=
        Nat.eq_zero_of_not_pos (mt op.isChainable_iff.mpr (by simp [hchain]))
      have hnew := h.compared_eq_false (Nat.le_zero.mp (hzero ▸ hbound))
      simp [Token.isComparison, hsign, hchain, hnew]

theorem Awaiting.inorder (h : Awaiting tokens state) :
    (interleave state.operands state.pending).map some = (unclosed tokens).map Token.mark? := by
  induction h with
  | start => rfl
  | openGroup _ hkind ih =>
    rw [unclosed, List.foldl_append]
    simp only [Stacks.openGroup, interleave, List.map_append, ih, unclosed, List.foldl_cons,
      List.foldl_nil, keepUnclosed, hkind]
    simp [Token.mark?, hkind]
  | operator _ hl hsign _ ih =>
    rw [unclosed, List.foldl_append, List.foldl_append, hl.foldl_keepUnclosed]
    simp only [awaitRight, interleave, List.map_append, ih, ← hl.map_mark?, unclosed]
    simp [keepUnclosed, hsign, Token.mark?]

theorem unclosed_append_of_derives {symbol : Nonterminal} {operand : List Token} {node : Node}
    (h : Derives symbol operand node) (tokens : List Token) :
    (unclosed (tokens ++ operand)).map Token.mark? =
      (unclosed tokens).map Token.mark? ++ node.marks.map some := by
  rw [unclosed, List.foldl_append, h.foldl_keepUnclosed, List.reverse_append, List.reverse_reverse,
    List.map_append, h.map_mark?, ← unclosed]

theorem Awaiting.disciplined (h : Awaiting tokens state) : Disciplined tokens state where
  parens := h.count_paren
  operands := by
    rw [h.length_operands, h.expectsOperand]
    rfl
  ascending := h.ascending
  flagged := h.flagged
  compared := h.compared_openGroups
  inorder := by
    rw [← h.inorder, marks, h.expectsOperand]

theorem Awaiting.disciplined_push (h : Awaiting tokens state) {operand : List Token} {node : Node}
    (hnode : Derives .factor operand node) : Disciplined (tokens ++ operand) (state.push node) where
  parens := h.count_paren
  operands := congrArg (· + 1) h.length_operands
  ascending := h.ascending
  flagged := h.flagged
  compared := by
    obtain ⟨group, enclosing, hgroup, hrest, hgroups⟩ :=
      List.forall₂_cons_left_iff.mp h.compared_openGroups
    obtain ⟨direct, hdirect, hcount⟩ := hnode.exists_foldl_enterGroup
    have hnone := hcount (by decide)
    rw [openGroups, List.foldl_append, ← openGroups, hgroups, hdirect]
    refine .cons ?_ hrest
    rw [List.countP_append, hnone, Nat.zero_add]
    exact hgroup
  inorder := by
    rw [unclosed_append_of_derives hnode, ← h.inorder, ← List.map_append]
    rfl

theorem Reached.disciplined (h : Reached tokens state) : Disciplined tokens state := by
  cases h with
  | awaiting h => exact h.disciplined
  | complete h hnode => exact h.disciplined_push hnode

/-- What applying operators does to the stacks: it takes some operators, but no parenthesis, from the
top, goes on as long as they bind tight enough, and keeps the order of everything. -/
structure Reduces (least : Nat) (state : Stacks) (operands : List Node)
    (applied pending : List Pending) : Prop where
  fold_eq : fold least state.operands state.pending = .ok (operands, pending)
  pending_eq : state.pending = applied ++ pending
  paren_notMem : .paren ∉ applied
  bound_le : bound pending ≤ least
  marks_eq : { state with operands, pending }.marks = state.marks

theorem marks_binary (op : Operator) (l r : Node) (operands : List Node) (location : Location)
    (pending : List Pending) (compared : Bool) (enclosing : List Bool) :
    marks ⟨.binary op l r location :: operands, pending, compared, enclosing, false⟩ =
      marks ⟨r :: l :: operands, .operator op location :: pending, compared, enclosing, false⟩ := by
  simp [marks, interleave, Node.marks]

/-- With one operand more than there are operators, none is ever missing. -/
theorem exists_reduces (least : Nat) {state : Stacks} (hexpects : state.expectsOperand = false)
    (hlength : state.operands.length = state.pending.countP Pending.isOperator + 1) :
    ∃ operands applied pending, Reduces least state operands applied pending := by
  obtain ⟨operands, pending, compared, enclosing, expectsOperand⟩ := state
  obtain rfl : expectsOperand = false := hexpects
  -- The induction is on the operators: each that is applied leaves one operand less.
  induction pending generalizing operands with
  | nil =>
    exact ⟨operands, [], [], fold_of_bound_le (Nat.zero_le _) _, rfl, by simp, Nat.zero_le _, rfl⟩
  | cons entry rest ih =>
    by_cases hle : bound (entry :: rest) ≤ least
    · exact ⟨operands, [], entry :: rest, fold_of_bound_le hle _, rfl, by simp, hle, rfl⟩
    · cases entry with
      | paren => exact absurd (Nat.zero_le _) hle
      | operator op location =>
        rw [List.countP_cons_of_pos rfl] at hlength
        obtain ⟨r, l, operands, rfl⟩ : ∃ r l others, operands = r :: l :: others := by
          match operands with
          | r :: l :: others => exact ⟨r, l, others, rfl⟩
          | [] | [_] => simp at hlength
        obtain ⟨remaining, applied, pending, hfold, hpending, hparen, hbound, hmarks⟩ :=
          ih (.binary op l r location :: operands) (by simpa using hlength)
        refine ⟨remaining, .operator op location :: applied, pending, ?_, ?_, ?_, hbound, ?_⟩
        · rw [← hfold]
          exact fold_operator (Nat.le_of_lt_succ (Nat.lt_of_not_le hle)) l r _ _ _
        · exact congrArg (.operator op location :: ·) hpending
        · simpa using hparen
        · rw [← marks_binary]
          exact hmarks

/-- The discipline of the stacks, wherever reading begins and however far it has come, also if what
follows is refused. Where no operand is awaited, operators can be applied down to any level without
one being missing. -/
theorem disciplined_of_readAll (tokens : List Token) (i k : ℕ) {state : Stacks}
    (h : start.readAll ((tokens.drop i).take k) = .ok state) :
    Disciplined ((tokens.drop i).take k) state ∧
    (state.expectsOperand = false → ∀ least, ∃ operands applied pending,
      Reduces least state operands applied pending) := by
  have hreached := (Reached.awaiting .start).readAll (readable_of_readAll h) h
  have hdisciplined := hreached.disciplined
  refine ⟨hdisciplined, fun hexpects least => ?_⟩
  apply exists_reduces least hexpects
  rw [hdisciplined.operands, hexpects]
  rfl

/-- In `x = a > (b) + (c * d = e`, read from the third token up to the second `=`, which is refused:
four operands, the operators `>` and `+` in the outermost group and `*` in the open one. -/
theorem disciplined_before_refusal :
    let tokens : List Token :=
      [⟨.identifier, "x", ⟨0, 0⟩⟩, ⟨.assign, "=", ⟨0, 2⟩⟩, ⟨.identifier, "a", ⟨0, 4⟩⟩,
        ⟨.operator .gt, ">", ⟨0, 6⟩⟩, ⟨.leftParen, "(", ⟨0, 8⟩⟩, ⟨.identifier, "b", ⟨0, 9⟩⟩,
        ⟨.rightParen, ")", ⟨0, 10⟩⟩, ⟨.operator .add, "+", ⟨0, 12⟩⟩, ⟨.leftParen, "(", ⟨0, 14⟩⟩,
        ⟨.identifier, "c", ⟨0, 15⟩⟩, ⟨.operator .mul, "*", ⟨0, 17⟩⟩, ⟨.identifier, "d", ⟨0, 19⟩⟩,
        ⟨.assign, "=", ⟨0, 21⟩⟩, ⟨.identifier, "e", ⟨0, 23⟩⟩]
    let state : Stacks :=
      ⟨[.identifier "d" ⟨0, 19⟩, .identifier "c" ⟨0, 15⟩, .identifier "b" ⟨0, 9⟩,
          .identifier "a" ⟨0, 4⟩],
        [.operator .mul ⟨0, 17⟩, .paren, .operator .add ⟨0, 12⟩, .operator .gt ⟨0, 6⟩],
        false, [true], false⟩
    start.readAll ((tokens.drop 2).take 10) = .ok state ∧
    Disciplined ((tokens.drop 2).take 10) state ∧
    ∀ least, ∃ operands applied pending, Reduces least state operands applied pending := by
  intro tokens state
  have hread : start.readAll ((tokens.drop 2).take 10) = .ok state := rfl
  obtain ⟨hdisciplined, hreduces⟩ := disciplined_of_readAll tokens 2 10 hread
  exact ⟨hread, hdisciplined, hreduces rfl⟩

end Stacks

end Calculator
