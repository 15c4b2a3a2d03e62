import Mathlib.Data.List.Forall2
import Calculator.Proofs.Program.Statements
import Calculator.Proofs.Text.Headings

/-! # An outline tells the tree

Every line of an outline tells its level and all of a node but the nodes below it. From the levels it
can be told which nodes those are: the nodes below a node are one level deeper than it, and none that
waits behind them is.
-/
namespace Calculator

namespace Node

/-- Two trees are equal, but for numbers with the same text. -/
inductive Resembles : Node → Node → Prop
  | intro {tree tree' : Node} (h : tree.SameHeading tree')
    (hchildren : List.Forall₂ Resembles tree.children tree'.children) : Resembles tree tree'

/-- No node of a tree is missing, and no name has a line feed in it. -/
inductive Displayable : Node → Prop
  | number (value : Float) (location : Location) : Displayable (.number value location)
  | identifier {name : String} (h : '\n' ∉ name.toList) (location : Location) :
    Displayable (.identifier name location)
  | binary (op : Operator) {l r : Node} (hl : Displayable l) (hr : Displayable r)
    (location : Location) : Displayable (.binary op l r location)
  | assignment {name : String} (h : '\n' ∉ name.toList) {value : Node}
    (hvalue : Displayable value) (location : Location) :
    Displayable (.assignment name value location)
  | root {statements : List Node} (h : ∀ statement ∈ statements, Displayable statement)
    (location : Location) : Displayable (.root statements location)

theorem Displayable.children {node : Node} (h : node.Displayable) :
    ∀ child ∈ node.children, child.Displayable := by
  cases h with
  | number | identifier => exact nofun
  | binary op hl hr => exact List.forall_mem_cons.mpr ⟨hl, List.forall_mem_singleton.mpr hr⟩
  | assignment _ hvalue => exact List.forall_mem_singleton.mpr hvalue
  | root h => exact h

theorem Displayable.exists_heading {node : Node} (h : node.Displayable) :
    ∃ heading, node.heading? = some heading ∧ '\n' ∉ heading.toList := by
  have hline {word text : String} (hword : '\n' ∉ word.toList) (htext : '\n' ∉ text.toList)
      (location : Location) : '\n' ∉ (word ++ text ++ " " ++ location.text).toList :=
    newline_notMem_append (newline_notMem_append (newline_notMem_append hword htext) (by decide))
      location.newline_notMem_text
  cases h with
  | number value location =>
    have hvalue : '\n' ∉ (numberText value).toList := fun h =>
      not_inNumberText (Or.inr (Or.inl rfl)) (inNumberText_of_mem_numberText h)
    exact ⟨_, rfl, hline (by decide) hvalue location⟩
  | identifier h location => exact ⟨_, rfl, hline (by decide) h location⟩
  | binary op _ _ location =>
    have hname : '\n' ∉ op.name.toList := by
      cases op <;> decide
    exact ⟨_, rfl, hline (by decide) hname location⟩
  | assignment h _ location => exact ⟨_, rfl, hline (by decide) h location⟩
  | root _ location => exact ⟨_, rfl, newline_notMem_append (by decide) location.newline_notMem_text⟩

def deeper (node : Node) (level : Int) : List (Node × Int) :=
  node.children.map (·, level + 1)

theorem outlineLines_cons {node : Node} {heading : String} (h : node.heading? = some heading)
    (level : Int) (later : List (Node × Int)) :
    outlineLines ((node, level) :: later) =
      (outlineLines (node.deeper level ++ later)).map ((indentation level ++ heading) :: ·) := by
  rw [outlineLines, h, ← deeper]
  cases outlineLines (node.deeper level ++ later) <;> rfl

theorem heading?_eq_none_iff {node : Node} : node.heading? = none ↔ node = .missing := by
  cases node <;> simp [heading?]

/-- Waiting nodes are shown from the front: a missing node is the end, and any other is replaced by
the nodes below it. -/
@[elab_as_elim]
theorem waiting_induction {motive : List (Node × Int) → Prop} (waiting : List (Node × Int))
    (nil : motive []) (missing : ∀ level later, motive ((.missing, level) :: later))
    (node : ∀ node level later heading, node.heading? = some heading →
      motive (node.deeper level ++ later) → motive ((node, level) :: later)) : motive waiting := by
  induction waiting using outlineLines.induct with
  | case1 => exact nil
  | case2 entry level later hnone =>
    obtain rfl := heading?_eq_none_iff.mp hnone
    exact missing level later
  | case3 entry level later heading hheading _ _ ih
  | case4 entry level later heading hheading _ _ ih =>
    exact node entry level later heading hheading ih

theorem outlineLines_eq_nil_iff {waiting : List (Node × Int)} :
    outlineLines waiting = .ok [] ↔ waiting = [] := by
  cases waiting with
  | nil => simp [outlineLines]
  | cons entry later =>
    obtain ⟨node, level⟩ := entry
    cases hheading : node.heading? with
    | none => simp [outlineLines, hheading]
    | some heading =>
      rw [outlineLines_cons hheading]
      cases outlineLines (node.deeper level ++ later) <;> simp [Except.map]

theorem outlineLines_eq_cons_iff {waiting : List (Node × Int)} {line : String}
    {lines : List String} :
    outlineLines waiting = .ok (line :: lines) ↔ ∃ node level later heading,
      waiting = (node, level) :: later ∧ node.heading? = some heading ∧
        line = indentation level ++ heading ∧ outlineLines (node.deeper level ++ later) = .ok lines := by
  constructor
  · intro h
    cases waiting with
    | nil => simp [outlineLines] at h
    | cons entry later =>
      obtain ⟨node, level⟩ := entry
      cases hheading : node.heading? with
      | none => simp [outlineLines, hheading] at h
      | some heading =>
        rw [outlineLines_cons hheading] at h
        cases hlater : outlineLines (node.deeper level ++ later) with
        | error e => simp [hlater, Except.map] at h
        | ok found =>
          rw [hlater] at h
          obtain ⟨rfl, rfl⟩ := List.cons.inj (Except.ok.inj h)
          exact ⟨node, level, later, heading, rfl, hheading, rfl, hlater⟩
  · rintro ⟨node, level, later, heading, rfl, hheading, rfl, hlines⟩
    rw [outlineLines_cons hheading, hlines]
    rfl

theorem Displayable.deeper {node : Node} (h : node.Displayable) (level : Int) :
    ∀ entry ∈ node.deeper level, entry.1.Displayable := by
  intro entry hentry
  obtain ⟨child, hchild, rfl⟩ := List.mem_map.mp hentry
  exact h.children child hchild

theorem exists_outlineLines {waiting : List (Node × Int)}
    (h : ∀ entry ∈ waiting, entry.1.Displayable) :
    ∃ lines, outlineLines waiting = .ok lines ∧ ∀ line ∈ lines, '\n' ∉ line.toList := by
  induction waiting using waiting_induction with
  | nil => exact ⟨[], by rw [outlineLines], nofun⟩
  | missing level later => cases h _ List.mem_cons_self
  | node node level later heading hheading ih =>
    obtain ⟨hnode, hlater⟩ := List.forall_mem_cons.mp h
    obtain ⟨_, hsome, hfree⟩ := hnode.exists_heading
    obtain rfl := Option.some.inj (hheading.symm.trans hsome)
    obtain ⟨lines, hlines, hrest⟩ := ih (List.forall_mem_append.mpr ⟨hnode.deeper level, hlater⟩)
    refine ⟨(indentation level ++ heading) :: lines, ?_, List.forall_mem_cons.mpr ⟨?_, hrest⟩⟩
    · rw [outlineLines_cons hheading, hlines]
      rfl
    · exact newline_notMem_append (newline_notMem_indentation level) hfree

/-- The levels of nodes that wait: none is below zero, and none is deeper than one before it. -/
structure Descending (waiting : List (Node × Int)) : Prop where
  nonneg : ∀ entry ∈ waiting, 0 ≤ entry.2
  pairwise : waiting.Pairwise fun earlier later => later.2 ≤ earlier.2

theorem level_of_mem_deeper {node : Node} {level : Int} {entry : Node × Int}
    (h : entry ∈ node.deeper level) : entry.2 = level + 1 := by
  obtain ⟨child, _, rfl⟩ := List.mem_map.mp h
  rfl

theorem Descending.level_le {node : Node} {level : Int} {later : List (Node × Int)}
    (h : Descending ((node, level) :: later)) : ∀ entry ∈ later, entry.2 ≤ level :=
  (List.pairwise_cons.mp h.pairwise).1

theorem Descending.expand {node : Node} {level : Int} {later : List (Node × Int)}
    (h : Descending ((node, level) :: later)) : Descending (node.deeper level ++ later) := by
  obtain ⟨hlevel, hnonneg⟩ := List.forall_mem_cons.mp h.nonneg
  constructor
  · intro entry hentry
    rcases List.mem_append.mp hentry with hentry | hentry
    · rw [level_of_mem_deeper hentry]
      omega
    · exact hnonneg entry hentry
  · refine List.pairwise_append.mpr ⟨?_, (List.pairwise_cons.mp h.pairwise).2, ?_⟩
    · apply List.pairwise_of_forall_mem_list
      intro earlier hearlier entry hentry
      have hlevels := (level_of_mem_deeper hentry).trans (level_of_mem_deeper hearlier).symm
      exact Int.le_of_eq hlevels
    · intro entry hentry other hother
      have := h.level_le other hother
      rw [level_of_mem_deeper hentry]
      omega

def SameEntry (entry entry' : Node × Int) : Prop :=
  entry.2 = entry'.2 ∧ entry.1.Resembles entry'.1

/-- The nodes below two nodes at the same level are told from those that wait behind them by their
levels. -/
theorem forall₂_deeper {children children' : List Node} {level : Int}
    {later later' : List (Node × Int)} (hlater : ∀ entry ∈ later, entry.2 ≤ level)
    (hlater' : ∀ entry ∈ later', entry.2 ≤ level)
    (h : List.Forall₂ SameEntry (children.map (·, level + 1) ++ later)
      (children'.map (·, level + 1) ++ later')) :
    List.Forall₂ Resembles children children' ∧ List.Forall₂ SameEntry later later' := by
  induction children generalizing children' with
  | nil =>
    cases children' with
    | nil => exact ⟨.nil, h⟩
    | cons child' children' =>
      obtain ⟨entry, rest, hentry, _, rfl⟩ := List.forall₂_cons_right_iff.mp h
      have hlevel : entry.2 = level + 1 := hentry.1
      have hle := hlater entry List.mem_cons_self
      omega
  | cons child children ih =>
    cases children' with
    | nil =>
      obtain ⟨entry', rest', hentry, _, rfl⟩ := List.forall₂_cons_left_iff.mp h
      have hlevel : level + 1 = entry'.2 := hentry.1
      have hle := hlater' entry' List.mem_cons_self
      omega
    | cons child' children' =>
      obtain ⟨hchild, hrest⟩ := List.forall₂_cons.mp h
      obtain ⟨hchildren, hlater⟩ := ih hrest
      exact ⟨.cons hchild.2 hchildren, hlater⟩

theorem forall₂_of_outlineLines_eq {waiting waiting' : List (Node × Int)} {lines : List String}
    (h : outlineLines waiting = .ok lines) (h' : outlineLines waiting' = .ok lines)
    (hlevels : Descending waiting) (hlevels' : Descending waiting') :
    List.Forall₂ SameEntry waiting waiting' := by
  induction lines generalizing waiting waiting' with
  | nil =>
    rw [outlineLines_eq_nil_iff.mp h, outlineLines_eq_nil_iff.mp h']
    exact .nil
  | cons line lines ih =>
    obtain ⟨node, level, later, heading, rfl, hheading, rfl, hlines⟩ := outlineLines_eq_cons_iff.mp h
    obtain ⟨node', level', later', heading', rfl, hheading', hline, hlines'⟩ :=
      outlineLines_eq_cons_iff.mp h'
    obtain ⟨hnonneg, _⟩ := List.forall_mem_cons.mp hlevels.nonneg
    obtain ⟨hnonneg', _⟩ := List.forall_mem_cons.mp hlevels'.nonneg
    obtain ⟨rfl, rfl⟩ := indentation_append_inj hnonneg hnonneg' hheading hheading' hline
    obtain ⟨hchildren, hlater⟩ := forall₂_deeper hlevels.level_le hlevels'.level_le
      (ih hlines hlines' hlevels.expand hlevels'.expand)
    exact .cons ⟨rfl, .intro (.of_heading?_eq hheading hheading') hchildren⟩ hlater

theorem outlineLines_eq_of_forall₂ {waiting waiting' : List (Node × Int)} {lines : List String}
    (h : outlineLines waiting = .ok lines) (hsame : List.Forall₂ SameEntry waiting waiting') :
    outlineLines waiting' = .ok lines := by
  induction lines generalizing waiting waiting' with
  | nil =>
    obtain rfl := outlineLines_eq_nil_iff.mp h
    rw [List.forall₂_nil_left_iff.mp hsame]
    exact h
  | cons line lines ih =>
    obtain ⟨node, level, later, heading, rfl, hheading, rfl, hlines⟩ := outlineLines_eq_cons_iff.mp h
    obtain ⟨⟨node', _⟩, later', ⟨rfl, hnode, hchildren⟩, hlater, rfl⟩ :=
      List.forall₂_cons_left_iff.mp hsame
    have hdeeper : List.Forall₂ SameEntry (node.deeper level) (node'.deeper level) := by
      refine List.forall₂_map_left_iff.mpr (List.forall₂_map_right_iff.mpr ?_)
      exact hchildren.imp fun _ _ hchild => ⟨rfl, hchild⟩
    exact outlineLines_eq_cons_iff.mpr ⟨node', level, later', heading, rfl,
      hnode.heading?_eq ▸ hheading, rfl, ih hlines (List.rel_append hdeeper hlater)⟩

/-- Two trees have the same lines just if they are equal but for numbers with the same text. -/
theorem outlineLines_eq_iff_resembles {tree tree' : Node} {level : Int} (hlevel : 0 ≤ level)
    {lines lines' : List String} (h : outlineLines [(tree, level)] = .ok lines)
    (h' : outlineLines [(tree', level)] = .ok lines') : lines = lines' ↔ tree.Resembles tree' := by
  have hlevels (node : Node) : Descending [(node, level)] :=
    ⟨List.forall_mem_singleton.mpr hlevel, List.pairwise_singleton _ _⟩
  constructor
  · rintro rfl
    have hsame := forall₂_of_outlineLines_eq h h' (hlevels tree) (hlevels tree')
    exact (List.forall₂_cons.mp hsame).1.2
  · intro hsame
    have hentries : List.Forall₂ SameEntry [(tree, level)] [(tree', level)] :=
      .cons ⟨rfl, hsame⟩ .nil
    exact Except.ok.inj ((outlineLines_eq_of_forall₂ h hentries).symm.trans h')

end Node

theorem joined_injective {lines lines' : List String} (hne : lines ≠ []) (hne' : lines' ≠ [])
    (hfree : ∀ line ∈ lines, '\n' ∉ line.toList) (hfree' : ∀ line ∈ lines', '\n' ∉ line.toList)
    (h : joined lines = joined lines') : lines = lines' := by
  have hcut {texts : List String} (hne : texts ≠ []) (hfree : ∀ line ∈ texts, '\n' ∉ line.toList) :
      linesOf (joined texts).toList = texts.map String.toList := by
    rw [toList_joined]
    apply linesOf_joinLines (by simpa using hne)
    simpa using hfree
  have hmap := hcut hne hfree
  rw [h, hcut hne' hfree'] at hmap
  exact (List.map_injective_iff.mpr fun _ _ => String.toList_inj.mp) hmap.symm

namespace Node

theorem Displayable.exists_outline {tree : Node} (h : tree.Displayable) (level : Int) :
    ∃ lines, outlineLines [(tree, level)] = .ok lines ∧ tree.outline level = .ok (joined lines) ∧
      lines ≠ [] ∧ ∀ line ∈ lines, '\n' ∉ line.toList := by
  have hall : ∀ entry ∈ [(tree, level)], entry.1.Displayable := List.forall_mem_singleton.mpr h
  obtain ⟨lines, hlines, hfree⟩ := exists_outlineLines hall
  refine ⟨lines, hlines, by rw [outline, hlines]; rfl, ?_, hfree⟩
  rintro rfl
  cases outlineLines_eq_nil_iff.mp hlines

theorem Displayable.outline_eq_iff {tree tree' : Node} (h : tree.Displayable)
    (h' : tree'.Displayable) {level : Int} (hlevel : 0 ≤ level) :
    ∃ text text', tree.outline level = .ok text ∧ tree'.outline level = .ok text' ∧
      (text = text' ↔ tree.Resembles tree') := by
  obtain ⟨lines, hlines, htext, hne, hfree⟩ := h.exists_outline level
  obtain ⟨lines', hlines', htext', hne', hfree'⟩ := h'.exists_outline level
  refine ⟨_, _, htext, htext', ?_⟩
  rw [← outlineLines_eq_iff_resembles hlevel hlines hlines']
  exact ⟨joined_injective hne hne' hfree hfree', congrArg joined⟩

end Node

theorem Derives.displayable {symbol : Nonterminal} {tokens : List Token} {node : Node}
    (h : Derives symbol tokens node) (hlexemes : ∀ token ∈ tokens, '\n' ∉ token.lexeme.toList) :
    node.Displayable := by
  induction h with
  | number => exact .number _ _
  | identifier => exact .identifier (hlexemes _ (List.mem_singleton_self _)) _
  | group _ _ _ ih => exact ih fun token htoken => hlexemes token (by simp [htoken])
  | tighter _ ih => exact ih hlexemes
  | binary _ _ _ ihleft ihright =>
    exact .binary _ (ihleft fun token htoken => hlexemes token (by simp [htoken]))
      (ihright fun token htoken => hlexemes token (by simp [htoken])) _

theorem Sentence.displayable {tokens : List Token} {node : Node} (h : Sentence tokens node)
    (hlexemes : ∀ token ∈ tokens, '\n' ∉ token.lexeme.toList) : node.Displayable := by
  cases h with
  | expression h => exact h.displayable hlexemes
  | assignment _ _ h =>
    exact .assignment (hlexemes _ List.mem_cons_self)
      (h.displayable fun token htoken => hlexemes token (by simp [htoken])) _

theorem displayable_of_parse {source : String} {tokens : List Token}
    (hscan : scan source = .ok tokens) {program : Program} (hparse : parse tokens = .ok program) :
    program.toNode.Displayable := by
  obtain ⟨statements, hstatements, rfl⟩ := (parse_eq_ok_iff tokens program).mp hparse
  refine .root ?_ _
  intro statement hmem
  obtain ⟨line, hline, hsentence⟩ :=
    (StatementLines.of_scan hscan hstatements).exists_sentence hmem
  exact hsentence.displayable fun token htoken =>
    newline_notMem_lexeme hscan (Line.mem_of_mem_ofTokens hline htoken)

/-- An outline loses nothing. Trees in which no node is missing and no name has a line feed have an
outline at every level, and if the level is not below zero, two of the outlines are equal just if the
trees are, but for numbers with the same text. So it is with the programs of any two texts. -/
theorem outline_eq_iff_resembles {level : Int} (hlevel : 0 ≤ level) :
    (∀ tree tree' : Node, tree.Displayable → tree'.Displayable →
      ∃ text text', tree.outline level = .ok text ∧ tree'.outline level = .ok text' ∧
        (text = text' ↔ tree.Resembles tree')) ∧
    ∀ source source' tokens tokens' program program',
      scan source = .ok tokens → parse tokens = .ok program →
      scan source' = .ok tokens' → parse tokens' = .ok program' →
      ∃ text text', program.toNode.outline level = .ok text ∧
        program'.toNode.outline level = .ok text' ∧
        (text = text' ↔ program.toNode.Resembles program'.toNode) := by
  constructor
  · intro tree tree' h h'
    exact h.outline_eq_iff h' hlevel
  · intro source source' tokens tokens' program program' hscan hparse hscan' hparse'
    exact (displayable_of_parse hscan hparse).outline_eq_iff (displayable_of_parse hscan' hparse')
      hlevel

/-- Two roots with the names `a b` and `c` below them, in two shapes; and the programs `a + b` and
`a - b`. -/
theorem outline_of_roots :
    let names : List Node := [.identifier "a b" ⟨0, 0⟩, .identifier "c" ⟨0, 4⟩]
    let flat : Node := .root [.root [] ⟨0, 0⟩, .root names ⟨0, 0⟩] ⟨0, 0⟩
    let deep : Node := .root [.root [.root names ⟨0, 0⟩] ⟨0, 0⟩] ⟨0, 0⟩
    let sum (op : Operator) : Node :=
      .binary op (.identifier "a" ⟨0, 0⟩) (.identifier "b" ⟨0, 4⟩) ⟨0, 2⟩
    (∃ text text', flat.outline 1 = .ok text ∧ deep.outline 1 = .ok text' ∧ text ≠ text') ∧
    ∃ tokens tokens', scan "a + b" = .ok tokens ∧ parse tokens = .ok (.ofStatements [sum .add]) ∧
      scan "a - b" = .ok tokens' ∧ parse tokens' = .ok (.ofStatements [sum .sub]) ∧
      ∃ text text', (Program.ofStatements [sum .add]).toNode.outline 1 = .ok text ∧
        (Program.ofStatements [sum .sub]).toNode.outline 1 = .ok text' ∧ text ≠ text' := by
  intro names flat deep sum
  obtain ⟨htrees, hprograms⟩ := outline_eq_iff_resembles (by decide : (0 : Int) ≤ 1)
  constructor
  · have hnames : (Node.root names ⟨0, 0⟩).Displayable := by
      refine .root (List.forall_mem_cons.mpr ⟨?_, List.forall_mem_singleton.mpr ?_⟩) _
      · exact .identifier (by decide) _
      · exact .identifier (by decide) _
    have hflat : flat.Displayable :=
      .root (List.forall_mem_cons.mpr
        ⟨.root (List.forall_mem_nil _) _, List.forall_mem_singleton.mpr hnames⟩) _
    have hdeep : deep.Displayable :=
      .root (List.forall_mem_singleton.mpr (.root (List.forall_mem_singleton.mpr hnames) _)) _
    obtain ⟨text, text', htext, htext', hiff⟩ := htrees flat deep hflat hdeep
    refine ⟨text, text', htext, htext', fun heq => ?_⟩
    obtain ⟨_, hchildren⟩ := hiff.mp heq
    cases hchildren.length_eq
  · obtain ⟨tokens, hscan, hparse⟩ : ∃ tokens, scan "a + b" = .ok tokens ∧
        parse tokens = .ok (.ofStatements [sum .add]) :=
      ⟨[⟨.identifier, "a", ⟨0, 0⟩⟩, ⟨.operator .add, "+", ⟨0, 2⟩⟩, ⟨.identifier, "b", ⟨0, 4⟩⟩],
        by decide +kernel, rfl⟩
    obtain ⟨tokens', hscan', hparse'⟩ : ∃ tokens, scan "a - b" = .ok tokens ∧
        parse tokens = .ok (.ofStatements [sum .sub]) :=
      ⟨[⟨.identifier, "a", ⟨0, 0⟩⟩, ⟨.operator .sub, "-", ⟨0, 2⟩⟩, ⟨.identifier, "b", ⟨0, 4⟩⟩],
        by decide +kernel, rfl⟩
    obtain ⟨text, text', htext, htext', hiff⟩ :=
      hprograms _ _ _ _ _ _ hscan hparse hscan' hparse'
    refine ⟨tokens, tokens', hscan, hparse, hscan', hparse', text, text', htext, htext', ?_⟩
    intro heq
    obtain ⟨_, hchildren⟩ := hiff.mp heq
    obtain ⟨⟨hheading, _⟩, _⟩ := List.forall₂_cons.mp hchildren
    cases hheading

end Calculator
