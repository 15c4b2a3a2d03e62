import Calculator.Proofs.Program.Reading
import Calculator.Proofs.Program.Relocation

/-! # Lines are read independently

What a text of several lines yields is put together from what each line yields as a text of its own:
the first fault, if some line has one; otherwise all refusals, if there are any; otherwise all
statements. Only the number of the line is added to the places.
-/
namespace Calculator

def Location.onLine (k : Int) (location : Location) : Location :=
  ⟨k, location.column⟩

def statementsOf (readings : List LineReading) : List Node :=
  readings.zipIdx.filterMap fun (reading, k) => reading.node?.map (Node.relocate (.onLine k))

def refusalsOf (readings : List LineReading) : List LineError :=
  readings.zipIdx.filterMap fun (reading, k) => reading.error?.map (LineError.relocate (.onLine k))

theorem scanFrom_onLine {line : List Char} (hline : '\n' ∉ line) (k : Int) :
    scanFrom ⟨k, 0⟩ line =
      ((scanFrom .origin line).map (List.map (Token.relocate (.onLine k)))).mapError
        (LexicalError.relocate (.onLine k)) := by
  have hright (location : Location) (n : Int) :
      (location.right n).onLine k = (location.onLine k).right n := rfl
  exact scanFrom_relocate hright (fun hmem => absurd hmem hline) .origin

theorem scanFrom_joinLines_cons {line : List Char} (hline : '\n' ∉ line) (rest : List (List Char))
    (k : Int) :
    scanFrom ⟨k, 0⟩ (joinLines (line :: rest)) =
      match scanFrom ⟨k, 0⟩ line with
      | .error e => .error e
      | .ok tokens =>
        match scanFrom ⟨k + 1, 0⟩ (joinLines rest) with
        | .error e => .error e
        | .ok more => .ok (tokens ++ more) := by
  cases rest with
  | nil =>
    have hnone (here : Location) : scanFrom here [] = .ok [] := by rw [scanFrom]
    rw [joinLines, joinLines, hnone]
    cases scanFrom ⟨k, 0⟩ line <;> simp
  | cons next rest =>
    have hcount : line.count '\n' = 0 := List.count_eq_zero.mpr hline
    have hjoined : joinLines (line :: next :: rest) = line ++ '\n' :: joinLines (next :: rest) := rfl
    have happend := scanFrom_append_newline ⟨k, 0⟩ line (joinLines (next :: rest))
    simp only [hcount, Int.natCast_zero, Int.add_zero] at happend
    exact hjoined ▸ happend

theorem exists_scanFrom_of_mem {lines : List (List Char)} (hlines : ∀ line ∈ lines, '\n' ∉ line)
    {n : Int} {tokens : List Token} (h : scanFrom ⟨n, 0⟩ (joinLines lines) = .ok tokens) :
    ∀ line ∈ lines, ∃ tokens, scanFrom .origin line = .ok tokens := by
  induction lines generalizing n tokens with
  | nil => simp
  | cons line rest ih =>
    have hline := hlines line List.mem_cons_self
    rw [scanFrom_joinLines_cons hline, scanFrom_onLine hline] at h
    cases hfirst : scanFrom .origin line with
    | error e => simp [hfirst, Except.map, Except.mapError] at h
    | ok found =>
      cases hrest : scanFrom ⟨n + 1, 0⟩ (joinLines rest) with
      | error e => simp [hfirst, hrest, Except.map, Except.mapError] at h
      | ok more =>
        rw [List.forall_mem_cons]
        exact ⟨⟨found, hfirst⟩, ih (fun other hother => hlines other (List.mem_cons_of_mem _ hother))
          hrest⟩

/-- The outcomes of the lines from number `n` on. -/
def outcomesFrom (n : Nat) (readings : List LineReading) : List (Except LineFailure Node) :=
  (readings.zipIdx n).filterMap fun (reading, k) => reading.outcome?.map (relocated (.onLine k))

theorem outcomesFrom_cons (n : Nat) (reading : LineReading) (readings : List LineReading) :
    outcomesFrom n (reading :: readings) =
      (reading.outcome?.toList).map (relocated (.onLine n)) ++ outcomesFrom (n + 1) readings := by
  rw [outcomesFrom, List.zipIdx_cons, List.filterMap_cons]
  cases reading <;> rfl

theorem exists_readings {lines : List (List Char)} (hlines : ∀ line ∈ lines, '\n' ∉ line)
    (hscan : ∀ line ∈ lines, ∃ tokens, scanFrom .origin line = .ok tokens) (n : Nat) :
    ∃ tokens readings, scanFrom ⟨n, 0⟩ (joinLines lines) = .ok tokens ∧
      List.Forall₂ ReadsAlone (lines.map String.ofList) readings ∧
      (Line.ofTokens tokens).map Line.statement = outcomesFrom n readings ∧
      ∀ reading ∈ readings, reading.Sound := by
  induction lines generalizing n with
  | nil => exact ⟨[], [], by rw [joinLines, scanFrom], .nil, rfl, by simp⟩
  | cons line rest ih =>
    have hline := hlines line List.mem_cons_self
    obtain ⟨tokens, htokens⟩ := hscan line List.mem_cons_self
    obtain ⟨reading, hreading, houtcome, hsound⟩ := exists_reading hline htokens
    obtain ⟨more, readings, hmore, hreadings, houtcomes, hsounds⟩ :=
      ih (fun other h => hlines other (List.mem_cons_of_mem _ h))
        (fun other h => hscan other (List.mem_cons_of_mem _ h)) (n + 1)
    have hmoved : scanFrom ⟨n, 0⟩ line = .ok (tokens.map (Token.relocate (.onLine n))) := by
      rw [scanFrom_onLine hline, htokens]
      rfl
    have hzero := line_eq_zero hline htokens
    have hstatement : (Line.ofTokens (tokens.map (Token.relocate (.onLine n)))).map Line.statement =
        ((Line.ofTokens tokens).map Line.statement).map (relocated (.onLine n)) :=
      Line.map_statement_relocate (fun _ _ => rfl) fun a ha b hb =>
        iff_of_true rfl ((hzero a ha).trans (hzero b hb).symm)
    refine ⟨tokens.map (Token.relocate (.onLine n)) ++ more, reading :: readings, ?_,
      .cons hreading hreadings, ?_, ?_⟩
    · rw [scanFrom_joinLines_cons hline, hmoved]
      rw [Int.natCast_add, Int.natCast_one] at hmore
      rw [hmore]
    · rw [Line.ofTokens_append, List.map_append, houtcomes, hstatement, houtcome, outcomesFrom_cons]
      -- The tokens of the line stand above those of the lines that follow.
      intro a ha b hb
      obtain ⟨token, _, rfl⟩ := List.mem_map.mp (List.mem_of_getLast? ha)
      have hbelow := (line_of_mem_scanFrom hmore (List.mem_of_head? hb)).1
      simp only [Token.line, Token.relocate, Location.onLine] at hbelow ⊢
      omega
    · rw [List.forall_mem_cons]
      exact ⟨hsound, hsounds⟩

theorem scanFrom_joinLines_error {lines : List (List Char)} (hlines : ∀ line ∈ lines, '\n' ∉ line)
    {k : Nat} {line : List Char} (hk : lines[k]? = some line) {e : LexicalError}
    (he : scanFrom .origin line = .error e)
    (hearlier : ∀ earlier ∈ lines.take k, ∃ tokens, scanFrom .origin earlier = .ok tokens) (n : Nat) :
    scanFrom ⟨n, 0⟩ (joinLines lines) = .error (e.relocate (.onLine (n + k : Nat))) := by
  induction lines generalizing k n with
  | nil => simp at hk
  | cons first rest ih =>
    have hfirst := hlines first List.mem_cons_self
    rw [scanFrom_joinLines_cons hfirst, scanFrom_onLine hfirst]
    cases k with
    | zero =>
      obtain rfl : first = line := by simpa using hk
      rw [he]
      rfl
    | succ k =>
      rw [List.take_succ_cons, List.forall_mem_cons] at hearlier
      obtain ⟨⟨tokens, htokens⟩, hearlier⟩ := hearlier
      have hrest := ih (fun other h => hlines other (List.mem_cons_of_mem _ h)) (by simpa using hk)
        hearlier (n + 1)
      rw [Int.natCast_add, Int.natCast_one] at hrest
      rw [htokens, hrest, Nat.add_assoc, Nat.add_comm 1 k]
      rfl

theorem defect_notMem_outcomesFrom (n : Nat) (readings : List LineReading) (d : Defect) :
    .error (.defect d) ∉ outcomesFrom n readings := by
  intro hmem
  obtain ⟨⟨reading, k⟩, _, heq⟩ := List.mem_filterMap.mp hmem
  cases reading <;> cases heq

theorem filterMap_toOption_outcomesFrom (readings : List LineReading) :
    (outcomesFrom 0 readings).filterMap Except.toOption = statementsOf readings := by
  rw [outcomesFrom, List.filterMap_filterMap, statementsOf]
  congr 1
  funext ⟨reading, k⟩
  cases reading <;> rfl

theorem filterMap_refusal?_outcomesFrom (readings : List LineReading) :
    (outcomesFrom 0 readings).filterMap Parsing.refusal? = refusalsOf readings := by
  rw [outcomesFrom, List.filterMap_filterMap, refusalsOf]
  congr 1
  funext ⟨reading, k⟩
  cases reading <;> rfl

theorem resultOf_outcomesFrom (readings : List LineReading) :
    Parsing.resultOf (outcomesFrom 0 readings) =
      if refusalsOf readings = [] then .ok (.ofStatements (statementsOf readings))
      else .error (.refused (refusalsOf readings)) := by
  rw [Parsing.resultOf_eq (defect_notMem_outcomesFrom 0 readings), filterMap_toOption_outcomesFrom,
    filterMap_refusal?_outcomesFrom]

theorem found?_relocate (f : Location → Location) (e : LineError) :
    (e.relocate f).found? = e.found? := by
  cases e <;> rfl

theorem newline_notMem_found_refusalsOf {readings : List LineReading}
    (h : ∀ reading ∈ readings, reading.Sound) :
    ∀ e ∈ refusalsOf readings, ∀ lexeme ∈ e.found?, '\n' ∉ lexeme.toList := by
  intro e he
  obtain ⟨⟨reading, k⟩, hmem, hmap⟩ := List.mem_filterMap.mp he
  obtain ⟨error, herror, rfl⟩ := Option.map_eq_some_iff.mp hmap
  rw [found?_relocate]
  exact (h reading (List.fst_mem_of_mem_zipIdx hmem)).newline_notMem error herror

theorem exists_location_of_mem_statementsOf {readings : List LineReading}
    (h : ∀ reading ∈ readings, reading.Sound) :
    ∀ node ∈ statementsOf readings, ∃ location, node.location? = some location := by
  intro node hnode
  obtain ⟨⟨reading, k⟩, hmem, hmap⟩ := List.mem_filterMap.mp hnode
  obtain ⟨statement, hstatement, rfl⟩ := Option.map_eq_some_iff.mp hmap
  obtain ⟨location, hlocation⟩ :=
    (h reading (List.fst_mem_of_mem_zipIdx hmem)).exists_location statement hstatement
  exact ⟨_, by rw [Node.location?_relocate, hlocation]; rfl⟩

/-- The lines of a text, each as a text of its own. -/
def linesAlone (source : String) : List String :=
  (linesOf source.toList).map String.ofList

theorem exists_readings_of_scan {source : String}
    (h : ∀ line ∈ linesAlone source, ∃ tokens, scan line = .ok tokens) :
    ∃ tokens readings, scan source = .ok tokens ∧
      List.Forall₂ ReadsAlone (linesAlone source) readings ∧
      parse tokens = Parsing.resultOf (outcomesFrom 0 readings) ∧
      ∀ reading ∈ readings, reading.Sound := by
  have hlines : ∀ line ∈ linesOf source.toList, '\n' ∉ line := fun line hline =>
    newline_notMem_of_mem_linesOf hline
  have hscan : ∀ line ∈ linesOf source.toList, ∃ tokens, scanFrom .origin line = .ok tokens := by
    intro line hline
    obtain ⟨tokens, htokens⟩ := h _ (List.mem_map_of_mem hline)
    exact ⟨tokens, by rwa [scan, String.toList_ofList] at htokens⟩
  obtain ⟨tokens, readings, htokens, hreadings, houtcomes, hsound⟩ := exists_readings hlines hscan 0
  rw [joinLines_linesOf] at htokens
  exact ⟨tokens, readings, htokens, hreadings, by rw [parse_eq_resultOf, houtcomes], hsound⟩

theorem exists_scan_of_mem_linesAlone {source : String} {tokens : List Token}
    (h : scan source = .ok tokens) : ∀ line ∈ linesAlone source, ∃ tokens, scan line = .ok tokens := by
  intro line hline
  obtain ⟨chars, hchars, rfl⟩ := List.mem_map.mp hline
  rw [scan, ← joinLines_linesOf source.toList] at h
  rw [scan, String.toList_ofList]
  exact exists_scanFrom_of_mem (fun _ hmem => newline_notMem_of_mem_linesOf hmem) h chars hchars

theorem exists_readings_of_parse_error {source : String} {tokens : List Token}
    (hscan : scan source = .ok tokens) {e : ParseError} (hparse : parse tokens = .error e) :
    ∃ readings, List.Forall₂ ReadsAlone (linesAlone source) readings ∧
      e = .refused (refusalsOf readings) ∧ refusalsOf readings ≠ [] := by
  obtain ⟨others, readings, hothers, hreadings, hresult, _⟩ :=
    exists_readings_of_scan (exists_scan_of_mem_linesAlone hscan)
  obtain rfl : tokens = others := Except.ok.inj (hscan.symm.trans hothers)
  rw [hresult, resultOf_outcomesFrom] at hparse
  by_cases hnone : refusalsOf readings = []
  · rw [if_pos hnone] at hparse
    cases hparse
  · rw [if_neg hnone] at hparse
    exact ⟨readings, hreadings, (Except.error.inj hparse).symm, hnone⟩

theorem scan_error_of_linesAlone {source : String} {k : ℕ} {line : String}
    (hk : (linesAlone source)[k]? = some line) {e : LexicalError} (he : scan line = .error e)
    (hearlier : ∀ earlier ∈ (linesAlone source).take k, ∃ tokens, scan earlier = .ok tokens) :
    scan source = .error (e.relocate (.onLine k)) := by
  rw [linesAlone, List.getElem?_map] at hk
  obtain ⟨chars, hchars, rfl⟩ := Option.map_eq_some_iff.mp hk
  rw [scan, String.toList_ofList] at he
  have hlines : ∀ line ∈ linesOf source.toList, '\n' ∉ line := fun line hline =>
    newline_notMem_of_mem_linesOf hline
  have hfront : ∀ other ∈ (linesOf source.toList).take k,
      ∃ tokens, scanFrom .origin other = .ok tokens := by
    intro other hother
    rw [linesAlone, ← List.map_take] at hearlier
    obtain ⟨tokens, htokens⟩ := hearlier _ (List.mem_map_of_mem hother)
    exact ⟨tokens, by rwa [scan, String.toList_ofList] at htokens⟩
  have herror := scanFrom_joinLines_error hlines hchars he hfront 0
  rw [joinLines_linesOf, Nat.zero_add] at herror
  exact herror

/-- A text is read line by line. If a line alone cannot be scanned, the first such line decides, with
its fault and column. Otherwise each line alone is blank, a statement or refused. If some are
refused, all refusals are reported, in order and each on its line, and the report has one line of
text for each. If none is, the program has the statements of all lines that are not blank, in order
and each on its line, and it has the place of the first, or the origin if there is none. -/
theorem parse_lines_independent (source : String) :
    (∀ (k : ℕ) line e, (linesAlone source)[k]? = some line → scan line = .error e →
      (∀ earlier ∈ (linesAlone source).take k, ∃ tokens, scan earlier = .ok tokens) →
      scan source = .error (e.relocate (.onLine k))) ∧
    ((∀ line ∈ linesAlone source, ∃ tokens, scan line = .ok tokens) →
      ∃ readings, List.Forall₂ ReadsAlone (linesAlone source) readings) ∧
    ∀ readings, List.Forall₂ ReadsAlone (linesAlone source) readings →
      ∃ tokens, scan source = .ok tokens ∧
        (refusalsOf readings ≠ [] →
          parse tokens = .error (.refused (refusalsOf readings)) ∧
          linesOf (ParseError.refused (refusalsOf readings)).message.toList =
            (refusalsOf readings).map fun e => ("Parser error: " ++ e.message).toList) ∧
        (refusalsOf readings = [] →
          ∃ program, parse tokens = .ok program ∧ program.statements = statementsOf readings ∧
            (statementsOf readings = [] → program.location = .origin) ∧
            ∀ first ∈ (statementsOf readings).head?, first.location? = some program.location) := by
  refine ⟨?_, ?_, ?_⟩
  · intro k line e hk he hearlier
    exact scan_error_of_linesAlone hk he hearlier
  · intro h
    obtain ⟨_, readings, _, hreadings, _⟩ := exists_readings_of_scan h
    exact ⟨readings, hreadings⟩
  · intro readings hreadings
    obtain ⟨tokens, others, htokens, hothers, hparse, hsound⟩ :=
      exists_readings_of_scan (exists_scan_of_readsAlone hreadings)
    obtain rfl := List.right_unique_forall₂' ReadsAlone.rightUnique hreadings hothers
    rw [resultOf_outcomesFrom] at hparse
    refine ⟨tokens, htokens, ?_, ?_⟩
    · intro hne
      rw [if_neg hne] at hparse
      exact ⟨hparse, linesOf_message hne (newline_notMem_found_refusalsOf hsound)⟩
    · intro hnone
      rw [if_pos hnone] at hparse
      refine ⟨_, hparse, rfl, ?_, ?_⟩
      · intro hempty
        rw [hempty]
        rfl
      · intro first hfirst
        have hhead : (statementsOf readings).head? = some first := hfirst
        obtain ⟨location, hlocation⟩ :=
          exists_location_of_mem_statementsOf hsound first (List.mem_of_head? hfirst)
        simp [Program.ofStatements, hhead, hlocation]

theorem parse_lines_of_texts :
    scan "a\n2 $ 3\n#" = .error ⟨.unexpectedCharacter '$', ⟨1, 2⟩⟩ ∧
    (∃ tokens, scan "a\n(b\n\nb >" = .ok tokens ∧
      parse tokens = .error (.refused [.unclosedParen none ⟨1, 1⟩, .unexpectedEnd ⟨3, 2⟩])) ∧
    ∃ tokens program, scan "\na\n\nb = a" = .ok tokens ∧ parse tokens = .ok program ∧
      program.statements = [.identifier "a" ⟨1, 0⟩,
        .assignment "b" (.identifier "a" ⟨3, 4⟩) ⟨3, 2⟩] ∧
      program.location = ⟨1, 0⟩ := by
  have ha : ReadsAlone "a" (.statement (.identifier "a" ⟨0, 0⟩)) := by
    have hscan : scan "a" = .ok [⟨.identifier, "a", ⟨0, 0⟩⟩] := by decide +kernel
    exact .statement hscan rfl rfl
  have hopen : ReadsAlone "(b" (.refused (.unclosedParen none ⟨0, 1⟩)) := by
    have hscan : scan "(b" = .ok [⟨.leftParen, "(", ⟨0, 0⟩⟩, ⟨.identifier, "b", ⟨0, 1⟩⟩] := by
      decide +kernel
    exact .refused hscan rfl
  have hend : ReadsAlone "b >" (.refused (.unexpectedEnd ⟨0, 2⟩)) := by
    have hscan : scan "b >" = .ok [⟨.identifier, "b", ⟨0, 0⟩⟩, ⟨.operator .gt, ">", ⟨0, 2⟩⟩] := by
      decide +kernel
    exact .refused hscan rfl
  have hassign : ReadsAlone "b = a"
      (.statement (.assignment "b" (.identifier "a" ⟨0, 4⟩) ⟨0, 2⟩)) := by
    have hscan : scan "b = a" = .ok [⟨.identifier, "b", ⟨0, 0⟩⟩, ⟨.assign, "=", ⟨0, 2⟩⟩,
        ⟨.identifier, "a", ⟨0, 4⟩⟩] := by decide +kernel
    exact .statement hscan rfl rfl
  have hblank : ReadsAlone "" .blank := .blank (by decide +kernel)
  refine ⟨?_, ?_, ?_⟩
  · have hfaulty : scan "2 $ 3" = .error ⟨.unexpectedCharacter '$', ⟨0, 2⟩⟩ := by decide +kernel
    have hlines : linesAlone "a\n2 $ 3\n#" = ["a", "2 $ 3", "#"] := by decide +kernel
    apply (parse_lines_independent "a\n2 $ 3\n#").1 1 "2 $ 3" _ (by rw [hlines]; rfl) hfaulty
    rw [hlines]
    exact exists_scan_of_readsAlone (.cons ha .nil)
  · have hlines : linesAlone "a\n(b\n\nb >" = ["a", "(b", "", "b >"] := by decide +kernel
    obtain ⟨tokens, hscan, hrefused, _⟩ := (parse_lines_independent "a\n(b\n\nb >").2.2 _ (by
      rw [hlines]
      exact .cons ha (.cons hopen (.cons hblank (.cons hend .nil))))
    exact ⟨tokens, hscan, (hrefused (List.cons_ne_nil _ _)).1⟩
  · have hlines : linesAlone "\na\n\nb = a" = ["", "a", "", "b = a"] := by decide +kernel
    obtain ⟨tokens, hscan, _, hprogram⟩ := (parse_lines_independent "\na\n\nb = a").2.2 _ (by
      rw [hlines]
      exact .cons hblank (.cons ha (.cons hblank (.cons hassign .nil))))
    obtain ⟨program, hparse, hstatements, _, hlocation⟩ := hprogram rfl
    exact ⟨tokens, program, hscan, hparse, hstatements, (Option.some.inj (hlocation _ rfl)).symm⟩

end Calculator
