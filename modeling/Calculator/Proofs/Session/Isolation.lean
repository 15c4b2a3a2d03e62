import Mathlib.Data.List.DropRight
import Calculator.Workspace
import Calculator.Proofs.Session.Atomicity

/-! # Sessions are kept apart

What a session answers depends on the commands on it and on the constants registered before, and on
no other session. The constants depend on the registrations alone, of which the first for each name
counts. The value of a session can be told from its own answers.
-/
namespace Calculator

namespace Command

/-- A command that can matter to a session is on this session, or registers a constant. -/
def concerns (name : String) : Command → Bool
  | act session _ => decide (session = name)
  | register .. => true

def isRegistration : Command → Bool
  | act .. => false
  | register .. => true

def constant? : Command → Option (String × Float)
  | act .. => none
  | register name value => some (name, value)

end Command

def registrations (commands : List Command) : List (String × Float) :=
  commands.filterMap Command.constant?

theorem registrations_filter_isRegistration (commands : List Command) :
    registrations (commands.filter Command.isRegistration) = registrations commands := by
  rw [registrations, List.filterMap_filter, registrations]
  congr 1
  funext command
  cases command <;> rfl

abbrev Episode := SessionAction × SessionReply

namespace Episode

def renews : Episode → Bool
  | (.renew, _) => true
  | _ => false

def results? (episode : Episode) : Option (List Float) :=
  episode.2.outcome.bind Except.toOption

end Episode

/-- The last result of the latest successful run since the latest renewal, if there are both. -/
def latestValue (history : List Episode) : Option Float :=
  ((history.rtakeWhile (!·.renews)).filterMap Episode.results?).getLast?.bind List.getLast?

theorem latestValue_concat_of_renews {episode : Episode} (h : episode.renews = true)
    (history : List Episode) : latestValue (history ++ [episode]) = none := by
  rw [latestValue, List.rtakeWhile_concat_neg _ _ _ (by simp [h])]
  rfl

theorem latestValue_concat {episode : Episode} (h : episode.renews = false)
    (history : List Episode) :
    latestValue (history ++ [episode]) =
      match episode.results? with
      | some results => results.getLast?
      | none => latestValue history := by
  rw [latestValue, List.rtakeWhile_concat_pos _ _ _ (by simp [h]), List.filterMap_append]
  cases hresults : episode.results? with
  | some results => simp [hresults]
  | none => simp [hresults, latestValue]

theorem Session.value_run (session : Session) (source : String) :
    (session.run source).session.value =
      match (session.run source).result with
      | .ok results => results.getLast?
      | .error _ => session.value := by
  rcases session.run_cases source with ⟨hresult, hsession⟩ | ⟨tokens, statements, h⟩
  · rw [hsession]
    rcases hresult with ⟨e, hresult⟩ | ⟨e, hresult⟩ <;> rw [hresult]
  · cases hresult : (session.run source).result with
    | ok results => exact h.value_of_ok results hresult
    | error e => exact h.value_of_error e hresult

theorem SessionAction.value_perform (action : SessionAction) (constants : SymbolTable)
    {session : Session} {history : List Episode} (h : session.value = latestValue history) :
    (action.perform constants session).session.value =
      latestValue (history ++ [(action, action.perform constants session)]) := by
  cases action with
  | run source =>
    rw [latestValue_concat rfl]
    simp only [perform, Episode.results?, Option.bind_some, session.value_run source]
    cases (session.run source).result with
    | ok results => rfl
    | error e => exact h
  | renew =>
    rw [latestValue_concat_of_renews rfl]
    rfl
  | set | unset =>
    rw [latestValue_concat rfl]
    exact h

namespace Workspace

/-- Commands with the replies to them. -/
def transcript (workspace : Workspace) (commands : List Command) : List (Command × Reply) :=
  commands.zip (workspace.runAll commands).1

theorem transcript_cons (workspace : Workspace) (command : Command) (rest : List Command) :
    workspace.transcript (command :: rest) =
      (command, (workspace.step command).1) :: (workspace.step command).2.transcript rest := rfl

theorem runAll_cons_snd (workspace : Workspace) (command : Command) (rest : List Command) :
    (workspace.runAll (command :: rest)).2 = ((workspace.step command).2.runAll rest).2 := rfl

theorem runAll_concat_snd (workspace : Workspace) (commands : List Command) (command : Command) :
    (workspace.runAll (commands ++ [command])).2 = ((workspace.runAll commands).2.step command).2 := by
  induction commands generalizing workspace with
  | nil => rfl
  | cons first rest ih => exact ih _

theorem transcript_concat (workspace : Workspace) (commands : List Command) (command : Command) :
    workspace.transcript (commands ++ [command]) =
      workspace.transcript commands ++ [(command, ((workspace.runAll commands).2.step command).1)] := by
  induction commands generalizing workspace with
  | nil => rfl
  | cons first rest ih => rw [List.cons_append, transcript_cons, ih, transcript_cons]; rfl

/-! ## What a command leaves alone -/

theorem constants_step_act (workspace : Workspace) (session : String) (action : SessionAction) :
    (workspace.step (.act session action)).2.constants = workspace.constants := rfl

theorem step_register_of_some {workspace : Workspace} {name : String} {former : Float}
    (h : workspace.constants.get? name = some former) (value : Float) :
    workspace.step (.register name value) =
      (.register (some ⟨name⟩) workspace.constants, workspace) := by
  simp [step, registerConstant, h]

theorem step_register_of_none {workspace : Workspace} {name : String}
    (h : workspace.constants.get? name = none) (value : Float) :
    workspace.step (.register name value) =
      (.register none (workspace.constants.insert name value),
        { workspace with constants := workspace.constants.insert name value }) := by
  simp [step, registerConstant, h]

theorem sessions_step_register (workspace : Workspace) (name : String) (value : Float) :
    (workspace.step (.register name value)).2.sessions = workspace.sessions := by
  cases h : workspace.constants.get? name with
  | some former => rw [step_register_of_some h]
  | none => rw [step_register_of_none h]

/-- Two workspaces that a session cannot tell apart. -/
structure SameFor (name : String) (left right : Workspace) : Prop where
  constants_eq : left.constants = right.constants
  session_eq : left.sessions.get? name = right.sessions.get? name

variable {name : String} {left right : Workspace}

theorem SameFor.sessionOf_eq (h : SameFor name left right) :
    left.sessionOf name = right.sessionOf name := by
  rw [sessionOf, sessionOf, h.session_eq, h.constants_eq]

/-- A command that concerns the session has the same reply and leaves nothing to tell apart. -/
theorem SameFor.step (h : SameFor name left right) {command : Command}
    (hconcerns : command.concerns name = true) :
    (left.step command).1 = (right.step command).1 ∧
      SameFor name (left.step command).2 (right.step command).2 := by
  cases command with
  | act session action =>
    obtain rfl : session = name := of_decide_eq_true hconcerns
    simp only [Workspace.step, h.sessionOf_eq, h.constants_eq]
    refine ⟨trivial, rfl, ?_⟩
    rw [NameMap.get?_insert_self, NameMap.get?_insert_self]
  | register constant value =>
    cases hget : right.constants.get? constant with
    | some former =>
      have hleft : left.constants.get? constant = some former := by rw [h.constants_eq, hget]
      rw [step_register_of_some hget, step_register_of_some hleft, h.constants_eq]
      exact ⟨rfl, h⟩
    | none =>
      have hleft : left.constants.get? constant = none := by rw [h.constants_eq, hget]
      rw [step_register_of_none hget, step_register_of_none hleft, h.constants_eq]
      exact ⟨rfl, rfl, h.session_eq⟩

theorem SameFor.step_left (h : SameFor name left right) {command : Command}
    (hconcerns : command.concerns name = false) : SameFor name (left.step command).2 right := by
  cases command with
  | act session action =>
    have hne : session ≠ name := of_decide_eq_false hconcerns
    exact ⟨h.constants_eq, (NameMap.get?_insert_of_ne _ hne _).trans h.session_eq⟩
  | register => cases hconcerns

theorem SameFor.runAll (h : SameFor name left right) (commands : List Command) :
    (left.transcript commands).filter (·.1.concerns name) =
        right.transcript (commands.filter (Command.concerns name)) ∧
      SameFor name (left.runAll commands).2
        (right.runAll (commands.filter (Command.concerns name))).2 := by
  -- Both workspaces take a command that concerns the session, the left one alone takes any other.
  induction commands generalizing left right with
  | nil => exact ⟨rfl, h⟩
  | cons command rest ih =>
    rw [transcript_cons, runAll_cons_snd]
    cases hconcerns : command.concerns name with
    | true =>
      obtain ⟨hreply, hnext⟩ := h.step hconcerns
      obtain ⟨hrest, hlast⟩ := ih hnext
      rw [List.filter_cons_of_pos (by exact hconcerns), List.filter_cons_of_pos hconcerns,
        transcript_cons, runAll_cons_snd, hreply, hrest]
      exact ⟨rfl, hlast⟩
    | false =>
      rw [List.filter_cons_of_neg (by simp [hconcerns]), List.filter_cons_of_neg (by simp [hconcerns])]
      exact ih (h.step_left hconcerns)

theorem get?_constants_runAll (workspace : Workspace) (commands : List Command) (constant : String) :
    (workspace.runAll commands).2.constants.get? constant =
      (workspace.constants.get? constant).or ((registrations commands).lookup constant) := by
  induction commands generalizing workspace with
  | nil => simp [runAll, registrations]
  | cons command rest ih =>
    rw [runAll_cons_snd, ih]
    cases command with
    | act session action => rw [constants_step_act]; rfl
    | register name value =>
      have hcons : registrations (.register name value :: rest) =
          (name, value) :: registrations rest := rfl
      rw [hcons, List.lookup_cons]
      by_cases heq : constant = name
      · subst heq
        cases hget : workspace.constants.get? constant with
        | some former => simp [step_register_of_some hget, hget]
        | none => simp [step_register_of_none hget]
      · have hother : (constant == name) = false := beq_eq_false_iff_ne.mpr heq
        cases hget : workspace.constants.get? name with
        | some former => rw [step_register_of_some hget, hother]
        | none =>
          rw [step_register_of_none hget, NameMap.get?_insert_of_ne _ (Ne.symm heq), hother]

theorem isSome_constants_runAll (commands : List Command) (constant : String) :
    ((initial.runAll commands).2.constants.get? constant).isSome = true ↔
      constant = "PI" ∨ constant = "E" ∨ constant ∈ (registrations commands).map Prod.fst := by
  have hbuiltin : (builtinConstants.get? constant).isSome = true ↔ constant = "PI" ∨ constant = "E" := by
    simp only [builtinConstants, NameMap.ofList, List.foldl_cons, List.foldl_nil,
      NameMap.get?_insert, NameMap.get?_empty]
    by_cases hE : constant = "E"
    · simp [hE]
    · by_cases hPI : constant = "PI"
      · simp [hPI]
      · simp [hE, hPI, Ne.symm hE, Ne.symm hPI]
  have hregistered : ((registrations commands).lookup constant).isSome = true ↔
      constant ∈ (registrations commands).map Prod.fst := by
    rw [List.lookup_isSome_iff, List.mem_map]
    refine exists_congr fun entry => and_congr_right fun _ => ?_
    rw [beq_iff_eq, eq_comm]
  rw [get?_constants_runAll, Option.isSome_or, Bool.or_eq_true, ← or_assoc, ← hregistered]
  exact or_congr_left hbuiltin

/-- The constants depend on the registrations alone. -/
theorem constants_runAll_eq (workspace : Workspace) {commands others : List Command}
    (h : registrations commands = registrations others) :
    (workspace.runAll commands).2.constants = (workspace.runAll others).2.constants := by
  ext1 constant
  rw [get?_constants_runAll, get?_constants_runAll, h]

theorem step_register (commands : List Command) (constant : String) (value : Float) :
    (initial.runAll commands).2.step (.register constant value) =
      if constant = "PI" ∨ constant = "E" ∨ constant ∈ (registrations commands).map Prod.fst then
        (.register (some ⟨constant⟩) (initial.runAll commands).2.constants,
          (initial.runAll commands).2)
      else
        (.register none ((initial.runAll commands).2.constants.insert constant value),
          { (initial.runAll commands).2 with
            constants := (initial.runAll commands).2.constants.insert constant value }) := by
  have htaken := isSome_constants_runAll commands constant
  cases hget : (initial.runAll commands).2.constants.get? constant with
  | some former => rw [if_pos (htaken.mp (by rw [hget]; rfl)), step_register_of_some hget]
  | none => rw [if_neg (mt htaken.mpr (by simp [hget])), step_register_of_none hget]

/-! ## The history of a session -/

/-- What was done with a session and what it answered, in order. -/
def historyOf (name : String) (transcript : List (Command × Reply)) : List Episode :=
  transcript.filterMap fun
    | (.act session action, .session reply) =>
      if session = name then some (action, reply) else none
    | _ => none

theorem isSome_sessions_runAll (commands : List Command) (name : String) :
    ((initial.runAll commands).2.sessions.get? name).isSome = true ↔
      ∃ action, .act name action ∈ commands := by
  induction commands using List.reverseRecOn with
  | nil => simp [runAll, initial]
  | append_singleton commands command ih =>
    rw [runAll_concat_snd]
    generalize (initial.runAll commands).2 = workspace at ih ⊢
    cases command with
    | register constant value => simp [sessions_step_register, ih]
    | act session action =>
      by_cases heq : session = name
      · subst heq
        simp [step]
      · simp [step, NameMap.get?_insert_of_ne _ heq, ih, Ne.symm heq]

theorem value_sessionOf (workspace : Workspace) (name : String) :
    (workspace.sessionOf name).value = (workspace.sessions.get? name).bind Session.value := by
  rw [sessionOf]
  cases workspace.sessions.get? name <;> rfl

theorem value_runAll (commands : List Command) (name : String) :
    ((initial.runAll commands).2.sessions.get? name).bind Session.value =
      latestValue (historyOf name (initial.transcript commands)) := by
  induction commands using List.reverseRecOn with
  | nil => rfl
  | append_singleton commands command ih =>
    rw [runAll_concat_snd, transcript_concat, historyOf, List.filterMap_append, ← historyOf]
    generalize (initial.runAll commands).2 = workspace at ih ⊢
    cases command with
    | register constant value =>
      rw [sessions_step_register, ih]
      simp only [step]
      cases registerConstant workspace.constants constant value <;> simp
    | act session action =>
      by_cases heq : session = name
      · subst heq
        rw [← value_sessionOf] at ih
        simpa [step] using action.value_perform workspace.constants ih
      · simp [step, heq, NameMap.get?_insert_of_ne, ih]

/-- Sessions are kept apart. After any commands the replies that concern a session, and the session
itself, are what they are without the commands on other sessions; a session that was not mentioned
would begin with the constants of the moment and no value. The constants are told by the
registrations alone: the first for a name counts, and one for a name that is taken is refused and
changes nothing. No session changes the constants, and no registration a session. The value of a
session is the last result of its latest successful run since it was created or renewed. -/
theorem sessions_isolated (commands : List Command) (name : String) :
    let last := (initial.runAll commands).2
    let kept := commands.filter (Command.concerns name)
    (initial.transcript commands).filter (·.1.concerns name) = initial.transcript kept ∧
    last.sessions.get? name = (initial.runAll kept).2.sessions.get? name ∧
    ((last.sessions.get? name).isSome = true ↔ ∃ action, .act name action ∈ commands) ∧
    ((∀ action, .act name action ∉ commands) → last.sessionOf name = ⟨last.constants, none⟩) ∧
    last.constants = (initial.runAll (commands.filter Command.isRegistration)).2.constants ∧
    (∀ constant, last.constants.get? constant =
      (builtinConstants.get? constant).or ((registrations commands).lookup constant)) ∧
    (∀ constant value, last.step (.register constant value) =
      if constant = "PI" ∨ constant = "E" ∨ constant ∈ (registrations commands).map Prod.fst then
        (.register (some ⟨constant⟩) last.constants, last)
      else
        (.register none (last.constants.insert constant value),
          { last with constants := last.constants.insert constant value })) ∧
    (∀ session action, (last.step (.act session action)).2.constants = last.constants) ∧
    (∀ constant value, (last.step (.register constant value)).2.sessions = last.sessions) ∧
    ∀ session ∈ last.sessions.get? name,
      session.value = latestValue (historyOf name (initial.transcript commands)) := by
  intro last kept
  have hstart : SameFor name initial initial := ⟨rfl, rfl⟩
  obtain ⟨htranscript, hsame⟩ := hstart.runAll commands
  refine ⟨htranscript, hsame.session_eq, isSome_sessions_runAll commands name, ?_, ?_,
    get?_constants_runAll initial commands, step_register commands, fun _ _ => rfl,
    sessions_step_register last, ?_⟩
  · intro hnone
    have hget : last.sessions.get? name = none := by
      rw [← Option.not_isSome_iff_eq_none, isSome_sessions_runAll]
      rintro ⟨action, haction⟩
      exact hnone action haction
    rw [sessionOf, hget]
    rfl
  · exact constants_runAll_eq initial (registrations_filter_isRegistration commands).symm
  · intro session hsession
    have hget : (initial.runAll commands).2.sessions.get? name = some session := hsession
    rw [← value_runAll, hget]
    rfl

def turns (k other : Float) : List Command :=
  [.act "a" (.set "y" other), .register "K" k, .act "b" (.run "x = K"), .register "K" other,
    .act "a" (.run "K"), .act "b" (.run "x = y"), .register "PI" other, .act "a" .renew,
    .act "b" (.unset "x")]

theorem sessions_isolated_turns :
    let last := (initial.runAll (turns 2.0 3.0)).2
    last.sessions.get? "b" = (initial.runAll [.register "K" 2.0, .act "b" (.run "x = K"),
      .register "K" 3.0, .act "b" (.run "x = y"), .register "PI" 3.0,
      .act "b" (.unset "x")]).2.sessions.get? "b" ∧
    (∃ session, last.sessions.get? "b" = some session ∧ session.value = some 2.0) ∧
    last.sessionOf "c" = ⟨last.constants, none⟩ ∧
    last.constants.get? "K" = some 2.0 ∧
    last.step (.register "PI" 4.0) = (.register (some ⟨"PI"⟩) last.constants, last) := by
  let session : Session := .new (builtinConstants.insert "K" 2.0)
  have hfirst : scan "x = K" = .ok [⟨.identifier, "x", ⟨0, 0⟩⟩, ⟨.assign, "=", ⟨0, 2⟩⟩,
      ⟨.identifier, "K", ⟨0, 4⟩⟩] := by decide +kernel
  have hsecond : scan "x = y" = .ok [⟨.identifier, "x", ⟨0, 0⟩⟩, ⟨.assign, "=", ⟨0, 2⟩⟩,
      ⟨.identifier, "y", ⟨0, 4⟩⟩] := by decide +kernel
  have hK : session.table.get? "K" = some 2.0 := rfl
  have hy : (session.table.insert "x" 2.0).get? "y" = none := rfl
  have hresults : (session.run "x = K").result = .ok [2.0] := by
    simp only [session.run_eq_evaluate hfirst rfl, Session.evaluate, Program.evaluate,
      Program.ofStatements, Node.evaluateAll_assigned hK, Node.evaluateAll_nil, Except.map]
  have herror : ((session.run "x = K").session.run "x = y").result =
      .error (.eval (.undefined "y" ⟨0, 4⟩)) := by
    simp only [session.run_eq_evaluate hfirst rfl, Session.run_eq_evaluate _ hsecond rfl,
      Session.evaluate, Program.evaluate, Program.ofStatements, Node.evaluateAll_assigned hK,
      Node.evaluateAll_assigned_undefined hy, Node.evaluateAll_nil, Except.map]
  have hhistory : historyOf "b" (initial.transcript (turns 2.0 3.0)) =
      [(.run "x = K", SessionAction.perform _ session (.run "x = K"))] ++
      [(.run "x = y", SessionAction.perform _ (session.run "x = K").session (.run "x = y"))] ++
      [(.unset "x", _)] := rfl
  have hlatest : latestValue (historyOf "b" (initial.transcript (turns 2.0 3.0))) = some 2.0 := by
    rw [hhistory, latestValue_concat rfl]
    simp only [Episode.results?, SessionAction.perform, Option.bind_none]
    rw [latestValue_concat rfl]
    simp only [Episode.results?, Option.bind_some, herror, Except.toOption]
    rw [← List.nil_append [_], latestValue_concat rfl]
    simp only [Episode.results?, Option.bind_some, hresults, Except.toOption]
    rfl
  intro last
  obtain ⟨_, hkept, hexists, _, _, hconstants, hregister, _, _, hvalue⟩ :=
    sessions_isolated (turns 2.0 3.0) "b"
  obtain ⟨_, _, _, hfresh, _⟩ := sessions_isolated (turns 2.0 3.0) "c"
  obtain ⟨session, hsession⟩ := Option.isSome_iff_exists.mp
    (hexists.mpr ⟨.run "x = K", by simp [turns]⟩)
  refine ⟨hkept, ⟨session, hsession, ?_⟩, hfresh (by simp [turns]), hconstants "K",
    hregister "PI" 4.0⟩
  rw [hvalue session hsession]
  exact hlatest

end Workspace

end Calculator
