import Chatflow.Proofs.AgentTurns
import Chatflow.Proofs.InProcessStore
import Chatflow.Proofs.ReplyRuns

/-! Two workers that have read one version of a session. A swap asks for no more than the step at which the session
stands, so it notices another worker's change only if this one has left that step. -/

namespace Chatflow.Proofs.RacingWorkers
open Conversation Interpreter AgentTurns SessionTable StoredSessions InProcessStore ReplyRuns WorkLogic

variable {t : SessionTable} {s : Session}

/-- What a worker makes of a session: a run, or a turn of the agent that owns it. -/
inductive Result where
  | run (r : RunResult)
  | turn (ended : Bool) (updated : Session)

def Result.change : Result → Change
  | run r => savedChange r.session
  | turn _ updated => turnChange updated

/-- Whether the session is left at the step at which it was read: a run parks it there again, or the agent goes on. -/
def Result.Stays (s : Session) : Result → Prop
  | run r => r.session.currentStep = s.currentStep
  | turn ended _ => ended = false

/-- The results that can be computed from a session: of a reply, of a wait that is over, or of a turn that did not
fail. -/
inductive Computed (s : Session) : Result → Prop where
  | reply {f e r} (answers : Answers f s e s.currentStep r) : Computed s (.run r)
  | dueWait {f options now rolls rest r} (ran : run f options now s rolls s.resumeStep = (.ok r, rest)) :
      Computed s (.run r)
  | turn {setup agent message outside after updated} {turn : Delegate.Outcome} (replied : turn.failed = false)
      (took : Delegate.handleTurn setup s agent message outside = (.ok (turn, updated), after)) :
      Computed s (.turn turn.ended updated)

theorem Computed.stays_iff {result : Result} (computed : Computed s result) (active : s.isActive = true) :
    result.Stays s ↔ result.change.step = s.currentStep := by
  cases computed with
  | reply | dueWait => exact Iff.rfl
  | turn replied took =>
    rcases handleTurn_session took with ⟨failed, _⟩ | ⟨_, taken⟩
    · rw [replied] at failed
      cases failed
    · simp only [Result.Stays, Result.change, turnChange]
      generalize Delegate.Outcome.ended _ = ended at taken
      cases taken with
      | goesOn vars => exact iff_of_true rfl rfl
      | ends vars =>
        refine iff_of_false Bool.noConfusion fun gone => ?_
        simp [Session.isActive, ← gone, Delegate.endAssignment] at active

theorem swap_accepted {id : String} {expected : Option String} (stored : t.get? id = some s)
    (place : s.currentStep = expected) (now : Instant) (change : Change) :
    t.swap now id expected change = (true, t.put (change.apply now s)) := by
  have stands : t.standsAt? id expected = some s := by
    simp only [standsAt?, stored, Option.filter_some, place, beq_self_eq_true, if_true]
  simp only [SessionTable.swap, stands]

theorem swap_refused {id : String} {expected : Option String} (stored : t.get? id = some s)
    (elsewhere : s.currentStep ≠ expected) (now : Instant) (change : Change) :
    t.swap now id expected change = (false, t) := by
  have stands : t.standsAt? id expected = none := by
    simp only [standsAt?, stored, Option.filter_some, beq_eq_false_iff_ne.mpr elsewhere, Bool.false_eq_true, if_false]
  simp only [SessionTable.swap, stands]

/-- Two workers read a session as it is stored and compute a result each. The first swap is accepted; the second one is
accepted as well exactly if the first result has left the session at the step at which it was read. If it is refused,
the first result stands; if it is accepted, what it puts over the first result was computed without it, and the
variables are those of the second result alone. -/
theorem second_swap_accepted_iff_first_stays {first second : Result} (sound : Sound t)
    (stored : t.get? s.id = some s) (active : s.isActive = true) (computed : Computed s first) (now later : Instant) :
    let (accepted, middle) := t.swap now s.id s.currentStep first.change
    let (again, final) := middle.swap later s.id s.currentStep second.change
    accepted = true ∧ (again = true ↔ first.Stays s) ∧
    (again = false → final = middle ∧ final.get? s.id = some (first.change.apply now s)) ∧
    (again = true → final.get? s.id = some (second.change.apply later (first.change.apply now s)) ∧
      (final.get? s.id).map Session.vars = some second.change.vars) := by
  have found : (t.put (first.change.apply now s)).get? s.id = some (first.change.apply now s) :=
    (sound.apply (get?_mem stored) first.change now).get?_put
  rw [swap_accepted stored rfl]
  dsimp only
  by_cases stays : first.change.step = s.currentStep
  · rw [swap_accepted found stays]
    have final := ((sound.apply (get?_mem stored) first.change now).apply (get?_mem found) second.change later).get?_put
    refine ⟨rfl, iff_of_true rfl ((computed.stays_iff active).mpr stays), fun no => Bool.noConfusion no, fun _ => ?_⟩
    exact ⟨final, congrArg (Option.map Session.vars) final⟩
  · rw [swap_refused found stays]
    have moved := mt (computed.stays_iff active).mp stays
    exact ⟨rfl, iff_of_false Bool.false_ne_true moved, fun _ => ⟨rfl, found⟩, fun yes => Bool.noConfusion yes⟩

theorem swap_answers {setup : Setup} (inProcess : setup.hasDatabase = false) {now : Instant}
    (clock : setup.utcNow = .ok now) (id : String) (expected : Option String) (change : Change) (w : World) :
    ∃ accepted, (Store.swap setup id expected change w).1 = .ok accepted := by
  have acts : ∃ after, Store.interfere setup id w = (.ok (), after) := by
    rw [interfere_apply, clock]
    cases w.foreign.head?.join with
    | none => exact ⟨_, rfl⟩
    | some write => exact ⟨_, rfl⟩
  obtain ⟨after, acted⟩ := acts
  rw [swap_apply inProcess, acted, clock]
  dsimp only
  cases after.table.standsAt? id expected with
  | none => exact ⟨false, rfl⟩
  | some s => exact ⟨true, rfl⟩

/-- What an agent replies is told whether or not the turn could be saved. -/
theorem agent_turn_told_either_way {setup : Setup} (inProcess : setup.hasDatabase = false) {now : Instant}
    (clock : setup.utcNow = .ok now) {e : Event} {w : World} {agent : Option Agent} {turn : Delegate.Outcome}
    {updated : Session} {outside : Outside} (owner : ownerOf setup s w = (.ok agent, w))
    (took : Delegate.handleTurn setup s agent (.str e.answer) w.outside = (.ok (turn, updated), outside)) :
    (continueWithAgent setup s e w).1 =
      .ok ⟨turnStatus turn, [s.id], if turn.reply = "" then [] else [textFor s turn.reply]⟩ := by
  have handled : continueWithAgent.handle (Delegate.handleTurn setup s agent (.str e.answer)) w =
      (.ok (turn, updated), { w with outside := outside }) := by
    simp only [continueWithAgent.handle, Work.tryOutside, ExceptT.run, took]
  simp only [continueWithAgent, bind_apply, owner, handled]
  cases turn.failed with
  | true => rfl
  | false =>
    obtain ⟨accepted, answer⟩ := swap_answers inProcess clock updated.id s.currentStep (turnChange updated)
      { w with outside := outside }
    simp only [Bool.not_false, if_true, bind_apply]
    rcases swapped : Store.swap setup updated.id s.currentStep (turnChange updated) { w with outside := outside } with
      ⟨result, after⟩
    rw [swapped] at answer
    dsimp only at answer
    rw [answer]
    rfl

theorem pieces_of_plain {cs : List Char} (plain : cs.all (· != '\x7b') = true) :
    Template.pieces cs = cs.map Template.Piece.literal := by
  induction cs with
  | nil => unfold Template.pieces; rfl
  | cons c rest ih =>
    simp only [List.all_cons, Bool.and_eq_true, bne_iff_ne] at plain
    obtain ⟨here, later⟩ := plain
    have none_here : Template.placeholder? (c :: rest) = none := by
      unfold Template.placeholder?
      split
      next inner same => exact absurd (List.cons.inj same).1 here
      next => rfl
    unfold Template.pieces
    split
    next key rest found => rw [none_here] at found; cases found
    next => rw [ih later, List.map_cons]

theorem fill_plain {text : String} (plain : text.toList.all (· != '\x7b') = true) (vars : Fields) :
    Template.fill vars text = .ok text := by
  have filled : (text.toList.map Template.Piece.literal).all (Template.Piece.isFillable vars) = true := by
    simp [Template.Piece.isFillable]
  have rendered : (text.toList.map Template.Piece.literal).flatMap (Template.Piece.fill vars) = text.toList := by
    simp [Template.Piece.fill, List.flatMap_map]
  simp only [Template.fill, Template.render, pieces_of_plain plain, filled, if_true, rendered, String.ofList_toList]

def question : Step := ⟨"ask", .question { text := "Anything else?" }⟩

/-- A flow of one question, which leads back to itself. -/
def survey : Flow := { id := "survey", steps := [question], connections := [⟨"c", "ask", "ask", none, none⟩] }

theorem survey_effect (now : Instant) (s : Session) (rolls : List Float) :
    effectOf survey {} now question s rolls =
      (.ok ⟨s.park "ask", [⟨envelope "ask" (s.park "ask"), .message "Anything else?"⟩], .stop none⟩, rolls) := by
  have prompt : Template.fill s.vars "Anything else?" = .ok "Anything else?" := fill_plain rfl s.vars
  simp only [effectOf, question, prompt]
  rfl

theorem survey_resolves (reply : String) :
    Reply.resolve survey (some "ask") reply = .ok ⟨some "ask", .singleConnection, none⟩ := by
  have found : survey.step? "ask" = some question := rfl
  have leads : (survey.outgoing "ask").isEmpty = false := rfl
  have plain : Reply.asksChoice question = false := rfl
  have words : Reply.keywords [] ⟨"c", "ask", "ask", none, none⟩ = [] := by decide +kernel
  have unnamed : Reply.byKeyword survey question "ask" (Text.normalize reply) = none := by
    simp [Reply.byKeyword, Flow.outgoing, survey, question, Reply.options, words]
  simp only [Reply.resolve, Option.bind_some, found, Option.map_some, leads, Reply.byIndex, Reply.byId, plain,
    Bool.false_and, Bool.false_eq_true, if_false, unnamed]
  rfl

theorem survey_asks_again (s : Session) (e : Event) (place : s.currentStep = some "ask") :
    ∃ r, Answers survey s e s.currentStep r ∧ r.session.currentStep = s.currentStep ∧
      r.session.vars = s.vars.set "last_reply" (.str e.answer) := by
  let parked := ({ s with vars := s.vars.set "last_reply" (.str e.answer) } : Session).fresh.park "ask"
  let r : RunResult :=
    { actions := [⟨envelope "ask" parked, .message "Anything else?"⟩], session := { parked with updatedAt := ⟨5, 0⟩ },
      executed := ["question_simple"] }
  have ran : continueFromReply survey {} ⟨5, 0⟩ s [] (some "ask") (.str e.answer) (some "ask") none = (.ok r, []) := by
    have answered : answerAt survey (some "ask") (.str e.answer) none = .str e.answer := rfl
    have recorded : recordAnswer survey (some "ask") (.str e.answer) s.vars =
        s.vars.set "last_reply" (.str e.answer) := rfl
    have found : survey.step? "ask" = some question := rfl
    simp only [continueFromReply, answered, recorded, run, walk, found, survey_effect]
    rfl
  rw [place]
  exact ⟨r, ⟨_, {}, ⟨5, 0⟩, [], [], survey_resolves e.reply, by simp, ran⟩, rfl, rfl⟩

def surveyed : Session :=
  { id := "s1", address := "+5215512345678", flowId := "survey", currentStep := some "ask", createdAt := ⟨0, 0⟩,
    updatedAt := ⟨0, 0⟩ }

def surveys : SessionTable := ⟨[(surveyed.key, surveyed)]⟩

theorem surveys_sound : Sound surveys := ⟨by simp [surveys], by simp [surveys], by simp [surveys]⟩

/-- Both of two replies to a question that leads back to itself are taken, and the first one is lost. -/
theorem both_swaps_accepted_at_a_loop :
    ∃ first second, Computed surveyed (.run first) ∧ Computed surveyed (.run second) ∧
      let (accepted, middle) := surveys.swap ⟨5, 0⟩ "s1" (some "ask") (savedChange first.session)
      let (again, final) := middle.swap ⟨6, 0⟩ "s1" (some "ask") (savedChange second.session)
      accepted = true ∧ again = true ∧
      (middle.get? "s1").map Session.vars = some [("last_reply", .str "tea")] ∧
      (final.get? "s1").map Session.vars = some [("last_reply", .str "coffee")] := by
  obtain ⟨first, replied, stays, kept⟩ := survey_asks_again surveyed { address := "", text := "tea" } rfl
  obtain ⟨second, repliedToo, _, keptLast⟩ := survey_asks_again surveyed { address := "", text := "coffee" } rfl
  refine ⟨first, second, .reply replied, .reply repliedToo, ?_⟩
  let saved := (savedChange first.session).apply ⟨5, 0⟩ surveyed
  have here : surveys.get? "s1" = some surveyed := rfl
  have next : (surveys.put saved).get? "s1" = some saved := rfl
  have once : surveys.swap ⟨5, 0⟩ "s1" (some "ask") (savedChange first.session) = (true, surveys.put saved) :=
    swap_accepted here rfl _ _
  have twice : (surveys.put saved).swap ⟨6, 0⟩ "s1" (some "ask") (savedChange second.session) = (true, _) :=
    swap_accepted next stays _ _
  rw [once]
  dsimp only
  rw [twice]
  exact ⟨rfl, rfl, congrArg some kept, congrArg some keptLast⟩

theorem second_swap_at_a_loop_accepted :
    ∃ first second : Result, let (accepted, middle) := surveys.swap ⟨5, 0⟩ "s1" (some "ask") first.change
      accepted = true ∧ (middle.swap ⟨6, 0⟩ "s1" (some "ask") second.change).1 = true := by
  obtain ⟨first, replied, stays, _⟩ := survey_asks_again surveyed { address := "", text := "tea" } rfl
  obtain ⟨second, _⟩ := survey_asks_again surveyed { address := "", text := "coffee" } rfl
  obtain ⟨accepted, again, _⟩ := @second_swap_accepted_iff_first_stays surveys surveyed (.run first) (.run second)
    surveys_sound rfl rfl (.reply replied) ⟨5, 0⟩ ⟨6, 0⟩
  exact ⟨.run first, .run second, accepted, again.mpr stays⟩

end Chatflow.Proofs.RacingWorkers
