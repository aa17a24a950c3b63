import Chatflow.Proofs.ReplyRuns
import Chatflow.Proofs.SwapCounts

/-! Replies while others write. A reply is looked at in rounds: each reads the session, computes what the reply makes
of it and tries one swap, before which other writers may do anything to the record. -/

namespace Chatflow.Proofs.ReplyRounds
open Conversation Interpreter InProcessStore ReplyRuns SwapCounts WorkLogic

variable {setup : Setup} {e : Event}

structure Attempt where
  /-- The run to be saved; there is none if the session is only to be ended. -/
  run : Option RunResult
  /-- The record that the swap met. -/
  met : Option Session
  answer : Except Fault Bool
  after : World

def Attempt.accepted (a : Attempt) : Bool := a.answer matches .ok true

/-- One look at a reply: the session as it was read, and the swap that was tried with what came of it. -/
structure Round where
  read : Session
  attempt : Option Attempt := none

def attempt (setup : Setup) (s : Session) (run : Option RunResult) (swap : Work Bool) (w : World) : Attempt where
  run := run
  met := (Store.interfere setup s.id w).2.table.get? s.id
  answer := (swap w).1
  after := (swap w).2

/-- The rounds that a reply takes. -/
def rounds (setup : Setup) (e : Event) : Nat → Session → World → List Round
  | 0, _, _ => []
  | left + 1, s, w =>
    match w.catalogue.flow? s.flowId with
    | none => [⟨s, attempt setup s none (Store.swap setup s.id s.currentStep (missingFlowChange s)) w⟩]
    | some f =>
      if s.isAiAssigned || s.isWaiting then [⟨s, none⟩]
      else match runReply setup f s e w with
        | (.ok (some r), w) =>
          let tried := attempt setup s (some r) (commit setup s r) w
          ⟨s, some tried⟩ :: match tried.answer, (tried.after.table.get? s.id).filter Session.isActive with
            | .ok false, some current => rounds setup e left current tried.after
            | _, _ => []
        | _ => [⟨s, none⟩]

def attempts (history : List Round) : List Attempt := history.filterMap Round.attempt

/-- A swap is only accepted where the session still stands at the step that it was read at, and a run that it saves
was computed by resolving the reply there. -/
def Round.Consistent (c : Catalogue) (e : Event) (round : Round) : Prop :=
  ∀ a, round.attempt = some a → a.accepted = true →
    ∃ current, a.met = some current ∧ current.currentStep = round.read.currentStep ∧
      ∀ r, a.run = some r → ∃ f, c.flow? round.read.flowId = some f ∧ Answers f round.read e current.currentStep r

/-- What is told of the rounds of a reply. Nothing is told that was not saved, but that a reply cannot be read. -/
inductive Reports (setup : Setup) (w : World) (history : List Round) (o : Outcome) (after : World) : Prop where
  | saved {read a r more} (last : history.getLast? = some ⟨read, some a⟩) (accepted : a.accepted = true)
      (run : a.run = some r) (chain : Chain setup read.address a.after r more after)
      (once : (attempts history).countP Attempt.accepted = 1) (status : o.status = .continued)
      (actions : o.actions = (r :: more).flatMap RunResult.actions)
      (swaps : Swapped ((attempts history).length + more.length) w after)
  | unmatched {read} (last : history.getLast? = some ⟨read, none⟩) (status : o.status = .noMatch)
      (actions : o.actions = [textFor read Wording.invalidOption])
      (swaps : Swapped (attempts history).length w after)
  | silent (status : o.status ∈ [.waiting, .stale, .flowMissing]) (actions : o.actions = [])
      (swaps : Swapped (attempts history).length w after)

/-- The course of a reply that may be looked at so many times. Other sessions than the one replied to are only swapped
once a swap of this one was accepted. -/
structure Course (setup : Setup) (e : Event) (limit : Nat) (w : World) (history : List Round)
    (done : Except Fault Outcome × World) : Prop where
  few : (attempts history).length ≤ limit
  once : (attempts history).countP Attempt.accepted ≤ 1
  consistent : ∀ round ∈ history, round.Consistent w.catalogue e
  counted : ∃ others, Swapped ((attempts history).length + others) w done.2 ∧
    (0 < others → (attempts history).countP Attempt.accepted = 1)
  reports : ∀ o, done.1 = .ok o → Reports setup w history o done.2

theorem attempts_cons_length (read : Session) (a : Attempt) (history : List Round) :
    (attempts (⟨read, some a⟩ :: history)).length = 1 + (attempts history).length := by
  simp [attempts, Nat.add_comm]

/-- A round whose swap was refused adds nothing to what is told. -/
theorem Reports.cons {w middle after : World} {history : List Round} {o : Outcome} {read : Session} {a : Attempt}
    (refused : a.accepted = false) (swapped : Swapped 1 w middle) (reports : Reports setup middle history o after) :
    Reports setup w (⟨read, some a⟩ :: history) o after := by
  have longer := attempts_cons_length read a history
  cases reports with
  | saved last accepted run chain once status actions swaps =>
    refine .saved ?_ accepted run chain ?_ status actions ?_
    · rw [List.getLast?_cons, last]; rfl
    · simpa [attempts, refused] using once
    · rw [longer, Nat.add_assoc]; exact swapped.trans swaps
  | unmatched last status actions swaps =>
    refine .unmatched ?_ status actions ?_
    · rw [List.getLast?_cons, last]; rfl
    · rw [longer]; exact swapped.trans swaps
  | silent status actions swaps => exact .silent status actions (by rw [longer]; exact swapped.trans swaps)

theorem Course.cons {limit : Nat} {w middle : World} {history : List Round} {done : Except Fault Outcome × World}
    {read : Session} {a : Attempt} (refused : a.accepted = false) (swapped : Swapped 1 w middle)
    (course : Course setup e limit middle history done) :
    Course setup e (limit + 1) w (⟨read, some a⟩ :: history) done := by
  refine ⟨?_, ?_, ?_, ?_, ?_⟩
  · simpa [attempts] using course.few
  · simpa [attempts, refused] using course.once
  · intro round member
    rcases List.mem_cons.mp member with rfl | inside
    · intro other same accepted
      cases same
      rw [refused] at accepted
      cases accepted
    · rw [← swapped.catalogue]
      exact course.consistent round inside
  · obtain ⟨others, later, once⟩ := course.counted
    refine ⟨others, ?_, fun some => by simpa [attempts, refused] using once some⟩
    rw [attempts_cons_length, Nat.add_assoc]
    exact swapped.trans later
  · exact fun o told => (course.reports o told).cons refused swapped

theorem exactly {n : Nat} {w after : World} {fact : Prop} (swapped : Swapped n w after) :
    ∃ others, Swapped (n + others) w after ∧ (0 < others → fact) :=
  ⟨0, swapped, fun more => absurd more (Nat.lt_irrefl 0)⟩

/-- A round after which there is no other one. -/
theorem Course.last {limit : Nat} {w : World} {round : Round} {done : Except Fault Outcome × World}
    (consistent : round.Consistent w.catalogue e)
    (counted : ∃ others, Swapped ((attempts [round]).length + others) w done.2 ∧
      (0 < others → (attempts [round]).countP Attempt.accepted = 1))
    (reports : ∀ o, done.1 = .ok o → Reports setup w [round] o done.2) :
    Course setup e (limit + 1) w [round] done := by
  have few : (attempts [round]).length ≤ 1 := List.length_filterMap_le _ _
  refine ⟨Nat.le_trans few (Nat.succ_pos _), Nat.le_trans List.countP_le_length few, ?_, counted, reports⟩
  intro other member
  rw [List.mem_singleton.mp member]
  exact consistent

theorem Course.failed {limit : Nat} {w after : World} {round : Round} {fault : Fault}
    (consistent : round.Consistent w.catalogue e) (swapped : Swapped (attempts [round]).length w after) :
    Course setup e (limit + 1) w [round] (.error fault, after) := by
  refine .last consistent (exactly swapped) fun o told => ?_
  cases told

theorem Course.silent {limit : Nat} {w after : World} {round : Round} {o : Outcome}
    (consistent : round.Consistent w.catalogue e) (swapped : Swapped (attempts [round]).length w after)
    (status : o.status ∈ [.waiting, .stale, .flowMissing]) (actions : o.actions = []) :
    Course setup e (limit + 1) w [round] (.ok o, after) := by
  refine .last consistent (exactly swapped) fun told same => ?_
  cases same
  exact .silent status actions swapped

theorem Round.consistent_of_none {c : Catalogue} {read : Session} : (⟨read, none⟩ : Round).Consistent c e := by
  intro a tried
  cases tried

theorem rounds_head (left : Nat) (s : Session) (w : World) :
    ∃ tried rest, rounds setup e (left + 1) s w = ⟨s, tried⟩ :: rest := by
  unfold rounds
  split
  · exact ⟨_, _, rfl⟩
  · split
    · exact ⟨_, _, rfl⟩
    · split
      · exact ⟨_, _, rfl⟩
      · exact ⟨_, _, rfl⟩

theorem runReply_swapped (f : Flow) (s : Session) (w : World) : Swapped 0 w (runReply setup f s e w).2 := by
  simp only [runReply, bind_apply, Work.check]
  cases Reply.resolve f s.currentStep e.reply with
  | error fault => exact .refl w
  | ok resolution =>
    dsimp only
    split
    · exact .refl w
    · simp only [bind_apply, Work.check]
      cases runOptions setup with
      | error fault => exact .refl w
      | ok options =>
        cases setup.utcNow with
        | error fault => exact .refl w
        | ok now =>
          dsimp only
          generalize ran : running _ w = result
          have swapped := (running_swapped _ w).ending ran
          rcases result with ⟨_ | r, middle⟩
          · exact swapped
          · exact swapped

section
variable (inProcess : setup.hasDatabase = false)
include inProcess

theorem swap_accepted {id : String} {expected : Option String} {change : Change} {w : World}
    (accepted : (Store.swap setup id expected change w).1 = .ok true) :
    ∃ current, (Store.interfere setup id w).2.table.get? id = some current ∧ current.currentStep = expected := by
  rw [swap_apply inProcess] at accepted
  rcases acted : Store.interfere setup id w with ⟨_ | _, middle⟩ <;> rw [acted] at accepted <;> dsimp only at accepted ⊢
  · cases accepted
  · cases stands : middle.table.standsAt? id expected with
    | none => rw [stands] at accepted; cases accepted
    | some current =>
      obtain ⟨found, place⟩ := Option.filter_eq_some_iff.mp stands
      exact ⟨current, found, eq_of_beq place⟩

omit inProcess in
theorem attempt_accepted {s : Session} {run : Option RunResult} {swap : Work Bool} {w : World} :
    (attempt setup s run swap w).accepted = true ↔ (swap w).1 = .ok true := by
  unfold Attempt.accepted attempt
  split
  next same => exact iff_of_true rfl same
  next other => exact iff_of_false Bool.false_ne_true other

theorem saving_consistent {f : Flow} {s : Session} {r : RunResult} {c : Catalogue} {w : World}
    (known : c.flow? s.flowId = some f) (answers : Answers f s e s.currentStep r) :
    (⟨s, attempt setup s (some r) (commit setup s r) w⟩ : Round).Consistent c e := by
  intro a same accepted
  cases same
  have saved := attempt_accepted.mp accepted
  unfold commit at saved
  rw [answers.sameConversation.id] at saved
  obtain ⟨current, met, place⟩ := swap_accepted inProcess saved
  refine ⟨current, met, place, fun run same => ?_⟩
  cases same
  exact ⟨f, known, by rw [place]; exact answers⟩

theorem ending_consistent {s : Session} {c : Catalogue} {change : Change} {w : World} :
    (⟨s, attempt setup s none (Store.swap setup s.id s.currentStep change) w⟩ : Round).Consistent c e := by
  intro a same accepted
  cases same
  obtain ⟨current, met, place⟩ := swap_accepted inProcess (attempt_accepted.mp accepted)
  exact ⟨current, met, place, fun run same => by cases same⟩

/-- Once a run is saved, only the flows that it asks for are still to be started. -/
theorem Course.saved {limit : Nat} {s : Session} {r : RunResult} {a : Attempt} {w : World}
    (consistent : (⟨s, some a⟩ : Round).Consistent w.catalogue e) (accepted : a.accepted = true)
    (run : a.run = some r) (swapped : Swapped 1 w a.after) :
    Course setup e (limit + 1) w [⟨s, some a⟩]
      (follow setup s.address r ⟨.continued, [s.id], r.actions⟩ a.after) := by
  have once : (attempts [⟨s, some a⟩]).countP Attempt.accepted = 1 := by simp [attempts, accepted]
  obtain ⟨others, unsent⟩ := follow_unsent inProcess s.address r ⟨.continued, [s.id], r.actions⟩ a.after
  refine .last consistent ⟨others, swapped.trans unsent, fun _ => once⟩ fun o told => ?_
  obtain ⟨more, chain, status, actions⟩ := follow_chain inProcess (Prod.ext told rfl)
  exact .saved rfl accepted run chain once status actions (swapped.trans (chain.swapped inProcess))

/-- The course of a reply that is looked at once more. The induction is on how many looks are left. -/
theorem continueSession_course (left : Nat) (s : Session) (w : World)
    (unassigned : ∀ round ∈ rounds setup e left s w, round.read.isAiAssigned = false) :
    Course setup e left w (rounds setup e left s w) (continueSession setup e left s w) := by
  induction left generalizing s w with
  | zero =>
    exact ⟨Nat.le_refl _, Nat.zero_le _, by simp [rounds], exactly (.refl w), fun o told => by cases told⟩
  | succ left ih =>
    have free : s.isAiAssigned = false := by
      obtain ⟨tried, rest, same⟩ := rounds_head left s w
      exact unassigned ⟨s, tried⟩ (by rw [same]; exact List.mem_cons_self)
    simp only [continueSession, bind_apply, flow?_eq inProcess, Work.look]
    simp only [rounds] at unassigned ⊢
    cases known : w.catalogue.flow? s.flowId with
    | none =>
      have swapped := swap_swapped inProcess s.id s.currentStep (missingFlowChange s) w
      simp only [bind_apply]
      rcases done : Store.swap setup s.id s.currentStep (missingFlowChange s) w with ⟨_ | accepted, after⟩
      · exact .failed (ending_consistent inProcess) (swapped.ending done)
      · exact .silent (ending_consistent inProcess) (swapped.ending done) (by simp) rfl
    | some f =>
      simp only [known, free, Bool.false_or, Bool.false_eq_true, if_false] at unassigned ⊢
      cases waiting : s.isWaiting with
      | true =>
        simp only [if_true]
        exact .silent Round.consistent_of_none (.refl w) (by simp) rfl
      | false =>
        simp only [waiting, Bool.false_eq_true, if_false, bind_apply, tryReply] at unassigned ⊢
        have first := @runReply_swapped setup e f s w
        rcases ran : runReply setup f s e w with ⟨_ | _ | r, middle⟩ <;> rw [ran] at first
        · exact .failed Round.consistent_of_none first
        · refine .last Round.consistent_of_none (exactly first) fun o told => ?_
          cases told
          exact .unmatched rfl rfl rfl first
        · -- The run is saved by a swap. Only if this one is refused is there another look, and the induction goes on.
          have answers := runReply_answers (congrArg Prod.fst ran)
          have consistent := saving_consistent (w := middle) inProcess known answers
          simp only [ran, bind_apply] at unassigned ⊢
          rcases committed : commit setup s r middle with ⟨fault | accepted, after⟩
          all_goals
            have swapped := first.trans ((commit_swapped inProcess s r middle).ending committed)
            have answer := congrArg Prod.fst committed
            have later := congrArg Prod.snd committed
            dsimp only at answer later
          · simp only [attempt, answer] at consistent ⊢
            exact .failed consistent swapped
          · cases accepted with
            | false =>
              simp only [Bool.false_eq_true, if_false, pure_apply, get_eq inProcess, bind_apply, Work.look]
              simp only [attempt, answer, later] at consistent unassigned ⊢
              cases kept : (after.table.get? s.id).filter Session.isActive with
              | none => exact .silent consistent swapped (by simp) rfl
              | some current =>
                simp only [kept] at unassigned ⊢
                refine .cons rfl swapped (ih current after fun round inside => ?_)
                exact unassigned round (List.mem_cons_of_mem _ inside)
            | true =>
              simp only [if_true, bind_apply]
              simp only [attempt, answer, later] at consistent ⊢
              have saved : Course setup e (left + 1) w _
                  (follow setup s.address r ⟨.continued, [s.id], r.actions⟩ after) :=
                .saved inProcess consistent rfl rfl swapped
              rcases followed : follow setup s.address r ⟨.continued, [s.id], r.actions⟩ after with ⟨_ | o, final⟩
              all_goals
                rw [followed] at saved
                exact saved

/-- A reply to a session that no agent owns, whatever others write before each swap: no more swaps of the session are
tried than are allowed, at most one of them is accepted, and a run is only saved where its reply was resolved. Nothing
is sent meanwhile. The outcome says that the conversation was continued only if one swap was accepted; its actions
are those of the run that was saved and of the saved runs that it gave rise to, and those of refused runs are gone. -/
theorem reply_is_saved_at_most_once (s : Session) (w : World)
    (unassigned : ∀ round ∈ rounds setup e setup.settings.swapAttempts.toNat s w, round.read.isAiAssigned = false) :
    let history := rounds setup e setup.settings.swapAttempts.toNat s w
    let (result, after) := continueFrom setup s e w
    (attempts history).length ≤ setup.settings.swapAttempts.toNat ∧
    (attempts history).countP Attempt.accepted ≤ 1 ∧
    (∀ round ∈ history, round.Consistent w.catalogue e) ∧
    (∃ others, Swapped ((attempts history).length + others) w after ∧
      (0 < others → (attempts history).countP Attempt.accepted = 1)) ∧
    ∀ o, result = .ok o → Reports setup w history o after ∧
      (o.status = .continued → (attempts history).countP Attempt.accepted = 1) := by
  have course := continueSession_course inProcess _ s w unassigned
  refine ⟨course.few, course.once, course.consistent, course.counted, fun o same => ?_⟩
  have reports := course.reports o same
  refine ⟨reports, fun continued => ?_⟩
  cases reports with
  | saved _ _ _ _ once => exact once
  | unmatched _ status => rw [status] at continued; cases continued
  | silent status => rw [continued] at status; simp at status

end

def questions : Flow :=
  { id := "talk",
    steps := [⟨"first", .question { text := "How old are you?" }⟩,
      ⟨"last", .question { text := "And where do you live?" }⟩] }

def asked (step : String) : Session :=
  { id := "s1", address := "+5215512345678", flowId := "talk", currentStep := some step, createdAt := ⟨0, 0⟩,
    updatedAt := ⟨0, 0⟩ }

/-- A session at the first question, which another writer is about to move on. -/
def contested : World :=
  { table := ⟨[((asked "first").key, asked "first")]⟩, catalogue := Catalogue.ofLists [questions] [],
    foreign := [some (.swap (some "last") [] .active)] }

theorem contested_reply_is_saved_once :
    let history := rounds (aloneAt ⟨5, 0⟩) { address := "+5215512345678", text := "30" } 3 (asked "first") contested
    history.map (fun round => (round.read.currentStep, round.attempt.map Attempt.accepted)) =
      [(some "first", some false), (some "last", some true)] ∧
    (attempts history).length ≤ 3 ∧ (attempts history).countP Attempt.accepted ≤ 1 := by
  intro history
  have owners : history.map (fun round => round.read.isAiAssigned) = [false, false] := by
    simp only [history, rounds, runReply, bind_apply, runOptions_aloneAt]
    rfl
  have unassigned : ∀ round ∈ history, round.read.isAiAssigned = false := by
    intro round member
    have listed : round.read.isAiAssigned ∈ [false, false] := owners ▸ List.mem_map.mpr ⟨round, member, rfl⟩
    simpa using listed
  obtain ⟨few, once, _⟩ := @reply_is_saved_at_most_once (aloneAt ⟨5, 0⟩) _ rfl (asked "first") contested unassigned
  refine ⟨?_, few, once⟩
  simp only [history, rounds, runReply, bind_apply, runOptions_aloneAt]
  rfl

end Chatflow.Proofs.ReplyRounds
