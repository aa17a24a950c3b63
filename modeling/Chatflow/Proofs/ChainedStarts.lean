import Chatflow.Proofs.RunLengths
import Chatflow.Proofs.SessionCounts

/-! How many sessions are made by chained starts. Flows may start each other in circles, and steps may lead in circles as
well; the first are cut off by the length that a chain of flows may have, the second by the number of steps that a run may
take. -/

namespace Chatflow.Proofs.ChainedStarts
open Conversation Documents OutsideWork EventPaths CallCourses ResumedWaits InProcessStore RunEndings RunLengths
  ReachableStates SessionCounts Surroundings WorkLogic

variable {setup : Setup} {w : World}

theorem chainedFlow?_makes (r : Interpreter.RunResult) : MakesAtMost setup 0 (chainedFlow? setup r) := by
  unfold chainedFlow?
  split
  · exact (flow?_makes _).andThen fun found => .pure _
  · exact .pure none

theorem commit_makes (s : Session) (r : Interpreter.RunResult) : MakesAtMost setup 0 (commit setup s r) :=
  swap_makes _ _ _

theorem firstRun_makes (address : String) (f : Flow) (vars : Fields) (deviceId firstStep : Option String) :
    MakesAtMost setup 1 (firstRun setup address f vars deviceId firstStep) := by
  refine (create_makes _ _ _).bind (n := 0) fun s => (MakesAtMost.check _).andThen fun options => ?_
  refine (MakesAtMost.check _).andThen fun now => (MakesAtMost.running _).andThen fun r => ?_
  refine (commit_makes _ _).andThen fun accepted => ?_
  split
  · exact .pure _
  · exact .fail _

/-- A flow that is started makes a session, and those that it leads to one each. The induction is on how many more flows
the chain may have; how the flows lead to each other does not matter. -/
theorem start_makes (address : String) (left : Nat) (f : Flow) (vars : Fields) (deviceId firstStep : Option String) :
    MakesAtMost setup (left + 1) (start setup address left f vars deviceId firstStep) := by
  induction left generalizing f vars deviceId firstStep with
  | zero => exact (firstRun_makes address f vars deviceId firstStep).bind (n := 0) fun first => .pure _
  | succ left ih =>
    refine ((firstRun_makes address f vars deviceId firstStep).bind fun first => ?_).weaken
      (Nat.le_of_eq (Nat.add_comm 1 (left + 1)))
    refine (chainedFlow?_makes _).andThen fun next => ?_
    cases next with
    | none => exact .pure _
    | some next => exact (ih next _ none none).bind (n := 0) fun chained => .pure _

/-- A run that is taken on leaves one flow less for the chain. -/
theorem follow_makes (address : String) (r : Interpreter.RunResult) (o : Outcome) :
    MakesAtMost setup maxChained (follow setup address r o) := by
  refine (chainedFlow?_makes r).andThen fun next => ?_
  cases next with
  | none => exact .pure _
  | some next => exact (start_makes address (maxChained - 1) next _ none none).bind (n := 0) fun chained => .pure _

theorem startAll_makes (e : Event) (triggered : List (Flow × String)) (o : Outcome) :
    MakesAtMost setup (triggered.length * (maxChained + 1)) (startAll setup e triggered o) := by
  induction triggered generalizing o with
  | nil => exact .pure o
  | cons entry rest ih =>
    refine ((start_makes e.address maxChained entry.1 _ _ _).bind fun started => ih _).weaken ?_
    rw [List.length_cons, Nat.succ_mul]
    exact Nat.le_of_eq (Nat.add_comm _ _)

theorem runReply_makes (f : Flow) (s : Session) (e : Event) : MakesAtMost setup 0 (runReply setup f s e) := by
  refine (MakesAtMost.check _).andThen fun resolution => ?_
  split
  · exact .pure none
  · refine (MakesAtMost.check _).andThen fun options => (MakesAtMost.check _).andThen fun now => ?_
    exact (MakesAtMost.running _).andThen fun r => .pure _

theorem tryReply_makes (f : Flow) (s : Session) (e : Event) : MakesAtMost setup maxChained (tryReply setup f s e) := by
  refine (runReply_makes f s e).andThen fun found => ?_
  cases found with
  | none => exact .pure _
  | some r =>
    refine (commit_makes s r).andThen fun accepted => ?_
    cases accepted with
    | false => exact .pure none
    | true => exact (follow_makes _ _ _).bind (n := 0) fun o => .pure _

/-- A try at a reply that comes to nothing has made nothing. -/
theorem tryReply_refused {f : Flow} {s : Session} {e : Event} {after : World}
    (done : tryReply setup f s e w = (.ok none, after)) : made setup after ≤ made setup w := by
  obtain ⟨found, ran, read, done⟩ := bind_ok done
  have before := @runReply_makes setup f s e w
  rw [read] at before
  cases found with
  | none => cases done
  | some r =>
    obtain ⟨accepted, saved, committed, done⟩ := bind_ok done
    have kept := @commit_makes setup s r ran
    rw [committed] at kept
    cases accepted with
    | true =>
      obtain ⟨o, last, _, done⟩ := bind_ok done
      cases done
    | false =>
      cases done
      exact Nat.le_trans kept before

theorem continueWithAgent_makes (s : Session) (e : Event) : MakesAtMost setup 0 (continueWithAgent setup s e) := by
  have owner : MakesAtMost setup 0 (ownerOf setup s) := by
    unfold ownerOf
    split
    · exact agent?_makes _
    · exact .pure none
  refine owner.andThen fun agent => .andThen ?_ fun took => ?_
  · exact .tryOutside (insertions_left (database_innermost.handleTurn s agent _))
  · dsimp only
    split
    · exact (swap_makes _ _ _).andThen fun _ => .pure _
    · exact .pure _

theorem continueSession_makes (e : Event) (left : Nat) (s : Session) :
    MakesAtMost setup maxChained (continueSession setup e left s) := by
  induction left generalizing s with
  | zero => exact .fail _
  | succ left ih =>
    refine (flow?_makes s.flowId).andThen fun found => ?_
    cases found with
    | none => exact (swap_makes _ _ _).andThen fun _ => .pure _
    | some f =>
      dsimp only
      split
      · exact (continueWithAgent_makes s e).weaken (Nat.zero_le _)
      · split
        · exact .pure _
        · intro w
          have tried := @tryReply_makes setup f s e w
          rw [bind_apply]
          rcases done : tryReply setup f s e w with ⟨_ | _ | o, middle⟩ <;> rw [done] at tried
          · exact tried
          · -- The session has changed meanwhile, and nothing has been made yet.
            refine Nat.le_trans (?_ : _ ≤ made setup middle + maxChained)
              (Nat.add_le_add_right (tryReply_refused done) _)
            refine (get_makes s.id).andThen (fun read => ?_) middle
            cases read.filter Session.isActive with
            | none => exact .pure _
            | some current => exact ih current
          · exact tried

theorem resumeLocked_makes (now : Instant) (id : String) : MakesAtMost setup maxChained (resumeLocked setup now id) := by
  have waiting : ∀ s, MakesAtMost setup 0 (waitingIn? setup s) := by
    intro s
    refine (flow?_makes s.flowId).andThen fun found => ?_
    cases found <;> exact .pure _
  refine (get_makes id).andThen fun read => ?_
  cases read with
  | none => exact .pure _
  | some s =>
    refine (waiting s).andThen fun waits => ?_
    split
    · split
      · exact .pure _
      · refine (MakesAtMost.check _).andThen fun options => (MakesAtMost.running _).andThen fun r => ?_
        refine (commit_makes s r).andThen fun accepted => ?_
        cases accepted with
        | false => exact .pure _
        | true => exact follow_makes _ _ _
    · exact .pure _

variable {raw e : Event} {v u after : World} {flows : List Flow} {prior : List String} {o : Outcome}

theorem Sought.made_le (sought : Sought setup e v flows u) : made setup u ≤ made setup v := by
  cases sought with
  | other _ offered => exact active_makes.ending offered
  | idle _ _ offered searched _ =>
    exact Nat.le_trans ((find_makes _).ending searched) (active_makes.ending offered)
  | restart interrupts =>
    obtain ⟨_, _, offered, searched, _, _, ended⟩ := interrupts
    calc made setup u
      _ ≤ _ := (abandonAll_makes _).ending ended
      _ ≤ _ := (find_makes _).ending searched
      _ ≤ made setup v := active_makes.ending offered

/-- How work on an event ends that starts no flow of its own: at the most a conversation is taken on, with the chain of its
reply. -/
structure Quiet (setup : Setup) (v : World) (ends : Except Fault Outcome × World) : Prop where
  few : made setup ends.2 ≤ made setup v + maxChained
  told : ∀ o, ends.1 = .ok o → o.status ≠ .started ∧
    (o.status = .continued → Within setup (maxChained + 1) o)

/-- How work on an event ends that comes to the flows which the event triggers: at the most each of them makes a session,
and a chain of others. -/
structure Loud (setup : Setup) (triggered : List (Flow × String)) (v : World) (ends : Except Fault Outcome × World) :
    Prop where
  few : made setup ends.2 ≤ made setup v + triggered.length * (maxChained + 1)
  told : ∀ o, ends.1 = .ok o → Within setup (triggered.length * (maxChained + 1)) o

theorem Quiet.failed {fault : Fault} (few : made setup after ≤ made setup v) : Quiet setup v (.error fault, after) :=
  ⟨Nat.le_trans few (Nat.le_add_right _ _), fun o impossible => by cases impossible⟩

theorem trigger_ends (e : Event) (flows : List Flow) (u : World) :
    Quiet setup u (trigger setup e flows u) ∨ ∃ prior x, priorFlows setup e.address flows u = (.ok prior, x) ∧
      Loud setup (triggeredBy setup e flows prior) u (trigger setup e flows u) := by
  have counted : MakesAtMost setup 0 (priorFlows setup e.address flows) :=
    (MakesAtMost.filterM (fun f => has_makes _) _).andThen fun prior => .pure _
  rcases known : priorFlows setup e.address flows u with ⟨fault | prior, x⟩
  · have failed : trigger setup e flows u = (.error fault, x) := by
      unfold trigger
      rw [bind_apply, known]
    rw [failed]
    exact Or.inl (.failed (counted.ending known))
  · refine Or.inr ⟨prior, x, rfl, ?_⟩
    have empty : Within setup 0 nothingYet := ⟨Nat.le_refl 0, Nat.zero_le _⟩
    rw [trigger_apply known]
    cases triggered : triggeredBy setup e flows prior with
    | nil =>
      refine ⟨Nat.le_trans (counted.ending known) (Nat.le_add_right _ _), fun o answer => ?_⟩
      cases answer
      exact ⟨Nat.zero_le _, Nat.zero_le _⟩
    | cons first rest =>
      have few := @startAll_makes setup e (first :: rest) nothingYet x
      have told := startAll_within empty e (first :: rest)
      refine ⟨Nat.le_trans few (Nat.add_le_add_right (counted.ending known) _), fun o answer => ?_⟩
      have within := told.of_ok (Prod.ext answer rfl)
      rwa [Nat.zero_add] at within

/-- Work on an event that does not come to the flows which it triggers resets its contact, takes a conversation on, or
fails before it has done either. -/
theorem unsought_ends (unsought : ¬∃ flows u, Sought setup e v flows u) : Quiet setup v (handleLocked setup e v) := by
  have unstarted : ∀ o, (handleLocked setup e v).1 = .ok o → o.status ≠ .started := fun o answer started =>
    unsought (sought_of_started (Prod.ext answer rfl) started)
  suffices ends : made setup (handleLocked setup e v).2 ≤ made setup v + maxChained ∧
      ∀ o, (handleLocked setup e v).1 = .ok o → o.status = .continued → Within setup (maxChained + 1) o from
    ⟨ends.1, fun o answer => ⟨unstarted o answer, ends.2 o answer⟩⟩
  have stops : ∀ {fault : Fault} {x : World}, made setup x ≤ made setup v →
      made setup x ≤ made setup v + maxChained ∧
        ∀ o, (.error fault : Except Fault Outcome) = .ok o → o.status = .continued → Within setup (maxChained + 1) o :=
    fun few => ⟨Nat.le_trans few (Nat.le_add_right _ _), fun o impossible => by cases impossible⟩
  unfold handleLocked
  split
  · have resets : MakesAtMost setup maxChained (resetFor setup e) := (reset_makes _).andThen fun _ => .pure _
    have status : Yields (fun o => o.status = .reset) (resetFor setup e) := anyway.bind fun _ => .pure fun _ _ _ => rfl
    refine ⟨resets v, fun o answer continued => ?_⟩
    cases continued.symm.trans (status.of_ok (Prod.ext answer rfl))
  next plain =>
    rw [bind_apply]
    rcases offered : Offer.active setup v with ⟨fault | flows, x⟩
    · exact stops (active_makes.ending offered)
    · have few : made setup x ≤ made setup v := active_makes.ending offered
      dsimp only
      split
      next kind =>
        rw [bind_apply]
        rcases searched : Store.find setup e.address x with ⟨fault | found, y⟩
        · exact stops (Nat.le_trans ((find_makes _).ending searched) few)
        · have few : made setup y ≤ made setup v := Nat.le_trans ((find_makes _).ending searched) few
          have unreset : isReset e.text = false := by simpa [kind] using plain
          dsimp only
          cases read : found.filter Session.isActive with
          | none => exact absurd ⟨flows, y, .idle kind unreset offered searched read⟩ unsought
          | some s =>
            obtain ⟨rfl, active⟩ := Option.filter_eq_some_iff.mp read
            dsimp only
            split
            next keyword =>
              rw [bind_apply]
              rcases ended : Store.abandonAll setup e.address y with ⟨fault | n, z⟩
              · exact stops (Nat.le_trans ((abandonAll_makes _).ending ended) few)
              · exact absurd ⟨flows, z, .restart ⟨kind, unreset, offered, searched, active, keyword, ended⟩⟩ unsought
            next =>
              refine ⟨Nat.le_trans (continueSession_makes e _ s y) (Nat.add_le_add_right few _), fun o answer => ?_⟩
              exact (continueSession_within e _ s).of_ok (Prod.ext answer rfl)
      next kind => exact absurd ⟨flows, x, .other kind offered⟩ unsought

/-- The work on an event comes to the flows that it triggers, or it starts none. -/
theorem handleLocked_ends (e : Event) (v : World) :
    Quiet setup v (handleLocked setup e v) ∨ ∃ flows u prior x, Sought setup e v flows u ∧
      priorFlows setup e.address flows u = (.ok prior, x) ∧
        Loud setup (triggeredBy setup e flows prior) v (handleLocked setup e v) := by
  by_cases seeks : ∃ flows u, Sought setup e v flows u
  · obtain ⟨flows, u, sought⟩ := seeks
    have fewer := Sought.made_le sought
    rw [sought.handleLocked]
    rcases trigger_ends e flows u with quiet | ⟨prior, x, known, loud⟩
    · exact Or.inl ⟨Nat.le_trans quiet.few (Nat.add_le_add_right fewer _), quiet.told⟩
    · exact Or.inr ⟨flows, u, prior, x, sought, known, Nat.le_trans loud.few (Nat.add_le_add_right fewer _), loud.told⟩
  · exact Or.inl (unsought_ends seeks)

/-- To let an event in makes no sessions, and neither does what becomes of it after the work on it. -/
theorem admitted_made (admitted : Admitted setup raw w e v) : made setup v = made setup w ∧
    made setup (handleEvent setup raw w).2 = made setup (handleLocked setup e v).2 :=
  ⟨made_beside admitted.beside (admitted_view database_apart admitted),
    made_beside admitted.handleEvent.2 (handleEvent_database admitted)⟩

/-- How an event ends: it starts no flow of its own, or it comes to the flows that it triggers. -/
inductive EventEnds (setup : Setup) (raw : Event) (w : World) (ends : Except Fault Outcome × World) : Prop where
  | quiet (quiet : Quiet setup w ends)
  | loud {e v flows u prior x} (admitted : Admitted setup raw w e v) (sought : Sought setup e v flows u)
      (known : priorFlows setup e.address flows u = (.ok prior, x))
      (loud : Loud setup (triggeredBy setup e flows prior) w ends)

theorem handleEvent_ends (raw : Event) (w : World) : EventEnds setup raw w (handleEvent setup raw w) := by
  by_cases lets : ∃ e v, Admitted setup raw w e v
  · obtain ⟨e, v, admitted⟩ := lets
    obtain ⟨before, later⟩ := admitted_made admitted
    obtain ⟨answers, _⟩ := admitted.handleEvent
    have told : ∀ o, (handleEvent setup raw w).1 = .ok o →
        (handleLocked setup e v).1 = .ok o ∨ o = ⟨.conflict, [], []⟩ := by
      intro o answer
      rw [answers] at answer
      cases worked : (handleLocked setup e v).1 with
      | ok decided => rw [worked] at answer; exact Or.inl answer
      | error fault =>
        rw [worked] at answer
        dsimp only [concluded] at answer
        split at answer <;> cases answer
        exact Or.inr rfl
    rcases handleLocked_ends e v with quiet | ⟨flows, u, prior, x, sought, known, loud⟩
    · refine .quiet ⟨by rw [later, ← before]; exact quiet.few, fun o answer => ?_⟩
      rcases told o answer with decided | rfl
      · exact quiet.told o decided
      · exact ⟨OutcomeStatus.noConfusion, OutcomeStatus.noConfusion⟩
    · refine .loud admitted sought known ⟨by rw [later, ← before]; exact loud.few, fun o answer => ?_⟩
      rcases told o answer with decided | rfl
      · exact loud.told o decided
      · exact ⟨Nat.zero_le _, Nat.zero_le _⟩
  · have idle : ∀ {status x}, status ≠ .started → status ≠ .continued → made setup x ≤ made setup w →
        EventEnds setup raw w (.ok ⟨status, [], []⟩, x) := by
      intro status x unstarted discontinued few
      refine .quiet ⟨Nat.le_trans few (Nat.le_add_right _ _), fun o answer => ?_⟩
      cases answer
      exact ⟨unstarted, fun continued => absurd continued discontinued⟩
    unfold handleEvent
    split
    · exact idle OutcomeStatus.noConfusion OutcomeStatus.noConfusion (Nat.le_refl _)
    next addressed =>
      unfold handleFor
      rw [bind_apply]
      rcases checked : wasSeen setup { raw with address := Phone.normalize raw.address } w with ⟨fault | seen, before⟩
      · exact .quiet (.failed ((wasSeen_makes _).ending checked))
      · cases seen with
        | true => exact idle OutcomeStatus.noConfusion OutcomeStatus.noConfusion ((wasSeen_makes _).ending checked)
        | false => exact absurd ⟨_, _, rfl, addressed, before, checked, rfl⟩ lets

theorem startFlow_makes (flowId address : String) (vars : Fields) :
    MakesAtMost setup (maxChained + 1) (startFlow setup flowId address vars) := by
  refine (flow?_makes flowId).andThen fun found => ?_
  cases found with
  | none => exact .fail _
  | some f =>
    refine (withLock_makes ?_ _).bind (n := 0) deliver_makes
    exact (MakesAtMost.pure vars).andThen fun vars => start_makes _ maxChained f _ none none

theorem continueFlow_makes (address flowId text : String) (replyId : Option String) :
    MakesAtMost setup maxChained (continueFlow setup address flowId text replyId) := by
  refine (withLock_makes ?_ _).bind (n := 0) deliver_makes
  simp only [Store.findForFlowGiven, Store.lookUpKey]
  refine (findForFlow_makes _).andThen fun found => ?_
  cases found.filter Session.isActive with
  | none => exact .fail _
  | some s => exact (MakesAtMost.check _).andThen fun e => continueSession_makes e _ s

theorem resumeAsOf_makes (now : Instant) (id : String) : MakesAtMost setup maxChained (resumeAsOf setup now id) := by
  refine (get_makes id).andThen fun read => ?_
  cases read with
  | none => exact .pure _
  | some s => exact (withLock_makes (resumeLocked_makes now id) _).bind (n := 0) deliver_makes

theorem resumeEach_makes (now : Instant) (due : List Session) (counts : List (String × Nat)) :
    MakesAtMost setup (due.length * maxChained) (resumeEach setup now due counts) := by
  induction due generalizing counts with
  | nil => exact .pure counts
  | cons s rest ih =>
    have turn : MakesAtMost setup maxChained (Work.attempt (resumeAsOf setup now s.id)) := resumeAsOf_makes now s.id
    refine (turn.bind fun result => ih _).weaken ?_
    rw [List.length_cons, Nat.succ_mul]
    exact Nat.le_of_eq (Nat.add_comm _ _)

/-- Chained starts end, whatever flows there are and however they start each other. To start a flow makes a session, and
one more for each flow that its chain may have; so does every flow that an event triggers. A reply and a wait that is over
make those of a chain only, and so does an event that triggers no flow. Every run of these takes no more steps than the
settings allow, also if it fails, and sends two actions at most for each of them. -/
theorem chained_starts_end (setup : Setup) :
    (∀ flowId address vars, MakesAtMost setup (maxChained + 1) (startFlow setup flowId address vars) ∧
      Yields (Within setup (maxChained + 1)) (startFlow setup flowId address vars)) ∧
    (∀ raw w, EventEnds setup raw w (handleEvent setup raw w)) ∧
    (∀ (e : Event) f step, MakesAtMost setup (maxChained + 1)
      (start setup e.address maxChained f (initialVariables e.address (some e) []) e.deviceId (some step))) ∧
    (∀ address flowId text replyId, MakesAtMost setup maxChained (continueFlow setup address flowId text replyId) ∧
      Yields (fun o => o.status = .continued → Within setup (maxChained + 1) o)
        (continueFlow setup address flowId text replyId)) ∧
    (∀ now id, MakesAtMost setup maxChained (resumeAsOf setup now id) ∧
      Yields (Within setup (maxChained + 1)) (resumeAsOf setup now id)) ∧
    (∀ now due counts, MakesAtMost setup (due.length * maxChained) (resumeEach setup now due counts)) ∧
    ∀ options f now s rolls step, runOptions setup = .ok options →
      (trail f options now options.maxSteps (Session.fresh s) rolls step).1.length ≤ setup.settings.maxSteps.toNat ∧
      ∀ r rest, Interpreter.run f options now s rolls step = (.ok r, rest) →
        r.executed.length ≤ setup.settings.maxSteps.toNat ∧
        r.actions.length ≤ 2 * setup.settings.maxSteps.toNat := by
  refine ⟨fun flowId address vars => ⟨startFlow_makes flowId address vars, startFlow_within flowId address vars⟩,
    handleEvent_ends, fun e f step => start_makes e.address maxChained f _ e.deviceId (some step),
    fun address flowId text replyId => ⟨continueFlow_makes address flowId text replyId,
      continueFlow_within address flowId text replyId⟩,
    fun now id => ⟨resumeAsOf_makes now id, resumeAsOf_within now id⟩, resumeEach_makes, ?_⟩
  intro options f now s rolls step told
  have limit : options.maxSteps = setup.settings.maxSteps.toNat := runOptions_limit told
  rw [← limit]
  exact ⟨trail_length _ _ _ _, fun r rest ran => run_lengths ran⟩

theorem exists_of_toOption {result : Except Fault α} {f : α → β} {b : β} (told : result.toOption.map f = some b) :
    ∃ a, result = .ok a ∧ f a = b := by
  cases result with
  | error fault => cases told
  | ok a => exact ⟨a, rfl, Option.some.inj told⟩

/-- A flow that greets, and starts itself. -/
def circlingFlow : Flow :=
  { id := "circle",
    steps := [⟨"begin", .start none⟩, ⟨"hello", .template { templateName := "hello" }⟩, ⟨"again", .automation "circle"⟩],
    connections := [⟨"c1", "begin", "hello", none, none⟩, ⟨"c2", "hello", "again", none, none⟩] }

/-- Where a flow starts itself, the bounds are reached. -/
theorem circling_flow_is_cut_off :
    let setup := aloneAt ⟨5, 0⟩
    let ends := startFlow setup "circle" "+5215512345678" [] (untouched circlingFlow)
    MakesAtMost setup (maxChained + 1) (startFlow setup "circle" "+5215512345678" []) ∧
    made setup ends.2 = made setup (untouched circlingFlow) + (maxChained + 1) ∧
    (∃ o, ends.1 = .ok o ∧ o.sessionIds.length = maxChained + 1 ∧ Within setup (maxChained + 1) o) ∧
    ∃ r rest, Interpreter.run circlingFlow { zone := Zone.utc } ⟨5, 0⟩ (newcomer circlingFlow) [] (some "begin") =
      (.ok r, rest) ∧ r.executed = ["start", "template", "start_automation"] ∧
      r.executed.length ≤ 50 ∧ r.actions.length ≤ 2 * 50 := by
  have cut := chained_starts_end (aloneAt ⟨5, 0⟩)
  obtain ⟨makes, within⟩ := cut.1 "circle" "+5215512345678" []
  have short := cut.2.2.2.2.2.2 { zone := Zone.utc } circlingFlow ⟨5, 0⟩ (newcomer circlingFlow) [] (some "begin")
    (runOptions_aloneAt _)
  have started : (startFlow (aloneAt ⟨5, 0⟩) "circle" "+5215512345678" [] (untouched circlingFlow)).1.toOption.map
      (fun o => o.sessionIds.length) = some (maxChained + 1) := by
    simp only [startFlow, startFound, withLock, maxChained, start, firstRun, bind_apply, runOptions_aloneAt]
    decide +kernel
  refine ⟨makes, ?_, ?_, _, _, rfl, rfl, (short.2 _ _ rfl).1, (short.2 _ _ rfl).2⟩
  · simp only [startFlow, startFound, withLock, maxChained, start, firstRun, bind_apply, runOptions_aloneAt]
    decide +kernel
  · obtain ⟨o, answer, sessions⟩ := exists_of_toOption started
    exact ⟨o, answer, sessions, (within _ trivial trivial).2 o answer⟩

end Chatflow.Proofs.ChainedStarts
