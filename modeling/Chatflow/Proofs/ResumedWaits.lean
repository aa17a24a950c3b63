import Chatflow.Proofs.CallCourses
import Chatflow.Proofs.FlowPaths
import Chatflow.Proofs.KnownSessions

/-! Resuming waits. A session is resumed if its wait is over, and then that wait is gone: the conversation has ended, asks,
belongs to an agent or waits again for later. Whoever asks once more for the same time changes nothing. -/

namespace Chatflow.Proofs.ResumedWaits
open Conversation Interpreter StepEffects RunEndings SessionTable StoredSessions InProcessStore WorkLogic ReplyRuns
  CallDeeds CallCourses OrderlySessions AgentTurns ParkedSessions ConversationOrder StoreInvariants KnownSessions

variable {setup : Setup} {w : World} {now : Instant} {id : String} {s : Session} {f : Flow}

/-- The wait of a session is over: it is parked at a wait step of its flow, and its time has come. -/
structure Overdue (w : World) (now : Instant) (id : String) (s : Session) (f : Flow) : Prop where
  stored : w.table.get? id = some s
  offered : w.catalogue.flow? s.flowId = some f
  active : s.isActive = true
  parked : ∃ step, s.currentStep.bind f.step? = some step ∧ step.body.kind? = some .wait
  ripe : ∃ dueAt, s.resumeAt = some dueAt ∧ dueAt.micros ≤ now.micros

def IsDue (w : World) (now : Instant) (id : String) : Prop := ∃ s f, Overdue w now id s f

/-- A wait ends after the moment at which it began. -/
def Lasts (c : WaitConfig) : Prop := ∀ span, Span.ofSeconds c.seconds = .ok span → 1 ≤ span

theorem addSeconds_later {seconds : Float} {dueAt : Instant}
    (lasts : ∀ span, Span.ofSeconds seconds = .ok span → 1 ≤ span) (due : now.addSeconds seconds = .ok dueAt) :
    now.micros < dueAt.micros := by
  unfold Instant.addSeconds at due
  cases measured : Span.ofSeconds seconds with
  | error e =>
    rw [measured] at due
    cases due
  | ok span =>
    have longer := lasts span measured
    rw [measured] at due
    simp only [bind, Except.bind] at due
    split at due
    · cases due
    next checked fits =>
      have same : checked = span := by
        unfold Span.checkDays at fits
        dsimp only at fits
        split at fits
        · cases fits
        · split at fits
          · cases fits
          · exact (Except.ok.inj fits).symm
      subst same
      unfold Instant.add? at due
      dsimp only at due
      split at due
      next later found =>
        split at found
        · cases found
          cases due
          simp only
          omega
        · cases found
      next => cases due

/-- The flow of a session that is parked at a wait step of it. -/
def waitedIn? (c : Catalogue) (s : Session) : Option Flow :=
  (c.flow? s.flowId).filter fun f =>
    s.isWaiting && ((s.currentStep.bind f.step?).bind fun step => step.body.kind?) == some .wait

theorem Overdue.waitedIn? (overdue : Overdue w now id s f) : waitedIn? w.catalogue s = some f := by
  obtain ⟨step, place, kind⟩ := overdue.parked
  obtain ⟨dueAt, due, _⟩ := overdue.ripe
  simp [ResumedWaits.waitedIn?, overdue.offered, Session.isWaiting, overdue.active, due, place, kind]

theorem isDue_iff : IsDue w now id ↔ ∃ s f dueAt, w.table.get? id = some s ∧ waitedIn? w.catalogue s = some f ∧
    s.resumeAt = some dueAt ∧ dueAt.micros ≤ now.micros := by
  constructor
  · rintro ⟨s, f, overdue⟩
    obtain ⟨dueAt, due, ripe⟩ := overdue.ripe
    exact ⟨s, f, dueAt, overdue.stored, overdue.waitedIn?, due, ripe⟩
  · rintro ⟨s, f, dueAt, stored, waited, due, ripe⟩
    obtain ⟨offered, waits⟩ := Option.filter_eq_some_iff.mp waited
    obtain ⟨waiting, kind⟩ := Bool.and_eq_true_iff.mp waits
    obtain ⟨step, place, kind⟩ := Option.bind_eq_some_iff.mp (eq_of_beq kind)
    exact ⟨s, f, stored, offered, (Bool.and_eq_true_iff.mp waiting).1, ⟨step, place, kind⟩, dueAt, due, ripe⟩

/-- Only the stored sessions and the catalogue are looked at. -/
theorem isDue_congr {after : World} (table : after.table = w.table) (catalogue : after.catalogue = w.catalogue) :
    IsDue after now id ↔ IsDue w now id := by
  simp only [isDue_iff, table, catalogue]

theorem isDue_locked (locked : Outside) : IsDue { w with outside := locked } now id ↔ IsDue w now id :=
  @isDue_congr w now id { w with outside := locked } rfl rfl

section
variable (inProcess : setup.hasDatabase = false)
include inProcess

theorem waitingIn?_apply (s : Session) (w : World) :
    waitingIn? setup s w = (.ok (waitedIn? w.catalogue s), w) := by
  unfold waitingIn? waitedIn?
  rw [flow?_eq inProcess, bind_apply]
  simp only [Work.look]
  cases w.catalogue.flow? s.flowId with
  | none => rfl
  | some f =>
    dsimp only
    rw [pure_apply]
    cases s.isWaiting <;> simp [Option.filter]

/-- Where nothing is due nothing is done. -/
theorem resumeLocked_idle (idle : ¬ IsDue w now id) :
    ∃ o, resumeLocked setup now id w = (.ok o, w) ∧ o.status ≠ .resumed ∧ o.actions = [] := by
  have stale : (⟨.stale, [id], []⟩ : Outcome).status ≠ .resumed := OutcomeStatus.noConfusion
  simp only [resumeLocked, get_eq inProcess, bind_apply, Work.look]
  cases stored : w.table.get? id with
  | none => exact ⟨_, rfl, stale, rfl⟩
  | some s =>
    dsimp only
    rw [bind_apply, waitingIn?_apply inProcess]
    dsimp only
    cases waited : waitedIn? w.catalogue s with
    | none => exact ⟨_, rfl, stale, rfl⟩
    | some f =>
      cases due : s.resumeAt with
      | none => exact ⟨_, rfl, stale, rfl⟩
      | some dueAt =>
        by_cases early : now.micros < dueAt.micros
        · simp only [early, if_true]
          exact ⟨_, rfl, OutcomeStatus.noConfusion, rfl⟩
        · exact absurd (isDue_iff.mpr ⟨s, f, dueAt, stored, waited, due, Int.not_lt.mp early⟩) idle

/-- No one can have come in between, so a run is saved in place of the session that it started from, if there is a present
time. -/
theorem commit_apply {r : RunResult} (alone : w.foreign = []) (stored : w.table.get? s.id = some s)
    (same : r.session.id = s.id) :
    commit setup s r w = match setup.utcNow with
      | .error fault => (.error fault, w)
      | .ok moment => (.ok true, { w with table := w.table.put ((savedChange r.session).apply moment s) }) := by
  have stands : w.table.standsAt? s.id s.currentStep = some s := by
    simp only [standsAt?, stored, Option.filter_some, beq_self_eq_true, if_true]
  unfold commit
  rw [same, swap_apply inProcess, interfere_alone alone]
  cases setup.utcNow <;> simp only [stands]

end

theorem not_isDue_of_known (known : Known id (fun s => isDue now s = false) w) : ¬ IsDue w now id := by
  rintro ⟨s, f, overdue⟩
  obtain ⟨dueAt, due, ripe⟩ := overdue.ripe
  have status : s.status = .active := eq_of_beq (Bool.and_eq_true_iff.mp overdue.active).1
  have idle := known.fits s (get?_mem overdue.stored) (get?_id overdue.stored)
  simp [isDue, dueTime?, status, due, ripe] at idle

/-- What a run leaves of a session that was resumed at some time: it is over, or no wait of it ends by that time. -/
theorem run_rests {options : RunOptions} {rolls rest : List Float} {start : Option String} {r : RunResult}
    (lasting : ∀ step ∈ f.steps, ∀ c, step.body = .wait c → Lasts c)
    (ran : run f options now s rolls start = (.ok r, rest)) : isDue now r.session = false := by
  obtain ⟨⟨ending, fits⟩, _⟩ := run_fits ran
  unfold isDue dueTime?
  cases ending with
  | completed => simp [fits.1]
  | asking =>
    obtain ⟨_, _, _, unscheduled, _⟩ := fits
    simp [unscheduled.resumeAt]
  | waiting =>
    obtain ⟨step, c, dueAt, parked, body, ends, due, _⟩ := fits
    have found := FlowPaths.trail_found _ _ _ _ step (List.mem_of_getLast? parked.last)
    have later := addSeconds_later (lasting step (List.mem_of_find?_eq_some found) c body) ends
    split
    next other same =>
      rw [due] at same
      split at same
      · cases same
        exact decide_eq_false (Int.not_le.mpr later)
      · cases same
    next => rfl
  | handed =>
    obtain ⟨_, _, _, _, unscheduled, _⟩ := fits
    simp [unscheduled.resumeAt]

theorem follow_status {r : RunResult} {address : String} {o last : Outcome} {after : World}
    (followed : follow setup address r o w = (.ok last, after)) : last.status = o.status := by
  obtain ⟨next, middle, _, rest⟩ := bind_ok followed
  cases next with
  | none => cases rest; rfl
  | some next =>
    obtain ⟨started, _, _, extended⟩ := bind_ok rest
    cases extended
    rfl

section
variable (inProcess : setup.hasDatabase = false)
include inProcess

/-- Where a run was saved that ended, or that waits for later, nothing is due under the id, whatever comes of the flows
that it starts. -/
theorem known_of_followed {r : RunResult} (solitary : Solitary w) (stored : w.table.get? s.id = some s)
    (rests : isDue now r.session = false) (moment : Instant) (o : Outcome) :
    Known s.id (fun s => isDue now s = false) (follow setup s.address r o
      { w with table := w.table.put ((savedChange r.session).apply moment s) }).2 := by
  have known := @known_of_saved w s (fun s => isDue now s = false) (savedChange r.session) moment solitary stored rests
  exact ((known_upheld inProcess).follow inProcess s.address r o _ known trivial).1

/-- A wait that is over leads to a run, which is saved and followed by the flow that it asks for. -/
theorem resumeLocked_overdue (solitary : Solitary w) (overdue : Overdue w now id s f) :
    resumeLocked setup now id w = match runOptions setup with
      | .error fault => (.error fault, w)
      | .ok options => match run f options now s w.rolls s.resumeStep with
        | (.error fault, rest) => (.error fault, { w with rolls := rest })
        | (.ok r, rest) => match setup.utcNow with
          | .error fault => (.error fault, { w with rolls := rest })
          | .ok moment => follow setup s.address r ⟨.resumed, [id], r.actions⟩
            { w with rolls := rest, table := w.table.put ((savedChange r.session).apply moment s) } := by
  obtain ⟨dueAt, due, ripe⟩ := overdue.ripe
  unfold resumeLocked
  simp only [bind_apply, get_eq inProcess, Work.look, overdue.stored, waitingIn?_apply inProcess, overdue.waitedIn?, due,
    Int.not_lt.mpr ripe, if_false, Work.check, running]
  cases runOptions setup with
  | error fault => rfl
  | ok options =>
    dsimp only
    rcases ran : run f options now s w.rolls s.resumeStep with ⟨fault | r, rest⟩
    · rfl
    · have alone : ({ w with rolls := rest } : World).foreign = [] := solitary.alone
      dsimp only
      rw [commit_apply inProcess alone (get?_self overdue.stored) (run_sameConversation ran).id]
      cases setup.utcNow <;> rfl

/-- A wait that is over is resumed, and then nothing is due under the id any more. -/
theorem resumeLocked_due (solitary : Solitary w) (overdue : Overdue w now id s f)
    (lasting : ∀ step ∈ f.steps, ∀ c, step.body = .wait c → Lasts c) {o : Outcome} {after : World}
    (returned : resumeLocked setup now id w = (.ok o, after)) : o.status = .resumed ∧ ¬ IsDue after now id := by
  rw [resumeLocked_overdue inProcess solitary overdue] at returned
  split at returned
  next => cases returned
  next options _ =>
    split at returned
    next => cases returned
    next r rest ran =>
      split at returned
      next => cases returned
      next moment _ =>
        have still : Solitary { w with rolls := rest } := ⟨solitary.alone, solitary.sound, solitary.given⟩
        have known := known_of_followed inProcess still (get?_self overdue.stored) (run_rests lasting ran) moment
          ⟨.resumed, [id], r.actions⟩
        rw [returned, get?_id overdue.stored] at known
        exact ⟨follow_status returned, not_isDue_of_known known⟩

end

/-- The world while the lock of a contact is held. -/
def held (setup : Setup) (address : String) (w : World) : World :=
  { w with outside := (Cache.enterLock setup.link lobby (Cache.addressLockName address)
    (.whole setup.settings.addressLockSeconds) 0 w.outside).2 }

/-- Under the lock of a contact the same work is done, and to take the lock and to give it back sends nothing. -/
theorem withLock_apply {α : Type} (setup : Setup) (address : String) (work : Work α) (w : World) :
    ∃ unlocked, Mute (work (held setup address w)).2.outside unlocked ∧
      withLock setup address work w = ((work (held setup address w)).1,
        { (work (held setup address w)).2 with outside := unlocked }) := by
  unfold withLock
  rw [bind_apply]
  exact ⟨_, leaveLock_mute _ _ _ _, rfl⟩

section
variable (inProcess : setup.hasDatabase = false)
include inProcess

/-- A session that is found is resumed under the lock of its contact; then what came of it is handed over. -/
theorem resumeAsOf_found (stored : w.table.get? id = some s) (now : Instant) :
    ∃ locked unlocked result last, Mute w.outside locked ∧ Mute last.outside unlocked ∧
      resumeLocked setup now id { w with outside := locked } = (result, last) ∧
      resumeAsOf setup now id w = match result with
        | .ok o => deliver setup o { last with outside := unlocked }
        | .error fault => (.error fault, { last with outside := unlocked }) := by
  obtain ⟨unlocked, left, done⟩ := withLock_apply setup s.address (resumeLocked setup now id) w
  rcases worked : resumeLocked setup now id (held setup s.address w) with ⟨result, last⟩
  rw [worked] at left done
  refine ⟨_, unlocked, result, last, enterLock_mute _ _ _ _, left, worked, ?_⟩
  unfold resumeAsOf
  rw [bind_apply, get_eq inProcess]
  simp only [Work.look, stored, resumeFound]
  rw [bind_apply, done]
  cases result <;> rfl

/-- Where the work under the lock leaves everything as it is, so does the call. -/
theorem resumeAsOf_unchanged {fits : OutcomeStatus → Prop} (missing : fits .notFound)
    (stays : ∀ locked, ∃ o, resumeLocked setup now id { w with outside := locked } = (.ok o, { w with outside := locked }) ∧
      fits o.status ∧ o.actions = []) :
    ∃ o after, resumeAsOf setup now id w = (.ok o, after) ∧ fits o.status ∧ o.actions = [] ∧ Quiet w after := by
  cases stored : w.table.get? id with
  | none =>
    unfold resumeAsOf
    rw [bind_apply, get_eq inProcess]
    simp only [Work.look, stored]
    exact ⟨_, _, rfl, missing, rfl, .refl w⟩
  | some s =>
    obtain ⟨locked, unlocked, result, last, entered, left, worked, done⟩ := resumeAsOf_found inProcess stored now
    obtain ⟨o, same, status, actions⟩ := stays locked
    rw [worked] at same
    cases same
    dsimp only at done
    rw [deliver_nothing actions] at done
    exact ⟨o, _, done, status, actions, ⟨⟨entered.trans left, rfl⟩, rfl, rfl, rfl⟩⟩

/-- Where nothing is due a call returns, and it changes and sends nothing. -/
theorem resumeAsOf_idle (idle : ¬ IsDue w now id) :
    ∃ o after, resumeAsOf setup now id w = (.ok o, after) ∧ o.status ≠ .resumed ∧ o.actions = [] ∧ Quiet w after :=
  @resumeAsOf_unchanged setup w now id inProcess (· ≠ .resumed) OutcomeStatus.noConfusion fun locked =>
    resumeLocked_idle inProcess (mt (isDue_locked locked).mp idle)

theorem resumeAsOf_due (solitary : Solitary w) (overdue : Overdue w now id s f)
    (lasting : ∀ step ∈ f.steps, ∀ c, step.body = .wait c → Lasts c) {o : Outcome} {after : World}
    (returned : resumeAsOf setup now id w = (.ok o, after)) : o.status = .resumed ∧ ¬ IsDue after now id := by
  obtain ⟨locked, unlocked, result, last, _, _, worked, done⟩ := resumeAsOf_found inProcess overdue.stored now
  rw [returned] at done
  cases result with
  | error fault => cases done
  | ok decided =>
    dsimp only at done
    have within : Solitary { w with outside := locked } := ⟨solitary.alone, solitary.sound, solitary.given⟩
    have still : Overdue { w with outside := locked } now id s f :=
      ⟨overdue.stored, overdue.offered, overdue.active, overdue.parked, overdue.ripe⟩
    obtain ⟨resumed, idle⟩ := resumeLocked_due inProcess within still lasting worked
    have beside := @deliver_aside setup decided { last with outside := unlocked }
    have answer := @deliver_ok setup decided { last with outside := unlocked }
    rw [← done] at beside answer
    cases answer
    have table : after.table = last.table := beside.table
    have catalogue : after.catalogue = last.catalogue := beside.catalogue
    exact ⟨resumed, mt (isDue_congr table catalogue).mp idle⟩

end

/-- Resuming a wait is idempotent as long as waits last and no one else writes to the store. A call that returns has resumed
the session if its wait was over, and otherwise has changed and sent nothing; and the same call made once more returns, but
resumes nothing, and changes and sends nothing. -/
theorem resuming_is_idempotent {again : Setup} (inProcess : setup.hasDatabase = false)
    (inProcessAgain : again.hasDatabase = false) (solitary : Solitary w)
    (lasting : ∀ f ∈ w.catalogue.flows, ∀ step ∈ f.steps, ∀ c, step.body = .wait c → Lasts c)
    {o : Outcome} {after : World} (returned : resumeAsOf setup now id w = (.ok o, after)) :
    (o.status = .resumed ↔ IsDue w now id) ∧ (o.status ≠ .resumed → o.actions = [] ∧ Quiet w after) ∧
    ∃ last final, resumeAsOf again now id after = (.ok last, final) ∧ last.status ≠ .resumed ∧ last.actions = [] ∧
      Quiet after final := by
  by_cases due : IsDue w now id
  · obtain ⟨s, f, overdue⟩ := due
    have offered : f ∈ w.catalogue.flows := List.mem_of_find?_eq_some overdue.offered
    obtain ⟨resumed, idle⟩ := resumeAsOf_due inProcess solitary overdue (lasting f offered) returned
    exact ⟨iff_of_true resumed ⟨s, f, overdue⟩, fun other => absurd resumed other, resumeAsOf_idle inProcessAgain idle⟩
  · obtain ⟨_, _, same, status, actions, quiet⟩ := resumeAsOf_idle inProcess due
    rw [returned] at same
    cases same
    have idle : ¬ IsDue after now id := mt (isDue_congr quiet.table quiet.catalogue).mp due
    exact ⟨iff_of_false status due, fun _ => ⟨actions, quiet⟩, resumeAsOf_idle inProcessAgain idle⟩

def nap : Step := ⟨"nap", .wait {}⟩

/-- A flow that waits five minutes again and again. -/
def napping : Flow :=
  { id := "nap", steps := [⟨"begin", .start none⟩, nap],
    connections := [⟨"c1", "begin", "nap", none, none⟩, ⟨"c2", "nap", "nap", none, none⟩] }

def asleep : Session :=
  { newcomer napping with currentStep := some "nap", resumeAt := some ⟨5, 0⟩, resumeStep := some "nap" }

def bedroom : World :=
  { table := ⟨[(asleep.key, asleep)]⟩, catalogue := Catalogue.ofLists [napping] [], nextSession := 2 }

theorem bedroom_solitary : Solitary bedroom := solitary_of_first asleep rfl rfl rfl rfl

theorem naps_last : ∀ f ∈ bedroom.catalogue.flows, ∀ step ∈ f.steps, ∀ c, step.body = .wait c → Lasts c := by
  have minutes : (Span.ofSeconds ({} : WaitConfig).seconds).toOption = some 300000000 := by decide +kernel
  intro f offered step member c body span measured
  rw [List.mem_singleton.mp offered] at member
  rcases List.mem_cons.mp member with rfl | later
  · cases body
  · rw [List.mem_singleton.mp later] at body
    cases body
    rw [measured] at minutes
    cases minutes
    decide

theorem nap_is_resumed_once :
    ∃ o after, resumeAsOf (aloneAt ⟨5, 0⟩) ⟨5, 0⟩ "s1" bedroom = (.ok o, after) ∧ o.status = .resumed ∧
      ∃ last final, resumeAsOf (aloneAt ⟨6, 0⟩) ⟨5, 0⟩ "s1" after = (.ok last, final) ∧ last.status ≠ .resumed ∧
        last.actions = [] ∧ Quiet after final := by
  have answer : (resumeAsOf (aloneAt ⟨5, 0⟩) ⟨5, 0⟩ "s1" bedroom).1.toOption = some ⟨.resumed, ["s1"], []⟩ := by
    decide +kernel
  rcases returned : resumeAsOf (aloneAt ⟨5, 0⟩) ⟨5, 0⟩ "s1" bedroom with ⟨fault | o, after⟩ <;> rw [returned] at answer <;>
    cases answer
  have again := (@resuming_is_idempotent (aloneAt ⟨5, 0⟩) bedroom ⟨5, 0⟩ "s1" (aloneAt ⟨6, 0⟩) rfl rfl bedroom_solitary
    naps_last _ _ returned).2.2
  exact ⟨_, after, rfl, rfl, again⟩

end Chatflow.Proofs.ResumedWaits
