import Chatflow.Proofs.EventPaths
import Chatflow.Proofs.StepVisits
import Chatflow.Proofs.StoreInvariants
import Mathlib.Algebra.Order.BigOperators.Group.List
import Mathlib.Algebra.Order.Group.Nat

/-! How long runs are. A run takes no more steps than it may, whatever the connections of its flow, and no step sends more
than two actions; an outcome is told by its sessions, of which each accounts for one run. -/

namespace Chatflow.Proofs.RunLengths
open Conversation Interpreter StepEffects RunEndings StepVisits EventPaths ReplyRuns StoreInvariants WorkLogic

variable {f : Flow} {options : RunOptions} {now : Instant} {s : Session} {rolls rest : List Float}

/-- A walk takes no more steps than it may, also where it fails. -/
theorem trail_length (left : Nat) (s : Session) (rolls : List Float) (start : Option String) :
    (trail f options now left s rolls start).1.length ≤ left := by
  induction left generalizing s rolls start with
  | zero => cases start <;> exact Nat.le_refl 0
  | succ left ih =>
    cases start with
    | none => exact Nat.zero_le _
    | some stepId =>
      unfold trail
      split
      · exact Nat.zero_le _
      · split
        · exact Nat.succ_le_succ (ih _ _ _)
        · exact Nat.succ_le_succ (Nat.zero_le left)

theorem assignEffect_length (f : Flow) (options : RunOptions) (stepId : String) (c : AssignConfig) (s : Session) :
    (assignEffect f options stepId c s).actions.length ≤ 2 := by
  have letters : ∀ email : List Action, email.length ≤ 1 → ∀ a : Action, (email ++ [a]).length ≤ 2 := by
    intro email few a
    rw [List.length_append]
    exact Nat.succ_le_succ few
  unfold assignEffect
  dsimp only
  split
  · exact Nat.zero_le 2
  · split <;> refine letters _ ?_ _ <;> split <;> exact Nat.le_of_ble_eq_true rfl

/-- A step sends two actions at most: an assignment may send an e-mail besides. -/
theorem effectOf_length {step : Step} {effect : Effect}
    (done : effectOf f options now step s rolls = (.ok effect, rest)) : effect.actions.length ≤ 2 := by
  have prompt : ∀ {content : Except Fault ActionContent} {onward : Onward} {after : Session},
      (content.map fun content => (⟨after, [⟨envelope step.id after, content⟩], onward⟩ : Effect)) = .ok effect →
        effect.actions.length ≤ 2 := by
    intro content onward after made
    cases content <;> cases made
    exact Nat.le_succ 1
  cases body : step.body <;> simp only [effectOf, body] at done
  case sendMessage c =>
    cases made : messageContent? c s.vars <;> rw [made] at done <;> cases done
    rw [List.length_map]
    exact Nat.le_trans Option.length_toList_le (Nat.le_succ 1)
  case template | question | choice => exact prompt (congrArg Prod.fst done)
  case wait c =>
    unfold waitEffect at done
    split at done <;> cases done
    exact Nat.zero_le 2
  case condition =>
    split at done <;> cases done
    exact Nat.zero_le 2
  case assign c =>
    cases done
    exact assignEffect_length f options step.id c s
  case rotator c =>
    rw [rotatorEffect_sends done]
    exact Nat.zero_le 2
  all_goals
    cases done
    exact Nat.zero_le 2

/-- A walk to a result sends no more than two actions for each of its steps. -/
theorem walk_actions {left : Nat} {start : Option String} {r : RunResult}
    (walked : walk f options now left s rolls start = (.ok r, rest)) : r.actions.length ≤ 2 * r.executed.length := by
  obtain ⟨steps, sent⟩ := walk_visits walked
  have few : ∀ n ∈ (visits f options now left s rolls start).map fun v => v.effect.actions.length, n ≤ 2 := by
    intro n counted
    obtain ⟨v, visited, rfl⟩ := List.mem_map.mp counted
    obtain ⟨_, _, done⟩ := (visits_taken v visited).done
    exact effectOf_length done
  have most := List.sum_le_card_nsmul _ 2 few
  rw [List.length_map, Nat.nsmul_eq_mul] at most
  rw [(walk_concludes walked).1, steps, sent, List.length_map, List.length_map, List.length_flatMap]
  omega

/-- A run to a result takes no more steps than it may, and sends two actions at most for each. -/
theorem run_lengths {start : Option String} {r : RunResult} (ran : run f options now s rolls start = (.ok r, rest)) :
    r.executed.length ≤ options.maxSteps ∧ r.actions.length ≤ 2 * options.maxSteps := by
  rcases walked : walk f options now options.maxSteps s.fresh rolls start with ⟨_ | ended, remaining⟩ <;>
    simp only [run, walked, Except.map] at ran <;> cases ran
  have steps : ended.executed.length ≤ options.maxSteps := by
    rw [(walk_concludes walked).1, List.length_map]
    exact trail_length _ _ _ _
  have sent : ended.actions.length ≤ 2 * ended.executed.length := walk_actions walked
  exact ⟨steps, Nat.le_trans sent (Nat.mul_le_mul_left 2 steps)⟩

variable {setup : Setup} {n : Nat} {o : Outcome}

/-- An outcome names so many sessions at most, and has no more actions than a run for each of them may send. -/
structure Within (setup : Setup) (n : Nat) (o : Outcome) : Prop where
  sessions : o.sessionIds.length ≤ n
  actions : o.actions.length ≤ o.sessionIds.length * (2 * setup.settings.maxSteps.toNat)

theorem Within.weaken {m : Nat} (within : Within setup n o) (fewer : n ≤ m) : Within setup m o :=
  ⟨Nat.le_trans within.sessions fewer, within.actions⟩

theorem Within.extend {m : Nat} {other : Outcome} (first : Within setup n o) (last : Within setup m other) :
    Within setup (n + m) (o.extend other) := by
  refine ⟨?_, ?_⟩ <;> simp only [Outcome.extend, List.length_append]
  · exact Nat.add_le_add first.sessions last.sessions
  · rw [Nat.add_mul]
    exact Nat.add_le_add first.actions last.actions

/-- An outcome of one run. -/
theorem within_one {status : OutcomeStatus} {id : String} {actions : List Action}
    (few : actions.length ≤ 2 * setup.settings.maxSteps.toNat) : Within setup 1 ⟨status, [id], actions⟩ :=
  ⟨Nat.le_refl 1, by simpa using few⟩

theorem runOptions_limit (told : runOptions setup = .ok options) : options.maxSteps = setup.settings.maxSteps.toNat := by
  rcases zoned : (Zone.find setup.settings.zone).mapError Fault.noZone with fault | zone <;>
    simp only [runOptions, zoned, bind, Except.bind] at told <;> cases told
  rfl

theorem runOptions_yields : Yields (fun options => options.maxSteps = setup.settings.maxSteps.toNat)
    (Work.check (runOptions setup)) :=
  fun _ _ _ => ⟨trivial, fun _ told => runOptions_limit told⟩

/-- What the runtime runs, it runs with the limit of the settings. -/
theorem running_yields {run : List Float → Except Fault RunResult × List Float}
    (limit : options.maxSteps = setup.settings.maxSteps.toNat)
    (short : ∀ rolls rest r, run rolls = (.ok r, rest) → r.actions.length ≤ 2 * options.maxSteps) :
    Yields (fun r => r.actions.length ≤ 2 * setup.settings.maxSteps.toNat) (running run) := by
  intro w _ _
  refine ⟨trivial, fun r ran => ?_⟩
  obtain ⟨rolls, rest, ran⟩ := running_ok ran
  rw [← limit]
  exact short rolls rest r ran

theorem firstRun_yields (address : String) (f : Flow) (vars : Fields) (deviceId firstStep : Option String) :
    Yields (fun first => first.2.actions.length ≤ 2 * setup.settings.maxSteps.toNat)
      (firstRun setup address f vars deviceId firstStep) := by
  rw [firstRun_eq]
  refine anyway.bind fun s => runOptions_yields.andThen fun options limit => anyway.bind fun now => ?_
  refine (running_yields limit fun rolls rest r ran => (run_lengths ran).2).andThen fun r few => ?_
  refine anyway.bind fun accepted => ?_
  cases accepted with
  | true => exact .pure fun _ _ _ => few
  | false => exact .fail

/-- A flow that is started, with those that it leads to, has a session for each; there is one at least, and one more for
each flow that the chain may have more. -/
theorem start_within (address : String) (left : Nat) (f : Flow) (vars : Fields) (deviceId firstStep : Option String) :
    Yields (Within setup (left + 1)) (start setup address left f vars deviceId firstStep) := by
  induction left generalizing f vars deviceId firstStep with
  | zero =>
    refine (firstRun_yields address f vars deviceId firstStep).bind fun first => ?_
    exact .pure fun _ _ few => within_one few
  | succ left ih =>
    refine (firstRun_yields address f vars deviceId firstStep).andThen fun first few => anyway.bind fun next => ?_
    cases next with
    | none => exact .pure fun _ _ _ => (within_one few).weaken (Nat.le_add_left 1 (left + 1))
    | some next =>
      refine Keeps.bind (ih next _ none none) fun chained => .pure fun _ _ more => ?_
      exact ((within_one few).extend more).weaken (Nat.le_of_eq (Nat.add_comm 1 (left + 1)))

theorem follow_within (within : Within setup n o) (address : String) (r : RunResult) :
    Yields (Within setup (n + maxChained)) (follow setup address r o) := by
  refine anyway.bind fun next => ?_
  cases next with
  | none => exact .pure fun _ _ _ => within.weaken (Nat.le_add_right n maxChained)
  | some next =>
    exact Keeps.bind (start_within address (maxChained - 1) next _ none none) fun chained =>
      .pure fun _ _ more => within.extend more

theorem startAll_within (within : Within setup n o) (e : Event) (triggered : List (Flow × String)) :
    Yields (Within setup (n + triggered.length * (maxChained + 1))) (startAll setup e triggered o) := by
  induction triggered generalizing n o with
  | nil => exact .pure fun _ _ _ => within.weaken (Nat.le_add_right n _)
  | cons entry rest ih =>
    refine (start_within _ maxChained entry.1 _ _ _).andThen fun started more => ?_
    refine (ih (within.extend more)).weaken (fun _ _ _ => trivial) fun last _ _ within => within.weaken ?_
    rw [List.length_cons, Nat.add_mul, Nat.one_mul]
    omega

theorem runReply_yields (f : Flow) (s : Session) (e : Event) :
    Yields (fun found => ∀ r, found = some r → r.actions.length ≤ 2 * setup.settings.maxSteps.toNat)
      (runReply setup f s e) := by
  refine anyway.bind fun resolution => ?_
  split
  · exact .pure fun _ _ _ _ impossible => by cases impossible
  · refine runOptions_yields.andThen fun options limit => anyway.bind fun now => ?_
    refine (running_yields limit fun rolls rest r ran => (run_lengths ran).2).bind fun r => .pure fun _ _ few _ same => ?_
    cases same
    exact few

/-- A reply that takes a session on has that session, and those of the flows that it leads to. -/
theorem continueSession_within (e : Event) (left : Nat) (s : Session) :
    Yields (fun o => o.status = .continued → Within setup (maxChained + 1) o) (continueSession setup e left s) := by
  have tried : ∀ f s, Yields (fun found => ∀ o, found = some o → o.status = .continued → Within setup (maxChained + 1) o)
      (tryReply setup f s e) := by
    intro f s
    refine (runReply_yields f s e).andThen fun found few => ?_
    cases found with
    | none =>
      refine .pure fun _ _ _ o same continued => ?_
      cases same
      cases continued
    | some r =>
      refine anyway.bind fun accepted => ?_
      cases accepted with
      | false => exact .pure fun _ _ _ o impossible => by cases impossible
      | true =>
        refine (follow_within (within_one (few r rfl)) s.address r).bind fun last => .pure fun _ _ within o same _ => ?_
        cases same
        exact within.weaken (Nat.le_of_eq (Nat.add_comm 1 maxChained))
  have others : ∀ {o : Outcome}, o.status ≠ .continued → o.status = .continued → Within setup (maxChained + 1) o :=
    fun other continued => absurd continued other
  induction left generalizing s with
  | zero => exact .fail
  | succ left ih =>
    refine anyway.bind fun found => ?_
    cases found with
    | none => exact anyway.bind fun _ => .pure fun _ _ _ => others OutcomeStatus.noConfusion
    | some f =>
      dsimp only
      split
      · refine anyway.bind fun agent => anyway.bind fun took => ?_
        have turned : turnStatus took.1 ≠ .continued := by
          unfold turnStatus
          split
          · exact OutcomeStatus.noConfusion
          · split <;> exact OutcomeStatus.noConfusion
        dsimp only
        split
        · exact anyway.bind fun _ => .pure fun _ _ _ => others turned
        · exact .pure fun _ _ _ => others turned
      · split
        · exact .pure fun _ _ _ => others OutcomeStatus.noConfusion
        · refine (tried f s).bind fun outcome => ?_
          cases outcome with
          | some o => exact .pure fun _ _ within => within o rfl
          | none =>
            refine .requiring (fun _ _ _ => trivial) (anyway.bind fun read => ?_)
            cases read.filter Session.isActive with
            | none => exact .pure fun _ _ _ => others OutcomeStatus.noConfusion
            | some current => exact ih current

/-- A wait that is over has its session, and those of the flows that it leads to. -/
theorem resumeLocked_within (now : Instant) (id : String) :
    Yields (Within setup (maxChained + 1)) (resumeLocked setup now id) := by
  have idle : ∀ status, Within setup (maxChained + 1) ⟨status, [id], []⟩ := fun status =>
    ⟨Nat.le_add_left 1 maxChained, Nat.zero_le _⟩
  refine anyway.bind fun read => ?_
  cases read with
  | none => exact .pure fun _ _ _ => idle _
  | some s =>
    refine anyway.bind fun waits => ?_
    split
    · split
      · exact .pure fun _ _ _ => idle _
      · refine runOptions_yields.andThen fun options limit => ?_
        refine (running_yields limit fun rolls rest r ran => (run_lengths ran).2).andThen fun r few => ?_
        refine anyway.bind fun accepted => ?_
        cases accepted with
        | false => exact .pure fun _ _ _ => idle _
        | true =>
          refine (follow_within (within_one few) s.address r).weaken (fun _ _ _ => trivial) fun _ _ _ within => ?_
          exact within.weaken (Nat.le_of_eq (Nat.add_comm 1 maxChained))
    · exact .pure fun _ _ _ => idle _

/-! What is decided under a contact's lock is what is answered. -/

theorem withLock_yields {fits : Outcome → Prop} {work : Work Outcome} (yields : Yields fits work) (address : String) :
    Yields fits (withLock setup address work) :=
  anyway.bind fun _ => .requiring (fun _ _ _ => trivial) (yields.finally' (fun _ _ => trivial) fun _ _ _ holds => holds)

theorem deliver_yields {fits : Outcome → Prop} {work : Work Outcome} (yields : Yields fits work) :
    Yields fits (work >>= deliver setup) := by
  refine yields.andThen fun o holds w _ _ => ⟨trivial, fun told answer => ?_⟩
  rw [CallCourses.deliver_ok] at answer
  cases answer
  exact holds

theorem startFlow_within (flowId address : String) (vars : Fields) :
    Yields (Within setup (maxChained + 1)) (startFlow setup flowId address vars) := by
  refine anyway.bind fun found => ?_
  cases found with
  | none => exact .fail
  | some f =>
    refine deliver_yields (withLock_yields ?_ _)
    exact anyway.bind fun vars => start_within _ maxChained f _ none none

theorem continueFlow_within (address flowId text : String) (replyId : Option String) :
    Yields (fun o => o.status = .continued → Within setup (maxChained + 1) o)
      (continueFlow setup address flowId text replyId) := by
  refine deliver_yields (withLock_yields (anyway.bind fun found => ?_) _)
  cases found.filter Session.isActive with
  | none => exact .fail
  | some s => exact anyway.bind fun e => continueSession_within e _ s

theorem resumeAsOf_within (now : Instant) (id : String) :
    Yields (Within setup (maxChained + 1)) (resumeAsOf setup now id) := by
  refine anyway.bind fun read => ?_
  cases read with
  | none => exact .pure fun _ _ _ => ⟨Nat.zero_le _, Nat.zero_le _⟩
  | some s => exact deliver_yields (withLock_yields (resumeLocked_within now id) _)

end Chatflow.Proofs.RunLengths
