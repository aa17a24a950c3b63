import Chatflow.Proofs.RunEndings
import Chatflow.Reply

/-! The ways through a flow. Steps lead on, replies are resolved and waits go on along the connections of the flow and
in no other way. What holds where a conversation begins and is handed on along connections therefore holds wherever it
comes to. -/

namespace Chatflow.Proofs.FlowPaths
open Interpreter StepEffects RunEndings

variable {f : Flow} {holds : String → Prop}

/-- A way from a step leads nowhere, or along a connection that leaves the step. -/
def LeadsOn (f : Flow) (id : String) (next : Option String) : Prop :=
  ∀ target, next = some target → ∃ c ∈ f.outgoing id, c.target = target

theorem leadsOn_of_mem {id : String} {c : Connection} (leaves : c ∈ f.outgoing id) : LeadsOn f id (some c.target) := by
  intro target same
  exact ⟨c, leaves, Option.some.inj same⟩

theorem next?_leadsOn (f : Flow) (id : String) : LeadsOn f id (f.next? id) := by
  intro target next
  obtain ⟨c, first, same⟩ := Option.map_eq_some_iff.mp next
  exact ⟨c, List.mem_of_head? first, same⟩

theorem conditionTarget_leadsOn (f : Flow) (id : String) (met : Bool) : LeadsOn f id (conditionTarget f id met) := by
  unfold conditionTarget
  dsimp only
  split
  next c found => exact leadsOn_of_mem (List.mem_of_find?_eq_some found)
  next => exact next?_leadsOn f id

theorem connectionFor?_mem {id handle : String} {c : Connection} (found : f.connectionFor? id handle = some c) :
    c ∈ f.outgoing id :=
  List.mem_of_find?_eq_some found

theorem branchTarget_leadsOn (f : Flow) (id : String) (chosen : Option RotatorOption) :
    LeadsOn f id (branchTarget f id chosen) := by
  unfold branchTarget
  split
  next c found =>
    obtain ⟨o, _, connected⟩ := Option.bind_eq_some_iff.mp found
    exact leadsOn_of_mem (connectionFor?_mem connected)
  next => exact next?_leadsOn f id

theorem rotatorEffect_leadsOn {step : Step} {c : RotatorConfig} {s after : Session} {rolls rest : List Float}
    {actions : List Action} {next : Option String}
    (done : rotatorEffect f step.id c s rolls = (.ok ⟨after, actions, .goto next⟩, rest)) :
    LeadsOn f step.id next := by
  simp only [rotatorEffect] at done
  split at done
  · cases done; exact next?_leadsOn f _
  · split at done
    · split at done
      · cases done
      · cases done; exact branchTarget_leadsOn f _ _
    · split at done
      · cases done
      · cases done; exact branchTarget_leadsOn f _ _

theorem assignEffect_leadsOn {options : RunOptions} {id : String} {c : AssignConfig} {s after : Session}
    {actions : List Action} {next : Option String}
    (done : assignEffect f options id c s = ⟨after, actions, .goto next⟩) : LeadsOn f id next := by
  simp only [assignEffect] at done
  split at done
  · cases done
  · cases kind : c.agentKind with
    | ai => simp only [kind] at done; cases done
    | human => simp only [kind] at done; cases done; exact next?_leadsOn f _

/-- A step that a run goes on from leads along one of its connections. -/
theorem effectOf_leadsOn {options : RunOptions} {now : Instant} {step : Step} {s after : Session}
    {rolls rest : List Float} {actions : List Action} {next : Option String}
    (done : effectOf f options now step s rolls = (.ok ⟨after, actions, .goto next⟩, rest)) :
    LeadsOn f step.id next := by
  cases body : step.body with
  | start trigger =>
    simp only [effectOf, body] at done
    cases done; exact next?_leadsOn f _
  | sendMessage c =>
    simp only [effectOf, body, Prod.mk.injEq] at done
    cases content : messageContent? c s.vars <;> rw [content] at done <;> cases done.1
    exact next?_leadsOn f _
  | template c =>
    simp only [effectOf, body, Prod.mk.injEq] at done
    cases filled : c.vars.mapM (Template.fill s.vars) <;> rw [filled] at done <;> cases done.1
    exact next?_leadsOn f _
  | question c =>
    simp only [effectOf, body, Prod.mk.injEq] at done
    cases filled : Template.fill s.vars c.text <;> rw [filled] at done <;> cases done.1
  | choice style c =>
    simp only [effectOf, body, Prod.mk.injEq] at done
    cases content : choiceContent c s.vars <;> rw [content] at done <;> cases done.1
  | wait c =>
    simp only [effectOf, body, waitEffect, Prod.mk.injEq] at done
    cases due : now.addSeconds c.seconds <;> rw [due] at done <;> cases done.1
  | condition c =>
    simp only [effectOf, body] at done
    split at done
    · cases done
    · cases done; exact conditionTarget_leadsOn f _ _
  | assign c =>
    simp only [effectOf, body, Prod.mk.injEq] at done
    exact assignEffect_leadsOn (Except.ok.inj done.1)
  | rotator c =>
    simp only [effectOf, body] at done
    exact rotatorEffect_leadsOn done
  | automation | invalid | unknown =>
    simp only [effectOf, body] at done
    cases done

/-- A reply that is resolved to a way from a step: it goes along a connection that leaves the step, by one of the rules
that find such ways. -/
structure Follows (f : Flow) (id : String) (r : Resolution) : Prop where
  along : ∃ c ∈ f.outgoing id, r.next = some c.target
  matched : r.matchedBy ≠ .noMatch
  leads : r.matchedBy ≠ .endOfFlow

theorem Follows.leadsOn {id : String} {r : Resolution} (follows : Follows f id r) : LeadsOn f id r.next := by
  obtain ⟨c, leaves, same⟩ := follows.along
  rw [same]
  exact leadsOn_of_mem leaves

theorem follow?_follows {id : String} {rule : ReplyMatch} {option : ChoiceOption} {r : Resolution}
    (followed : Reply.follow? f id rule option = some r) (matched : rule ≠ .noMatch) (leads : rule ≠ .endOfFlow) :
    Follows f id r := by
  obtain ⟨c, connected, rfl⟩ := Option.map_eq_some_iff.mp followed
  exact ⟨⟨c, connectionFor?_mem connected, rfl⟩, matched, leads⟩

theorem byIndex_follows {step : Step} {id reply : String} {r : Resolution}
    (resolved : Reply.byIndex f step id reply = .ok (some r)) : Follows f id r := by
  unfold Reply.byIndex at resolved
  split at resolved
  · split at resolved
    · cases resolved
    · obtain ⟨option, _, followed⟩ := Option.bind_eq_some_iff.mp (Except.ok.inj resolved)
      exact follow?_follows followed (by decide) (by decide)
  · cases resolved

theorem byId_follows {step : Step} {id raw : String} {r : Resolution} (resolved : Reply.byId f step id raw = some r) :
    Follows f id r := by
  unfold Reply.byId at resolved
  split at resolved
  · obtain ⟨option, _, followed⟩ := List.exists_of_findSome?_eq_some resolved
    exact follow?_follows followed (by decide) (by decide)
  · cases resolved

theorem byKeyword_follows {step : Step} {id reply : String} {r : Resolution}
    (resolved : Reply.byKeyword f step id reply = some r) : Follows f id r := by
  unfold Reply.byKeyword at resolved
  split at resolved
  · cases resolved
  · obtain ⟨c, found, rfl⟩ := Option.map_eq_some_iff.mp resolved
    exact ⟨⟨c, List.mem_of_find?_eq_some found, rfl⟩, by simp, by simp⟩

theorem bySingle_follows {step : Step} {id : String} {r : Resolution} (resolved : Reply.bySingle f step id = some r) :
    Follows f id r := by
  unfold Reply.bySingle at resolved
  split at resolved
  next c only =>
    split at resolved
    · cases resolved
    · cases resolved
      exact ⟨⟨c, by rw [only]; exact List.mem_singleton_self c, rfl⟩, by simp, by simp⟩
  next => cases resolved

/-- The rules that do not count options: each is tried if those before it do not apply. -/
theorem otherRules_follow (f : Flow) (step : Step) (id raw reply : String) :
    let resolved := ((Reply.byId f step id raw).orElse fun _ =>
      (Reply.byKeyword f step id reply).orElse fun _ => Reply.bySingle f step id).getD .noMatch
    resolved = .noMatch ∨ Follows f id resolved := by
  cases named : Reply.byId f step id raw with
  | some r => exact Or.inr (byId_follows named)
  | none =>
    cases worded : Reply.byKeyword f step id reply with
    | some r => exact Or.inr (byKeyword_follows worded)
    | none =>
      cases single : Reply.bySingle f step id with
      | some r => exact Or.inr (bySingle_follows single)
      | none => exact Or.inl rfl

/-- A reply matches nothing, ends the flow, or follows a connection of the step at which it is resolved. -/
theorem resolve_follows {stepId : Option String} {raw : String} {r : Resolution}
    (resolved : Reply.resolve f stepId raw = .ok r) :
    r = .noMatch ∨ r = .endOfFlow ∨ ∃ id, stepId = some id ∧ Follows f id r := by
  unfold Reply.resolve at resolved
  split at resolved
  · cases resolved; exact Or.inl rfl
  next id step known =>
    obtain ⟨given, same, found⟩ := Option.bind_eq_some_iff.mp known
    obtain ⟨_, _, found⟩ := Option.map_eq_some_iff.mp found
    cases found
    split at resolved
    · cases resolved; exact Or.inr (Or.inl rfl)
    · dsimp only at resolved
      rcases numbered : Reply.byIndex f step id (Text.normalize raw) with _ | _ | option <;>
        rw [numbered] at resolved <;> cases resolved
      · rcases otherRules_follow f step id raw (Text.normalize raw) with none | follows
        · exact Or.inl none
        · exact Or.inr (Or.inr ⟨id, same, follows⟩)
      · exact Or.inr (Or.inr ⟨id, same, byIndex_follows numbered⟩)

/-- A reply leads nowhere, or along a connection of the step at which it is resolved. -/
theorem resolve_leadsOn {stepId : Option String} {raw : String} {r : Resolution}
    (resolved : Reply.resolve f stepId raw = .ok r) :
    r.next = none ∨ ∃ id, stepId = some id ∧ LeadsOn f id r.next := by
  rcases resolve_follows resolved with rfl | rfl | ⟨id, same, follows⟩
  · exact Or.inl rfl
  · exact Or.inl rfl
  · exact Or.inr ⟨id, same, follows.leadsOn⟩

/-- A property holds at a step of the flow. -/
abbrev Stands (f : Flow) (holds : String → Prop) (id : String) : Prop := (f.step? id).isSome ∧ holds id

/-- A property of step ids that is handed on along the connections that leave steps of a flow. -/
def HandedOn (f : Flow) (holds : String → Prop) : Prop :=
  ∀ c ∈ f.connections, Stands f holds c.source → holds c.target

/-- A property holds of the step that is named, if one is. -/
abbrev HoldsAt (holds : String → Prop) (place : Option String) : Prop := ∀ id, place = some id → holds id

theorem HandedOn.along (handed : HandedOn f holds) {id : String} (here : Stands f holds id) {next : Option String}
    (leads : LeadsOn f id next) : HoldsAt holds next := by
  intro target same
  obtain ⟨c, leaves, rfl⟩ := leads target same
  obtain ⟨member, source⟩ := List.mem_filter.mp leaves
  exact handed c member (by rwa [eq_of_beq source])

/-- What is handed on holds of all steps that a walk takes, and of the one that it does not find. The induction is on
the steps left to take. -/
theorem trail_holds (handed : HandedOn f holds) (options : RunOptions) (now : Instant) (left : Nat) (s : Session)
    (rolls : List Float) {start : Option String} (begins : HoldsAt holds start) :
    (∀ step ∈ (trail f options now left s rolls start).1, holds step.id ∧ f.step? step.id = some step) ∧
    ((trail f options now left s rolls start).2 = .lost → ∃ id, holds id ∧ f.step? id = none) := by
  induction left generalizing s rolls start with
  | zero => cases start <;> simp [trail]
  | succ left ih =>
    cases start with
    | none => simp [trail]
    | some id =>
      have here := begins id rfl
      cases found : f.step? id with
      | none =>
        simp only [trail, found]
        exact ⟨by simp, fun _ => ⟨id, here, found⟩⟩
      | some step =>
        have taken : holds step.id ∧ f.step? step.id = some step :=
          ⟨by rwa [step?_id found], step?_self found⟩
        simp only [trail, found]
        split
        next after actions next rolls done =>
          have here : Stands f holds step.id := ⟨Option.isSome_of_eq_some taken.2, taken.1⟩
          have onward := handed.along here (effectOf_leadsOn done)
          obtain ⟨steps, astray⟩ := ih after rolls onward
          refine ⟨fun other member => ?_, astray⟩
          rcases List.mem_cons.mp member with rfl | later
          · exact taken
          · exact steps other later
        next =>
          refine ⟨fun other member => ?_, fun impossible => by cases impossible⟩
          rw [List.mem_singleton.mp member]
          exact taken

theorem trail_found {options : RunOptions} {now : Instant} (left : Nat) (s : Session) (rolls : List Float)
    (start : Option String) : ∀ step ∈ (trail f options now left s rolls start).1, f.step? step.id = some step := by
  have anywhere : HandedOn f fun _ => True := fun _ _ _ => trivial
  intro step member
  exact ((trail_holds anywhere options now left s rolls fun _ _ => trivial).1 step member).2

/-- After a run a session stands at a step that is handed the property, and what it waits for is handed it too. -/
theorem run_holds {options : RunOptions} {now : Instant} {s : Session} {rolls rest : List Float}
    {start : Option String} {r : RunResult} (ran : run f options now s rolls start = (.ok r, rest))
    (handed : HandedOn f holds) (begins : HoldsAt holds start) :
    HoldsAt (Stands f holds) r.session.currentStep ∧ HoldsAt holds r.session.resumeStep := by
  obtain ⟨ended, rfl, _, reached, ⟨vars, owner, turns, rfl, _⟩, concludes⟩ := run_concludes ran
  have visited := (trail_holds handed options now options.maxSteps s.fresh rolls begins).1
  have nowhere {holds : String → Prop} : HoldsAt holds none := fun id impossible => by cases impossible
  revert concludes
  cases (trail f options now options.maxSteps s.fresh rolls start).2 with
  | finished | exhausted | lost =>
    intro concludes
    simp only [concludes.1]
    exact ⟨nowhere, nowhere⟩
  | stopped =>
    intro ⟨step, earlier, final, last, _, _, does⟩
    obtain ⟨held, found⟩ := visited step (List.mem_of_getLast? last)
    have here : Stands f holds step.id := ⟨Option.isSome_of_eq_some found, held⟩
    have parked : HoldsAt (Stands f holds) (some step.id) := fun id same => Option.some.inj same ▸ here
    rcases ended with ⟨emitted, after, directive, executed⟩
    cases does with
    | asks | hands => exact ⟨parked, nowhere⟩
    | waits => exact ⟨parked, handed.along here (next?_leadsOn f step.id)⟩
    | chains | refuses | lacksAgent => exact ⟨nowhere, nowhere⟩

/-- What a conversation in a flow comes to, run by run. It begins at the start step; it goes on with replies, each
resolved at the step where the session stands, and with waits that are over. -/
inductive Conversation (f : Flow) : RunResult → Prop where
  | begins {options now s rolls rest r}
      (ran : run f options now s rolls (f.startStep?.map Step.id) = (.ok r, rest)) : Conversation f r
  | replied {former options now rolls rest raw answer resolution optionId r} (talked : Conversation f former)
      (resolved : Reply.resolve f former.session.currentStep raw = .ok resolution)
      (ran : continueFromReply f options now former.session rolls former.session.currentStep answer resolution.next
        optionId = (.ok r, rest)) : Conversation f r
  | resumed {former options now rolls rest r} (talked : Conversation f former)
      (waiting : former.session.isWaiting = true)
      (ran : run f options now former.session rolls former.session.resumeStep = (.ok r, rest)) : Conversation f r

/-- The last run of a conversation begins at no step, or at one that is handed what holds of the start step; and so is
the step where it leaves the session, and the one where it is to go on. -/
theorem Conversation.reaches {r : RunResult} (talked : Conversation f r) (handed : HandedOn f holds)
    (begins : HoldsAt holds (f.startStep?.map Step.id)) :
    (∃ options now s rolls rest start, run f options now s rolls start = (.ok r, rest) ∧ HoldsAt holds start) ∧
    HoldsAt (Stands f holds) r.session.currentStep ∧ HoldsAt holds r.session.resumeStep := by
  induction talked with
  | begins ran => exact ⟨⟨_, _, _, _, _, _, ran, begins⟩, run_holds ran handed begins⟩
  | @replied former _ _ _ _ _ _ resolution _ _ talked resolved ran ih =>
    have next : HoldsAt holds resolution.next := by
      rcases resolve_leadsOn resolved with nowhere | ⟨id, place, leads⟩
      · rw [nowhere]; exact fun id impossible => by cases impossible
      · exact handed.along (ih.2.1 id place) leads
    exact ⟨⟨_, _, _, _, _, _, ran, next⟩, run_holds ran handed next⟩
  | resumed talked waiting ran ih => exact ⟨⟨_, _, _, _, _, _, ran, ih.2.2⟩, run_holds ran handed ih.2.2⟩

end Chatflow.Proofs.FlowPaths
