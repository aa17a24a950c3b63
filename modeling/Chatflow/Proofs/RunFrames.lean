import Chatflow.Proofs.FlowPaths

/-! What runs leave alone. A run counts the turns of its rotators and changes no other variable; it hands the conversation
over only at an assignment, and after a reply it differs from a run without one by what was answered. -/

namespace Chatflow.Proofs.RunFrames
open Interpreter StepEffects RunEndings FlowPaths

variable {f : Flow} {options : RunOptions} {now : Instant} {s : Session} {rolls rest : List Float}
  {vars after : Fields} {step : Step} {steps : List Step}

/-- What the steps of a run do to the variables: each rotator that takes its branches in turn has counted how often it was
taken, on top of what its counter stood for, and nothing else has changed. -/
structure Counted (steps : List Step) (vars after : Fields) : Prop where
  others : ∀ key, after.get? key ≠ vars.get? key →
    ∃ step ∈ steps, CountsTurns step.body ∧ key = Rotator.counterKey step.id
  counters : ∀ step ∈ steps, CountsTurns step.body →
    ∃ old, Rotator.counterValue (vars.get? (Rotator.counterKey step.id)) = .ok old ∧
      after.get? (Rotator.counterKey step.id) = some (.int (old + (steps.map Step.id).count step.id))

theorem counterKey_inj {id other : String} (same : Rotator.counterKey id = Rotator.counterKey other) : id = other := by
  simpa only [Rotator.counterKey, String.append_right_inj] using same

theorem counterValue_int (n : Int) : Rotator.counterValue (some (.int n)) = .ok n := by
  by_cases zero : n = 0
  · subst zero
    rfl
  · simp [Rotator.counterValue, Value.truthy, zero]

theorem Counted.refl (vars : Fields) : Counted [] vars vars where
  others key changed := absurd rfl changed
  counters step member := by cases member

/-- The counter of a rotator that is not taken stays as it is. -/
theorem Counted.untaken (counted : Counted steps vars after) {id : String} (untaken : id ∉ steps.map Step.id) :
    after.get? (Rotator.counterKey id) = vars.get? (Rotator.counterKey id) := by
  refine Classical.not_not.mp fun changed => ?_
  obtain ⟨step, member, _, same⟩ := counted.others _ changed
  exact untaken (counterKey_inj same ▸ List.mem_map_of_mem member)

theorem Counted.skip (uncounted : ¬ CountsTurns step.body) (alike : ∀ other ∈ steps, other.id = step.id → other = step)
    (later : Counted steps vars after) : Counted (step :: steps) vars after where
  others key changed := by
    obtain ⟨other, member, counts, same⟩ := later.others key changed
    exact ⟨other, List.mem_cons_of_mem step member, counts, same⟩
  counters other member counts := by
    rcases List.mem_cons.mp member with rfl | member
    · exact absurd counts uncounted
    · have apart : step.id ≠ other.id := fun same => uncounted (alike other member same.symm ▸ counts)
      rw [List.map_cons, List.count_cons_of_ne apart]
      exact later.counters other member counts

/-- A turn that is counted first is one more, whether the rotator is taken again later or not. -/
theorem Counted.turn {count : Int} (counts : CountsTurns step.body)
    (read : Rotator.counterValue (vars.get? (Rotator.counterKey step.id)) = .ok count)
    (alike : ∀ other ∈ steps, other.id = step.id → other = step)
    (later : Counted steps (vars.set (Rotator.counterKey step.id) (.int (count + 1))) after) :
    Counted (step :: steps) vars after where
  others key changed := by
    by_cases own : key = Rotator.counterKey step.id
    · exact ⟨step, List.mem_cons_self, counts, own⟩
    · have changed : after.get? key ≠ (vars.set (Rotator.counterKey step.id) (.int (count + 1))).get? key := by
        rwa [Fields.get?_set, if_neg (Ne.symm own)]
      obtain ⟨other, member, counts, same⟩ := later.others key changed
      exact ⟨other, List.mem_cons_of_mem step member, counts, same⟩
  counters other member counts := by
    by_cases own : other.id = step.id
    · refine ⟨count, own ▸ read, ?_⟩
      rw [own, List.map_cons, List.count_cons_self]
      by_cases again : step.id ∈ steps.map Step.id
      · obtain ⟨same, taken, named⟩ := List.mem_map.mp again
        obtain rfl := alike same taken named
        obtain ⟨old, stands, final⟩ := later.counters same taken ‹_›
        rw [Fields.get?_set, if_pos rfl, counterValue_int] at stands
        cases stands
        rw [final, Int.natCast_succ, Int.add_assoc, Int.add_comm 1]
      · rw [later.untaken again, Fields.get?_set, if_pos rfl, List.count_eq_zero_of_not_mem again]
        rfl
    · have taken : other ∈ steps := (List.mem_cons.mp member).resolve_left fun same => own (same ▸ rfl)
      obtain ⟨old, stands, final⟩ := later.counters other taken counts
      rw [Fields.get?_set, if_neg fun same => own (counterKey_inj same).symm] at stands
      exact ⟨old, stands, by rw [final, List.map_cons, List.count_cons_of_ne (Ne.symm own)]⟩

theorem Counted.cons {effect : Effect} (done : effectOf f options now step s rolls = (.ok effect, rest))
    (alike : ∀ other ∈ steps, other.id = step.id → other = step) (later : Counted steps effect.session.vars after) :
    Counted (step :: steps) s.vars after := by
  rcases effectOf_vars done with ⟨uncounted, same⟩ | ⟨counts, count, read, same⟩ <;> rw [same] at later
  · exact later.skip uncounted alike
  · exact later.turn counts read alike

/-- The conversation has changed hands at an assignment, or not at all. -/
def HandedOver (steps : List Step) (s after : Session) : Prop :=
  after.assignee = s.assignee ∧ after.aiTurns = s.aiTurns ∨ ∃ step ∈ steps, ∃ c, step.body = .assign c

theorem HandedOver.cons {effect : Effect} {last : Session}
    (done : effectOf f options now step s rolls = (.ok effect, rest)) (later : HandedOver steps effect.session last) :
    HandedOver (step :: steps) s last := by
  by_cases assigns : ∃ c, step.body = .assign c
  · exact Or.inr ⟨step, List.mem_cons_self, assigns⟩
  · obtain ⟨owner, turns⟩ := effectOf_owner done (not_exists.mp assigns)
    rcases later with ⟨sameOwner, sameTurns⟩ | ⟨other, member, assigns⟩
    · exact Or.inl ⟨sameOwner.trans owner, sameTurns.trans turns⟩
    · exact Or.inr ⟨other, List.mem_cons_of_mem step member, assigns⟩

/-- The induction is on the steps left to take: what the first step changes, the others go on from. -/
theorem walk_frame {left : Nat} {start : Option String} {r : RunResult}
    (walked : walk f options now left s rolls start = (.ok r, rest)) :
    Counted (trail f options now left s rolls start).1 s.vars r.session.vars ∧
    HandedOver (trail f options now left s rolls start).1 s r.session := by
  induction left generalizing s rolls start r with
  | zero => cases start <;> cases walked <;> exact ⟨.refl s.vars, Or.inl ⟨rfl, rfl⟩⟩
  | succ left ih =>
    cases start with
    | none => cases walked; exact ⟨.refl s.vars, Or.inl ⟨rfl, rfl⟩⟩
    | some id =>
      cases found : f.step? id with
      | none =>
        simp only [walk, found] at walked
        cases walked
        simp only [trail, found]
        exact ⟨.refl s.vars, Or.inl ⟨rfl, rfl⟩⟩
      | some step =>
        rcases done : effectOf f options now step s rolls with ⟨_ | ⟨between, actions, onward⟩, remaining⟩
        · simp only [walk, found, done] at walked
          cases walked
        · cases onward with
          | stop directive =>
            simp only [walk, found, done] at walked
            cases walked
            simp only [trail, found, done]
            exact ⟨(Counted.refl _).cons done fun _ member => (by cases member), HandedOver.cons done (Or.inl ⟨rfl, rfl⟩)⟩
          | goto next =>
            rcases onwards : walk f options now left between remaining next with ⟨_ | last, final⟩ <;>
              simp only [walk, found, done, onwards, Except.map] at walked <;> cases walked
            obtain ⟨counted, handed⟩ := ih onwards
            simp only [trail, found, done]
            refine ⟨counted.cons done fun other member same => ?_, handed.cons done⟩
            have known := trail_found left between remaining next other member
            rw [same, step?_self found] at known
            exact (Option.some.inj known).symm

/-- A question or a choice keeps its answer under a name. -/
def KeepsUnder (f : Flow) (stepId : Option String) (key : String) : Prop :=
  key ≠ "" ∧ ∃ step, stepId.bind f.step? = some step ∧
    ((∃ c, step.body = .question c ∧ c.storeKey = some key) ∨
      ∃ style c, step.body = .choice style c ∧ c.storeKey = some key)

theorem storeKey?_eq_some {stepId : Option String} {key : String} :
    storeKey? f stepId = some key ↔ KeepsUnder f stepId key := by
  simp only [storeKey?, KeepsUnder, Option.filter_eq_some_iff, bne_iff_ne, ne_eq, and_comm (b := ¬key = "")]
  refine and_congr_right fun _ => ?_
  cases stepId.bind f.step? with
  | none => simp
  | some step => cases body : step.body <;> simp [body, and_assoc]

/-- An answer stands among the variables as the last one and under the name that its step keeps it under; the other
variables are as they were. -/
structure Answered (f : Flow) (stepId : Option String) (answer : Value) (vars after : Fields) : Prop where
  last : after.get? "last_reply" = some answer
  kept : ∀ key, KeepsUnder f stepId key → after.get? key = some answer
  others : ∀ key, key ≠ "last_reply" → ¬ KeepsUnder f stepId key → after.get? key = vars.get? key

theorem recordAnswer_answered (f : Flow) (stepId : Option String) (answer : Value) (vars : Fields) :
    Answered f stepId answer vars (recordAnswer f stepId answer vars) := by
  have recorded (key : String) : (recordAnswer f stepId answer vars).get? key =
      if storeKey? f stepId = some key ∨ "last_reply" = key then some answer else vars.get? key := by
    unfold recordAnswer
    cases storeKey? f stepId with
    | none => simp [Fields.get?_set]
    | some name => by_cases own : name = key <;> simp [Fields.get?_set, own]
  refine ⟨?_, fun key keeps => ?_, fun key other unkept => ?_⟩
  · rw [recorded, if_pos (Or.inr rfl)]
  · rw [recorded, if_pos (Or.inl (storeKey?_eq_some.mpr keeps))]
  · rw [recorded, if_neg (not_or.mpr ⟨fun keeps => unkept (storeKey?_eq_some.mp keeps), Ne.symm other⟩)]

/-- A run that returns has kept whose session it is, where it came from and when it was made. Of its variables it has
changed the counters of the rotators that it took in turn, each by the number of times, and no others; and owner and turns
only if it took an assignment. A reply makes no difference beyond what is recorded of it before the run. -/
theorem run_changes_only_its_own {start : Option String} {r : RunResult}
    (ran : run f options now s rolls start = (.ok r, rest)) :
    let steps := (trail f options now options.maxSteps s.fresh rolls start).1
    r.executed = steps.map (fun step => step.body.kindName) ∧
    (r.session.id = s.id ∧ r.session.address = s.address ∧ r.session.flowId = s.flowId ∧
      r.session.deviceId = s.deviceId ∧ r.session.createdAt = s.createdAt) ∧
    Counted steps s.vars r.session.vars ∧
    (r.session.assignee ≠ s.assignee ∨ r.session.aiTurns ≠ s.aiTurns → ∃ step ∈ steps, ∃ c, step.body = .assign c) ∧
    ∀ stepId reply next optionId,
      ∃ vars, Answered f stepId (answerAt f stepId reply optionId) s.vars vars ∧
        continueFromReply f options now s rolls stepId reply next optionId =
          run f options now { s with vars := vars } rolls next := by
  have same := run_sameConversation ran
  rcases walked : walk f options now options.maxSteps s.fresh rolls start with ⟨_ | ended, remaining⟩ <;>
    simp only [run, walked, Except.map] at ran <;> cases ran
  obtain ⟨counted, handed⟩ := walk_frame walked
  refine ⟨(walk_concludes walked).1, ⟨same.id, same.address, same.flowId, same.deviceId, same.createdAt⟩, counted, ?_, ?_⟩
  · intro changed
    rcases handed with ⟨owner, turns⟩ | assigns
    · rcases changed with changed | changed
      · exact absurd owner changed
      · exact absurd turns changed
    · exact assigns
  · intro stepId reply next optionId
    exact ⟨_, recordAnswer_answered f stepId _ s.vars, rfl⟩

/-- A flow that goes round by way of a rotator. -/
def alternating : Flow :=
  { id := "alternating",
    steps := [⟨"begin", .start none⟩,
      ⟨"pick", .rotator { sequential := true, options := [{ id := "a", weight := 1.0 }, { id := "b", weight := 1.0 }] }⟩],
    connections := [⟨"c1", "begin", "pick", none, none⟩, ⟨"c2", "pick", "begin", none, none⟩] }

def fourthTurn : Session :=
  { newcomer alternating with vars := [("name", .str "Ana"), ("__rotator__pick", .str "4")] }

theorem alternating_counts_on : ∃ r,
    run alternating { maxSteps := 4 } ⟨5, 0⟩ fourthTurn [] (some "begin") = (.ok r, []) ∧
    Counted [⟨"begin", .start none⟩, alternating.steps[1], ⟨"begin", .start none⟩, alternating.steps[1]]
      fourthTurn.vars r.session.vars ∧
    r.session.vars = [("name", .str "Ana"), ("__rotator__pick", .int 6)] :=
  ⟨_, rfl, (@run_changes_only_its_own alternating { maxSteps := 4 } ⟨5, 0⟩ fourthTurn [] [] (some "begin") _ rfl).2.2.1, rfl⟩

end Chatflow.Proofs.RunFrames
