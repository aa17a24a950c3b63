import Chatflow.Flow.Reachability
import Chatflow.Proofs.AcceptedFlows
import Chatflow.Proofs.SentActions

/-! The search for the steps of a flow that can be come to finds all of them and no others, and no conversation ever
leaves them: whatever it takes, sends or stops at lies among the steps that the search found. -/

namespace Chatflow.Proofs.ReachableSteps
open Chatflow.Flow Interpreter RunEndings FlowPaths SentActions AcceptedFlows

variable {f : Flow} {holds : String → Prop}

theorem present_of_reachable {id : String} (reached : Reachable f id) : (f.step? id).isSome := by
  cases reached with
  | start starts => exact List.find?_isSome.mpr ⟨_, List.mem_of_find?_eq_some starts, beq_self_eq_true _⟩
  | step _ leads => cases leads; assumption

/-- Connections that are followed add their targets to what is found and to the line: each that exists and is new. -/
theorem foldl_note (cs : List Connection) (state : Search) :
    ∃ fresh, cs.foldl (Search.note f) state = ⟨state.found ++ fresh, state.line ++ fresh⟩ ∧
      (state.found.Nodup → (state.found ++ fresh).Nodup) ∧
      (∀ id ∈ fresh, ∃ c ∈ cs, c.target = id ∧ (f.step? id).isSome) ∧
      ∀ c ∈ cs, (f.step? c.target).isSome → c.target ∈ state.found ++ fresh := by
  induction cs generalizing state with
  | nil => exact ⟨[], by simp, by simp, by simp, by simp⟩
  | cons c rest ih =>
    rw [List.foldl_cons]
    by_cases known : (state.found.contains c.target || (f.step? c.target).isNone) = true
    · have stays : Search.note f state c = state := if_pos known
      obtain ⟨fresh, same, distinct, led, covered⟩ := ih state
      refine ⟨fresh, by rw [stays, same], distinct, ?_, ?_⟩
      · intro id member
        obtain ⟨other, inside, leads⟩ := led id member
        exact ⟨other, List.mem_cons_of_mem _ inside, leads⟩
      · intro other member present
        rcases List.mem_cons.mp member with rfl | inside
        · have found : other.target ∈ state.found := by
            simpa [Option.isNone_iff_eq_none, Option.isSome_iff_ne_none.mp present] using known
          exact List.mem_append_left _ found
        · exact covered other inside present
    · have adds : Search.note f state c = ⟨state.found ++ [c.target], state.line ++ [c.target]⟩ := if_neg known
      simp only [Bool.or_eq_true, not_or, List.contains_iff_mem, Bool.not_eq_true, Option.isNone_eq_false_iff] at known
      obtain ⟨fresh, same, distinct, led, covered⟩ := ih ⟨state.found ++ [c.target], state.line ++ [c.target]⟩
      refine ⟨c.target :: fresh, ?_, ?_, ?_, ?_⟩
      · rw [adds, same]
        simp
      · intro nodup
        have longer : (state.found ++ [c.target]).Nodup := by
          rw [List.nodup_append]
          refine ⟨nodup, List.nodup_singleton _, ?_⟩
          intro a inside b single equal
          rw [List.mem_singleton.mp single] at equal
          exact known.1 (equal ▸ inside)
        simpa using distinct longer
      · intro id member
        rcases List.mem_cons.mp member with rfl | later
        · exact ⟨c, List.mem_cons_self, rfl, known.2⟩
        · obtain ⟨other, inside, leads⟩ := led id later
          exact ⟨other, List.mem_cons_of_mem _ inside, leads⟩
      · intro other member present
        rcases List.mem_cons.mp member with rfl | inside
        · simp
        · simpa using covered other inside present

/-- What holds of a search all along: it has found only steps that can be come to, and of those that it found it has
followed the connections, or they stand in line. -/
structure Underway (f : Flow) (state : Search) : Prop where
  sound : ∀ id ∈ state.found, Reachable f id
  lined : ∀ id ∈ state.line, id ∈ state.found
  followed : ∀ id ∈ state.found, id ∈ state.line ∨ ∀ target, Leads f id target → target ∈ state.found
  distinct : state.found.Nodup

theorem Underway.follow {found rest : List String} {id : String} (underway : Underway f ⟨found, id :: rest⟩) :
    Underway f (Search.follow f ⟨found, rest⟩ id) ∧
    ∀ other ∈ found, other ∈ (Search.follow f ⟨found, rest⟩ id).found := by
  obtain ⟨fresh, same, distinct, led, covered⟩ := @foldl_note f (f.outgoing id) ⟨found, rest⟩
  dsimp only at same distinct covered
  unfold Search.follow
  rw [same]
  have source : ∀ c ∈ f.outgoing id, c ∈ f.connections ∧ c.source = id := fun c leaves =>
    (List.mem_filter.mp leaves).imp_right eq_of_beq
  refine ⟨⟨?_, ?_, ?_, distinct underway.distinct⟩, fun other inside => List.mem_append_left _ inside⟩
  · intro other member
    rcases List.mem_append.mp member with former | new
    · exact underway.sound other former
    · obtain ⟨c, leaves, rfl, present⟩ := led other new
      obtain ⟨inside, from_⟩ := source c leaves
      refine .step (underway.sound id (underway.lined id List.mem_cons_self)) ?_
      rw [← from_]
      exact .along inside present
  · intro other member
    rcases List.mem_append.mp member with former | new
    · exact List.mem_append_left _ (underway.lined other (List.mem_cons_of_mem _ former))
    · exact List.mem_append_right _ new
  · intro other member
    rcases List.mem_append.mp member with former | new
    · rcases underway.followed other former with waiting | done
      · rcases List.mem_cons.mp waiting with rfl | later
        · refine Or.inr fun target leads => ?_
          cases leads with
          | along inside present =>
            exact covered _ (List.mem_filter.mpr ⟨inside, beq_self_eq_true _⟩) present
        · exact Or.inl (List.mem_append_left _ later)
      · exact Or.inr fun target leads => List.mem_append_left _ (done target leads)
    · exact Or.inl (List.mem_append_right _ new)

/-- A search goes on until nothing stands in line, and then all connections of what it found have been followed. -/
theorem search_ends {state : Search} (underway : Underway f state) :
    Underway f ⟨f.search state, []⟩ ∧ ∀ id ∈ state.found, id ∈ f.search state := by
  fun_induction search f state with
  | case1 state empty =>
    obtain ⟨found, line⟩ := state
    cases empty
    exact ⟨underway, fun id member => member⟩
  | case2 state id rest lined ih =>
    obtain ⟨found, line⟩ := state
    cases lined
    obtain ⟨kept, grown⟩ := underway.follow
    obtain ⟨ended, later⟩ := ih kept
    exact ⟨ended, fun other member => later other (grown other member)⟩

theorem reachable_of_startStep {start : Step} (starts : f.startStep? = some start) :
    Underway f ⟨f.reachable, []⟩ ∧ start.id ∈ f.reachable := by
  have first : Underway f ⟨[start.id], [start.id]⟩ := by
    refine ⟨?_, fun id member => member, fun id member => Or.inl member, List.nodup_singleton _⟩
    intro id member
    rw [List.mem_singleton.mp member]
    exact .start starts
  obtain ⟨ended, kept⟩ := search_ends first
  simp only [Flow.reachable, starts]
  exact ⟨ended, kept start.id (List.mem_singleton_self _)⟩

theorem nodup_reachable (f : Flow) : f.reachable.Nodup := by
  cases starts : f.startStep? with
  | none => simp only [Flow.reachable, starts, List.nodup_nil]
  | some start => exact (reachable_of_startStep starts).1.distinct

theorem mem_reachable {id : String} : id ∈ f.reachable ↔ Reachable f id := by
  constructor
  · intro member
    cases starts : f.startStep? with
    | none =>
      simp only [Flow.reachable, starts] at member
      cases member
    | some start => exact (reachable_of_startStep starts).1.sound id member
  · intro reached
    induction reached with
    | start starts => exact (reachable_of_startStep starts).2
    | @step a b _ leads ih =>
      cases starts : f.startStep? with
      | none =>
        simp only [Flow.reachable, starts] at ih
        cases ih
      | some start =>
        rcases (reachable_of_startStep starts).1.followed a ih with waiting | done
        · cases waiting
        · exact done b leads

/-- A run of a conversation: how it is set up, the session that it is given, and the step that it begins at. -/
structure Turn where
  options : RunOptions
  now : Instant
  rolls : List Float
  session : Session
  start : Option String

namespace Turn

def result (f : Flow) (t : Turn) : Except Fault RunResult := (run f t.options t.now t.session t.rolls t.start).1

/-- The steps that the run takes, also if it fails in the end. -/
def steps (f : Flow) (t : Turn) : List Step :=
  (trail f t.options t.now t.options.maxSteps t.session.fresh t.rolls t.start).1

/-- What a run leaves of a session: the one that it returns, or what there was before if it fails. -/
def leaves (f : Flow) (former : Option Session) (t : Turn) : Option Session :=
  match t.result f with
  | .ok r => some r.session
  | .error _ => former

/-- The run that a reply at the step of a session leads to. -/
def answering (f : Flow) (options : RunOptions) (now : Instant) (rolls : List Float) (s : Session) (reply : Value)
    (resolution : Resolution) (optionId : Option String) : Turn :=
  ⟨options, now, rolls,
    { s with vars := recordAnswer f s.currentStep (answerAt f s.currentStep reply optionId) s.vars }, resolution.next⟩

end Turn

/-- Conversations, told run by run, and the sessions that they leave. The first run begins at the start step. The others
follow a reply, resolved where the session stands, or a wait. Any of them may fail, which leaves the session as it
was. -/
inductive Held (f : Flow) : List Turn → Option Session → Prop where
  | begins {t : Turn} (start : t.start = f.startStep?.map Step.id) : Held f [t] (t.leaves f none)
  | replied {turns s options now rolls raw reply resolution optionId} (held : Held f turns (some s))
      (resolved : Reply.resolve f s.currentStep raw = .ok resolution) :
      Held f (turns ++ [Turn.answering f options now rolls s reply resolution optionId])
        ((Turn.answering f options now rolls s reply resolution optionId).leaves f (some s))
  | resumed {turns s options now rolls} (held : Held f turns (some s)) (waiting : s.isWaiting = true) :
      Held f (turns ++ [⟨options, now, rolls, s, s.resumeStep⟩])
        (Turn.leaves f (some s) ⟨options, now, rolls, s, s.resumeStep⟩)

/-- A run keeps to the steps that have a property: it takes no others, sends nothing from others, and stops at none of
them. -/
structure KeepsTo (f : Flow) (holds : String → Prop) (t : Turn) : Prop where
  taken : ∀ step ∈ t.steps f, holds step.id
  told : ∀ r, t.result f = .ok r → r.executed = (t.steps f).map fun step => step.body.kindName
  sent : ∀ r, t.result f = .ok r → ∀ a ∈ r.actions, ∃ id, a.envelope.stepId = some id ∧ holds id
  parked : ∀ r, t.result f = .ok r → HoldsAt holds r.session.currentStep

theorem Turn.run_eq {t : Turn} {r : RunResult} (done : t.result f = .ok r) :
    ∃ rest, run f t.options t.now t.session t.rolls t.start = (.ok r, rest) := ⟨_, Prod.ext done rfl⟩

theorem keepsTo_of_start (handed : HandedOn f holds) {t : Turn} (begins : HoldsAt holds t.start) :
    KeepsTo f (Stands f holds) t := by
  have visited : ∀ step ∈ t.steps f, Stands f holds step.id := by
    intro step member
    obtain ⟨held, found⟩ :=
      (trail_holds handed t.options t.now t.options.maxSteps t.session.fresh t.rolls begins).1 step member
    exact ⟨Option.isSome_of_eq_some found, held⟩
  refine ⟨visited, ?_, ?_, ?_⟩
  · intro r done
    obtain ⟨rest, ran⟩ := Turn.run_eq done
    obtain ⟨ending, rfl, executed, _⟩ := run_concludes ran
    exact executed
  · intro r done a member
    obtain ⟨rest, ran⟩ := Turn.run_eq done
    obtain ⟨step, inside, delay, same⟩ := run_sent ran a member
    exact ⟨step.id, by rw [same]; rfl, visited step inside⟩
  · intro r done
    obtain ⟨rest, ran⟩ := Turn.run_eq done
    exact (run_holds ran handed begins).1

/-- What holds of a session between runs: of the step that it stands at, and of the one that its wait leads to. -/
def Settled (f : Flow) (holds : String → Prop) (place : Option Session) : Prop :=
  ∀ s, place = some s → HoldsAt (Stands f holds) s.currentStep ∧ HoldsAt holds s.resumeStep

theorem settled_leaves (handed : HandedOn f holds) {t : Turn} (begins : HoldsAt holds t.start)
    {former : Option Session} (settled : Settled f holds former) : Settled f holds (t.leaves f former) := by
  intro s left
  unfold Turn.leaves at left
  split at left
  next r done =>
    cases left
    obtain ⟨rest, ran⟩ := Turn.run_eq done
    exact run_holds ran handed begins
  next => exact settled s left

/-- A property of the start step that is handed on along connections is kept to all through a conversation. The
induction is on its runs: each begins where the session that the former one left leads to. -/
theorem Held.keepsTo (handed : HandedOn f holds) (begins : HoldsAt holds (f.startStep?.map Step.id))
    {turns : List Turn} {place : Option Session} (held : Held f turns place) :
    (∀ t ∈ turns, KeepsTo f (Stands f holds) t) ∧ Settled f holds place := by
  have added {turns : List Turn} (kept : ∀ t ∈ turns, KeepsTo f (Stands f holds) t) {last : Turn}
      (next : HoldsAt holds last.start) : ∀ t ∈ turns ++ [last], KeepsTo f (Stands f holds) t := by
    intro t member
    rcases List.mem_append.mp member with former | new
    · exact kept t former
    · rw [List.mem_singleton.mp new]
      exact keepsTo_of_start handed next
  induction held with
  | @begins t start =>
    rw [← start] at begins
    have alone : ∀ other ∈ [] ++ [t], KeepsTo f (Stands f holds) other := added (by simp) begins
    exact ⟨alone, settled_leaves handed begins fun s impossible => by cases impossible⟩
  | @replied turns s _ _ _ _ _ resolution _ _ resolved ih =>
    obtain ⟨kept, settled⟩ := ih
    have next : HoldsAt holds resolution.next := by
      rcases resolve_leadsOn resolved with nowhere | ⟨id, place, leads⟩
      · rw [nowhere]
        exact fun id impossible => by cases impossible
      · exact handed.along ((settled s rfl).1 id place) leads
    exact ⟨added kept next, settled_leaves handed next settled⟩
  | @resumed turns s _ _ _ _ waiting ih =>
    obtain ⟨kept, settled⟩ := ih
    have next : HoldsAt holds s.resumeStep := (settled s rfl).2
    exact ⟨added kept next, settled_leaves handed next settled⟩

/-- That a step, if there is one, can be come to is handed on: a connection may also name a step that is missing. -/
theorem handedOn_reachable (f : Flow) : HandedOn f fun id => (f.step? id).isSome → id ∈ f.reachable := by
  intro c member source present
  have come : Reachable f c.source := mem_reachable.mp (source.2 source.1)
  exact mem_reachable.mpr (.step come (.along member present))

theorem KeepsTo.mono {wider : String → Prop} (within : ∀ id, holds id → wider id) {t : Turn}
    (kept : KeepsTo f holds t) : KeepsTo f wider t where
  taken step member := within _ (kept.taken step member)
  told := kept.told
  sent r done a member := by
    obtain ⟨id, told, held⟩ := kept.sent r done a member
    exact ⟨id, told, within id held⟩
  parked r done id stands := within id (kept.parked r done id stands)

/-- For every flow the search ends with the steps that exist and can be come to from the first start step, each once.
No run of a conversation takes a step, sends an action or stops anywhere but at one of them, whatever is replied, drawn
or waited for. -/
theorem conversation_keeps_to_reachable_steps (f : Flow) :
    (f.reachable.Nodup ∧ ∀ id, id ∈ f.reachable ↔ (f.step? id).isSome ∧ Reachable f id) ∧
    ∀ turns place, Held f turns place → ∀ t ∈ turns, KeepsTo f (· ∈ f.reachable) t := by
  refine ⟨⟨nodup_reachable f, fun id => ?_⟩, ?_⟩
  · rw [mem_reachable]
    exact ⟨fun come => ⟨present_of_reachable come, come⟩, And.right⟩
  · intro turns place held t member
    have begins : HoldsAt (fun id => (f.step? id).isSome → id ∈ f.reachable) (f.startStep?.map Step.id) := by
      intro id same _
      obtain ⟨start, starts, rfl⟩ := Option.map_eq_some_iff.mp same
      exact mem_reachable.mpr (.start starts)
    have kept := (held.keepsTo (handedOn_reachable f) begins).1 t member
    exact kept.mono fun id stands => stands.2 stands.1

theorem answered_interview_keeps_to_reachable_steps :
    interview.reachable = ["begin", "ask"] ∧
    ∃ first last place, Held interview [first, last] place ∧
      (∃ asked, first.result interview = .ok asked ∧ asked.session.currentStep = some "ask") ∧
      KeepsTo interview (· ∈ interview.reachable) first ∧ KeepsTo interview (· ∈ interview.reachable) last := by
  refine ⟨by cbv, ?_⟩
  obtain ⟨asked, ran, place⟩ := interview_asks
  let first : Turn := ⟨{}, ⟨5, 0⟩, [], newcomer interview, some "begin"⟩
  let last : Turn := Turn.answering interview {} ⟨6, 0⟩ [] asked.session (.str "30") .endOfFlow none
  have resolved : Reply.resolve interview asked.session.currentStep "30" = .ok .endOfFlow := by rw [place]; rfl
  have done : first.result interview = .ok asked := congrArg Prod.fst ran
  have begun : Held interview [first] (some asked.session) := by
    have held : Held interview [first] (first.leaves interview none) := .begins rfl
    rwa [Turn.leaves, done] at held
  have answered : Held interview [first, last] (last.leaves interview (some asked.session)) := .replied begun resolved
  have kept := (conversation_keeps_to_reachable_steps interview).2 _ _ answered
  exact ⟨first, last, _, answered, ⟨asked, done, place⟩, kept first (by simp), kept last (by simp)⟩

end Chatflow.Proofs.ReachableSteps
