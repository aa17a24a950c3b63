import Chatflow.Proofs.AgentTurns
import Chatflow.Proofs.GuardedCalls
import Chatflow.Proofs.ReachableStates
import Chatflow.Proofs.StoreAgreement

/-! What was computed from a stored session is what is read once it is saved. A run is saved with all fields that it may
change, and a turn of an AI agent with fewer, as it leaves the others alone. -/

namespace Chatflow.Proofs.SavedSessions
open Conversation Interpreter StepEffects RunEndings AgentTurns SessionTable StoredSessions InProcessStore
  SessionLists GuardedCalls WorkingDatabase ReachableStates StoreAgreement WorkLogic

variable {setup : Setup} {s computed : Session} {stored : List Session} {w : World} {save : Work Bool} {now : Instant}

theorem savedChange_apply (same : SameConversation s computed) (plain : s.loose = []) (now : Instant) :
    (savedChange computed).apply now s = { computed with updatedAt := now } := by
  obtain ⟨id, address, flowId, deviceId, createdAt, loose⟩ := same
  cases computed
  dsimp only at id address flowId deviceId createdAt loose
  subst id address flowId deviceId createdAt loose
  simp only [savedChange, Change.apply, plain]
  rfl

theorem turnChange_apply {ended : Bool} (taken : Taken s ended computed) (plain : s.loose = []) (now : Instant) :
    (turnChange computed).apply now s = { computed with updatedAt := now } := by
  have loose : ((turnChange computed).apply now s).loose = computed.loose := by
    cases taken with
    | goesOn | ends => simp only [turnChange, Change.apply, Delegate.endAssignment, plain]; rfl
  rw [taken.saved, loose]

/-- What may be computed from a session, and how the runtime saves it. -/
inductive Computes (setup : Setup) (s : Session) : Session → Work Bool → Prop where
  | run {f : Flow} {options : RunOptions} {now : Instant} {rolls rest : List Float} {start : Option String}
      {r : RunResult} (ran : run f options now s rolls start = (.ok r, rest)) :
      Computes setup s r.session (commit setup s r)
  | reply {f : Flow} {options : RunOptions} {now : Instant} {rolls rest : List Float} {step : Option String}
      {text : Value} {next optionId : Option String} {r : RunResult}
      (ran : continueFromReply f options now s rolls step text next optionId = (.ok r, rest)) :
      Computes setup s r.session (commit setup s r)
  | turn {agent : Option Agent} {message : Value} {turn : Delegate.Outcome} {updated : Session} {o after : Outside}
      (took : Delegate.handleTurn setup s agent message o = (.ok (turn, updated), after)) (worked : turn.failed = false) :
      Computes setup s updated (Store.swap setup updated.id s.currentStep (turnChange updated))

/-- It is saved by a change of the session that it was computed from, which makes that session what was computed: the
change names every field in which the two differ. -/
theorem Computes.saves (computes : Computes setup s computed save) (plain : s.loose = []) :
    ∃ c, save = Store.swap setup s.id s.currentStep c ∧ c.loose = [] ∧
      ∀ now, c.apply now s = { computed with updatedAt := now } := by
  cases computes with
  | @run f options now rolls rest start r ran =>
    have same := run_sameConversation ran
    refine ⟨savedChange r.session, ?_, rfl, savedChange_apply same plain⟩
    rw [commit, same.id]
  | @reply f options now rolls rest step text next optionId r ran =>
    have same := run_sameConversation ran
    have unchanged : SameConversation s r.session :=
      ⟨same.id, same.address, same.flowId, same.deviceId, same.createdAt, same.loose⟩
    refine ⟨savedChange r.session, ?_, rfl, savedChange_apply unchanged plain⟩
    rw [commit, unchanged.id]
  | turn took worked =>
    rcases handleTurn_session took with ⟨failed, _⟩ | ⟨_, taken⟩
    · rw [worked] at failed
      cases failed
    · refine ⟨turnChange computed, ?_, rfl, turnChange_apply taken plain⟩
      rw [taken.id]

/-- A store that works and holds these sessions, of which no two have one id. No one else writes in between. -/
inductive Stores (stored : List Session) (w : World) : Bool → Prop where
  | inProcess (alone : w.foreign = []) (sound : Sound w.table) (same : w.table.sessions = stored)
      (plain : ∀ s ∈ stored, s.loose = []) : Stores stored w false
  | inDatabase {next : Nat} (holds : Holds stored next w) (ids : (stored.map Session.id).Nodup) : Stores stored w true

namespace Stores

theorem plain {hasDatabase : Bool} (stores : Stores stored w hasDatabase) (member : s ∈ stored) : s.loose = [] := by
  cases stores with
  | inProcess _ _ _ plain => exact plain s member
  | inDatabase holds _ => exact holds.plain s member

/-- A stored session is read under its id. -/
theorem read (stores : Stores stored w setup.hasDatabase) (member : s ∈ stored) :
    ∃ after, Store.get setup s.id w = (.ok (some s), after) := by
  cases kept : setup.hasDatabase <;> rw [kept] at stores
  · cases stores with
    | inProcess _ sound same _ =>
      rw [← same] at member
      refine ⟨w, ?_⟩
      rw [get_eq kept, Work.look, sound.get?_of_mem member]
  · cases stores with
    | inDatabase holds ids =>
      obtain ⟨after, done, _⟩ := get_answers setup holds s.id
      rw [find?_of_nodup ids member] at done
      refine ⟨after, ?_⟩
      rw [Store.get, kept]
      exact done

/-- A change of a stored session that still stands where it was read is accepted, and stored. -/
theorem swap (stores : Stores stored w setup.hasDatabase) (present : setup.utcNow = .ok now) (member : s ∈ stored)
    {c : Change} (typed : c.loose = []) : ∃ after left, Store.swap setup s.id s.currentStep c w = (.ok true, after) ∧
      Stores left after setup.hasDatabase ∧ c.apply now s ∈ left := by
  have plain := stores.plain member
  have changed : (c.apply now s).loose = [] := by
    simp only [Change.apply, plain, typed]
    rfl
  cases kept : setup.hasDatabase <;> rw [kept] at stores
  · cases stores with
    | inProcess alone sound same typed =>
      rw [← same] at member
      have stands : w.table.standsAt? s.id s.currentStep = some s := by
        simp [standsAt?, sound.get?_of_mem member]
      refine ⟨{ w with table := w.table.put (c.apply now s) }, (w.table.put (c.apply now s)).sessions, ?_, ?_, put_mem _ _⟩
      · rw [swap_apply kept, interfere_alone alone]
        simp only [stands, present]
      · refine .inProcess alone (sound.apply member c now) rfl fun other inside => ?_
        rcases mem_put inside with rfl | former
        · exact changed
        · rw [same] at former
          exact typed other former
  · cases stores with
    | inDatabase holds ids =>
      obtain ⟨after, done, held⟩ := swap_answers setup present holds ids s.id s.currentStep typed
      have accepted : (stored.any fun other => other.id == s.id && other.currentStep == s.currentStep) = true :=
        List.any_eq_true.mpr ⟨s, member, by simp⟩
      rw [accepted] at done
      refine ⟨after, _, ?_, .inDatabase held ?_, List.mem_map.mpr ⟨s, member, by simp⟩⟩
      · rw [Store.swap, kept]
        exact done
      · have same : ∀ other : Session,
            (if other.id == s.id && other.currentStep == s.currentStep then c.apply now other else other).id = other.id := by
          intro other
          split <;> rfl
        rw [List.map_map]
        simpa only [Function.comp_def, same] using ids

/-- The store within the process holds its sessions so in every state that can be reached. -/
theorem of_reachable {flows : List Flow} {agents : List Agent} (reachable : Reachable (Catalogue.ofLists flows agents) w) :
    Stores w.table.sessions w false := by
  have orderly := reachable.orderly (ofLists_distinct flows agents)
  exact .inProcess orderly.alone orderly.sound rfl orderly.plain

/-- A database does so that mirrors the store within a process. -/
theorem of_mirrors {process database : World} (mirrors : Mirrors process database) :
    ∃ stored, Stores stored database true := by
  obtain ⟨solitary, stored, holds, same⟩ := mirrors
  refine ⟨stored, .inDatabase holds ?_⟩
  exact (same.map Session.id).nodup_iff.mpr (ids_nodup solitary.sound)

end Stores

end Chatflow.Proofs.SavedSessions
