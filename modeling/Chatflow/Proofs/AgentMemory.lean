import Chatflow.Proofs.HandOffs
import Chatflow.Proofs.Inquiries
import Mathlib.Data.List.DropRight

/-! What an agent remembers of a conversation. Every turn that counts adds two entries to what is stored and cuts it to the
window, and every turn cuts again what it reads; all of these cuts together come to one, at the end. -/

namespace Chatflow.Proofs.AgentMemory
open Delegate OutsideWork Inquiries AgentTurns AgentConversations HandOffs

variable {setup : Setup} {s updated start : Session} {agent : Option Agent} {message : Value} {o rest : Outside}
  {turn : Delegate.Outcome} {window : Nat} {history : List Value} {said : List (Value × String)}

/-- To cut before something is added, too, makes no difference. -/
theorem rtake_append {α : Type} (n : Nat) (xs ys : List α) : (xs.rtake n ++ ys).rtake n = (xs ++ ys).rtake n := by
  simp only [List.rtake_eq_reverse_take_reverse, List.reverse_append, List.reverse_reverse, List.take_append, List.take_take]
  congr 3
  omega

theorem lastTurns_eq (positive : 1 ≤ window) (entries : List Value) :
    lastTurns window entries = entries.rtake (2 * window) := by
  have back : -(window : Int) * 2 < 0 := by omega
  have far : (-(window : Int) * 2).natAbs = 2 * window := by omega
  rw [lastTurns, if_pos back, far]
  rfl

/-- What is remembered of a message and the reply to it. -/
def spoken (said : Value × String) : List Value := [entry "user" said.1, entry "assistant" (.str said.2)]

theorem storedHistory_list {vars : Fields} {entries : List Value} (stored : vars.get? historyKey = some (.list entries)) :
    storedHistory vars = .ok entries := by
  cases entries <;> simp [storedHistory, stored, Value.truthy]

/-- Turns with an agent that remembers so many of them, with what is said on those that count. After each of them the
conversation goes on. -/
inductive Talk (window : Nat) (start : Session) : List (Value × String) → Session → Prop where
  | begins : Talk window start [] start
  | goesOn {said : List (Value × String)} {s updated : Session} {setup : Setup} {agent : Option Agent} {message : Value}
      {o rest : Outside} {turn : Delegate.Outcome} (talk : Talk window start said s)
      (remembers : setup.historyWindow = window) (took : handleTurn setup s agent message o = (.ok (turn, updated), rest))
      (counts : turn.failed = false) (left : turn.ended = false) :
      Talk window start (said ++ [(message, turn.reply)]) updated
  | fails {said : List (Value × String)} {s updated : Session} {setup : Setup} {agent : Option Agent} {message : Value}
      {o rest : Outside} {turn : Delegate.Outcome} (talk : Talk window start said s)
      (remembers : setup.historyWindow = window) (took : handleTurn setup s agent message o = (.ok (turn, updated), rest))
      (failed : turn.failed = true) : Talk window start said updated

theorem handleTurn_forgets (took : handleTurn setup s agent message o = (.ok (turn, updated), rest))
    (failed : turn.failed = true) : updated = s := by
  rcases handleTurn_session took with ⟨_, same⟩ | ⟨counts, _⟩
  · exact same
  · rw [counts] at failed
    cases failed

/-- A turn after which the conversation goes on cuts what was remembered before it, and what is said on it added. -/
theorem handleTurn_remembers (positive : 1 ≤ window) (remembers : setup.historyWindow = window)
    (stored : storedHistory s.vars = .ok history)
    (took : handleTurn setup s agent message o = (.ok (turn, updated), rest)) (counts : turn.failed = false)
    (left : turn.ended = false) :
    updated.vars.get? historyKey = some (.list ((history ++ spoken (message, turn.reply)).rtake (2 * window))) := by
  cases handleTurn_brings took with
  | unavailable | unanswered => cases counts
  | ends => cases left
  | goesOn asks =>
    cases stored.symm.trans asks.stored
    simp only [noteTurn, Fields.get?_set, if_true, remember, remembers, lastTurns_eq positive, rtake_append, spoken]

/-- What a talk leaves of what was said on it and before. -/
structure Remembers (window : Nat) (start : Session) (history : List Value) (said : List (Value × String)) (s : Session) :
    Prop where
  untouched : said = [] → s = start
  stored : said ≠ [] →
    s.vars.get? historyKey = some (.list ((history ++ said.flatMap spoken).rtake (2 * window)))

/-- What is stored may go back farther before the first turn that counts, but not what is read of it. -/
theorem Remembers.read (remembers : Remembers window start history said s)
    (initial : storedHistory start.vars = .ok history) : ∃ entries, storedHistory s.vars = .ok entries ∧
      entries.rtake (2 * window) = (history ++ said.flatMap spoken).rtake (2 * window) := by
  by_cases silent : said = []
  · refine ⟨history, ?_, ?_⟩
    · rw [remembers.untouched silent, initial]
    · rw [silent, List.flatMap_nil, List.append_nil]
  · refine ⟨_, storedHistory_list (remembers.stored silent), ?_⟩
    have cut := rtake_append (2 * window) (history ++ said.flatMap spoken) []
    rwa [List.append_nil, List.append_nil] at cut

theorem Talk.remembers (positive : 1 ≤ window) (initial : storedHistory start.vars = .ok history)
    (talk : Talk window start said s) : Remembers window start history said s := by
  induction talk with
  | begins => exact ⟨fun _ => rfl, fun said => absurd rfl said⟩
  | fails _ _ took failed ih => rwa [handleTurn_forgets took failed]
  | goesOn _ remembers took counts left ih =>
    obtain ⟨entries, stored, read⟩ := ih.read initial
    refine ⟨fun silent => absurd silent (by simp), fun _ => ?_⟩
    rw [handleTurn_remembers positive remembers stored took counts left, ← rtake_append, read, rtake_append,
      List.flatMap_append, List.flatMap_singleton, List.append_assoc]

/-- An inquiry of a turn: the agent's instructions, what it remembers, and the message. -/
def Recalls (setup : Setup) (s : Session) (agent : Option Agent) (message : Value) (memory : List Value) (i : Inquiry) : Prop :=
  ∃ a p, agent = some a ∧ Completion.inquiry setup p (Prompt.system a (decide (a.maxTurns ≤ s.aiTurns + 1)))
    (.list memory) message = .ok i

theorem recalls_of_asks {a : Agent} {result : Except Fault String} {answered : Outside}
    (asks : Asks setup s agent message o a history result answered) :
    Inquired (Recalls setup s agent message (lastTurns setup.historyWindow history)) o answered result.isOk := by
  have inquired := complete_inquired setup a s.id message (.list (lastTurns setup.historyWindow history))
    (decide (a.maxTurns ≤ s.aiTurns + 1)) o
  rw [asks.completes] at inquired
  exact inquired.weaken fun i ⟨p, asked⟩ => ⟨a, p, asks.available, asked⟩

theorem inquiries_answerTurn (setup : Setup) (s : Session) (agent : Option Agent) (closing : Bool) (message : Value)
    (history : List Value) (text : String) (answered : Outside) :
    (answerTurn setup s agent closing message history text answered).2.inquiries = answered.inquiries := by
  unfold answerTurn
  dsimp only
  split
  · rfl
  · split
    · rfl
    · exact congrArg Prod.snd (inward_inner.notifyHandoff _ _ _ _ answered)

/-- Whether a turn came to something. -/
def counts (took : Except Fault (Delegate.Outcome × Session)) : Bool := took.toOption.any fun took => !took.1.failed

/-- However a turn ends, all that is asked for on it is asked with what is stored, cut to the window. -/
theorem handleTurn_recalls (stored : storedHistory s.vars = .ok history) :
    let took := handleTurn setup s agent message o
    Inquired (Recalls setup s agent message (lastTurns setup.historyWindow history)) o took.2 (counts took.1) := by
  intro took
  cases present : agent.filter Agent.isActive with
  | none =>
    simp only [took, handleTurn_unavailable present]
    exact .still rfl
  | some a =>
    obtain ⟨available, active⟩ := Option.filter_eq_some_iff.mp present
    rcases completes : Completion.complete setup a s.id message (.list (lastTurns setup.historyWindow history))
      (decide (a.maxTurns ≤ s.aiTurns + 1)) o with ⟨fault | text, answered⟩
    · have asks : Asks setup s agent message o a history _ answered := ⟨available, active, stored, completes⟩
      simp only [took, handleTurn_unanswered asks]
      exact recalls_of_asks asks
    · have asks : Asks setup s agent message o a history _ answered := ⟨available, active, stored, completes⟩
      simp only [took, handleTurn_answered asks]
      obtain ⟨asked, added, recalls, some⟩ := recalls_of_asks asks
      exact ⟨asked, (inquiries_answerTurn setup s agent _ message history text answered).trans added, recalls, fun _ => some rfl⟩

/-- After any turns that count and do not end the conversation, with turns that fail in between, there is stored the end of
what was remembered before them followed by what was said on them, two entries for each turn of the window; and the next
turn passes just that on to the providers. A turn that fails changes nothing. -/
theorem memory_is_end_of_all_turns (positive : 1 ≤ window) (initial : storedHistory start.vars = .ok history)
    (talk : Talk window start said s) :
    let memory := (history ++ said.flatMap spoken).rtake (2 * window)
    (said ≠ [] → s.vars.get? historyKey = some (.list memory)) ∧ (said = [] → s = start) ∧
      ∀ (setup : Setup) (agent : Option Agent) (message : Value) (o : Outside), setup.historyWindow = window →
        let took := handleTurn setup s agent message o
        Inquired (Recalls setup s agent message memory) o took.2 (counts took.1) ∧
          ∀ turn updated, took.1 = .ok (turn, updated) → turn.failed = true → updated = s := by
  intro memory
  have remembers := talk.remembers positive initial
  refine ⟨remembers.stored, remembers.untouched, fun setup agent message o same => ⟨?_, fun turn updated took failed => ?_⟩⟩
  · obtain ⟨entries, stored, read⟩ := remembers.read initial
    have recalls : Inquired (Recalls setup s agent message (lastTurns setup.historyWindow entries)) o _ _ :=
      handleTurn_recalls stored
    rwa [same, lastTurns_eq positive, read] at recalls
  · exact handleTurn_forgets (Prod.ext took rfl) failed

def brief : Setup := { answering with historyWindow := 1 }

def patient : Agent := { ana with maxTurns := 9 }

/-- A conversation of which something is remembered already. -/
def resumed : Session := { cared with vars := cared.vars.set historyKey (.list [entry "user" (.str "Antes")]) }

theorem brief_memory :
    ∃ s, (1 ≤ 1 ∧ storedHistory resumed.vars = .ok [entry "user" (.str "Antes")] ∧
      Talk 1 resumed [(.str "Buenas", "Hola"), (.str "¿Abren?", "Claro")] s) ∧
      s.vars.get? historyKey = some (.list [entry "user" (.str "¿Abren?"), entry "assistant" (.str "Claro")]) := by
  let greeted := noteTurn 1 [entry "user" (.str "Antes")] (.str "Buenas") "Hola" resumed
  let told := noteTurn 1 [entry "user" (.str "Buenas"), entry "assistant" (.str "Hola")] (.str "¿Abren?") "Claro" greeted
  have greets : (handleTurn brief resumed (some patient) (.str "Buenas") { geminiAnswers := [.text "Hola"] }).1 =
      .ok ({ reply := "Hola" }, greeted) := rfl
  have fails : (handleTurn brief greeted (some patient) (.str "¿Abren?") {}).1 = .ok (failure, greeted) := rfl
  have tells : (handleTurn brief greeted (some patient) (.str "¿Abren?") { geminiAnswers := [.text "Claro"] }).1 =
      .ok ({ reply := "Claro" }, told) := rfl
  have talk : Talk 1 resumed [(.str "Buenas", "Hola"), (.str "¿Abren?", "Claro")] told :=
    .goesOn (.fails (.goesOn .begins rfl (Prod.ext greets rfl) rfl rfl) rfl (Prod.ext fails rfl) rfl)
      rfl (Prod.ext tells rfl) rfl rfl
  have memory := memory_is_end_of_all_turns (by decide) rfl talk
  exact ⟨told, ⟨by decide, rfl, talk⟩, memory.1 (by simp)⟩

end Chatflow.Proofs.AgentMemory
