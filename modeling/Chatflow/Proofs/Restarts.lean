import Chatflow.Proofs.Interruptions
import Chatflow.Proofs.StartedSessions

/-! Restarts. When a message has started flows, nothing is left of the conversations that its contact had before: only
sessions that were started for it are active, and those that were stored before it are never resumed. -/

namespace Chatflow.Proofs.Restarts
open Conversation SessionTable StoredSessions InProcessStore WorkLogic CallDeeds CallCourses OrderlySessions
  ConversationOrder StoreInvariants KnownSessions ResumedWaits StartedSessions EventPaths Interruptions

variable {setup : Setup} {raw e : Event} {w u after : World} {flows : List Flow} {o : Outcome} {now : Instant}
  {id : String} {s : Session}

section
variable (inProcess : setup.hasDatabase = false)
include inProcess

/-- A session that is not active waits for nothing. -/
theorem resumeLocked_inactive (rests : ∀ s, w.table.get? id = some s → s.isActive = false) :
    resumeLocked setup now id w = (.ok ⟨.stale, [id], []⟩, w) := by
  unfold resumeLocked
  rw [bind_apply, get_eq inProcess]
  simp only [Work.look]
  cases stored : w.table.get? id with
  | none => rfl
  | some s =>
    have waits : waitedIn? w.catalogue s = none := by
      simp [waitedIn?, Session.isWaiting, rests s stored]
    dsimp only
    rw [bind_apply, waitingIn?_apply inProcess, waits]
    rfl

theorem resumeAsOf_inactive (rests : ∀ s, w.table.get? id = some s → s.isActive = false) :
    ∃ o after, resumeAsOf setup now id w = (.ok o, after) ∧ (o.status = .stale ∨ o.status = .notFound) ∧ o.actions = [] ∧
      Quiet w after :=
  @resumeAsOf_unchanged setup w now id inProcess (fun status => status = .stale ∨ status = .notFound) (Or.inr rfl) fun _ =>
    ⟨_, resumeLocked_inactive inProcess rests, Or.inl rfl, rfl⟩

theorem sought_solitary (solitary : Solitary w) (sought : Sought setup e w flows u) : Solitary u := by
  rcases (sought.ended inProcess).2 with ⟨rfl, _⟩ | ⟨moment, rfl⟩
  · exact solitary
  · exact solitary.abandonAll moment e.address

/-- Where a message comes to the flows that it triggers, no session of its contact is active. -/
theorem sought_inactive (solitary : Solitary w) (sought : Sought setup e w flows u) (kind : e.kind = .message) :
    OfAll (fun s => s.address = e.address → s.isActive = false) u := by
  have sound := (sought_solitary inProcess solitary sought).sound
  intro s member own
  obtain ⟨row, stored, rfl⟩ := mem_sessions.mp member
  have address : row.1.address = e.address := by rw [sound.own row stored]; exact own
  rcases (sought.ended inProcess).2 with ⟨rfl, ended⟩ | ⟨moment, rfl⟩
  · rcases ended kind with absent | closed
    · exact find?_none absent stored address
    · exact not_active_of_closed closed stored address
  · exact abandonAll_rests stored address

/-- A session of the contact that was stored before has its id still, or is gone, and is not active. -/
theorem sought_known (solitary : Solitary w) (sought : Sought setup e w flows u) (kind : e.kind = .message)
    (member : s ∈ w.table.sessions) (own : s.address = e.address) : Known s.id (fun s => s.isActive = false) u := by
  have inactive := sought_inactive inProcess solitary sought kind
  refine ⟨⟨sought_solitary inProcess solitary sought, ?_⟩, fun other stored same => ?_⟩
  · rcases (sought.ended inProcess).2 with ⟨rfl, _⟩ | ⟨_, rfl⟩ <;> exact solitary.given s member
  · refine inactive other stored ?_
    rcases (sought.ended inProcess).2 with ⟨rfl, _⟩ | ⟨_, rfl⟩
    · rw [solitary.sound.eq_of_id stored member same, own]
    · rcases mem_abandonAll stored with former | ⟨former, inside, rfl⟩
      · rw [solitary.sound.eq_of_id former member same, own]
      · rw [← own, ← solitary.sound.eq_of_id inside member same]
        rfl

/-- Once a message has started flows, only the sessions that it started are active for its contact. Whatever was stored for
the contact before can be asked to be resumed at any time, and it is not: nothing is changed or sent. -/
theorem restart_leaves_nothing_alive (solitary : Solitary w) (kind : raw.kind = .message)
    (returned : handleEvent setup raw w = (.ok o, after)) (started : o.status = .started) :
    (∀ s ∈ after.table.sessions, s.address = Phone.normalize raw.address → s.isActive = true → s.id ∈ o.sessionIds) ∧
      ∀ s ∈ w.table.sessions, s.address = Phone.normalize raw.address → ∀ (later : Setup) (now : Instant),
        later.hasDatabase = false → ∃ answer final, resumeAsOf later now s.id after = (.ok answer, final) ∧
          (answer.status = .stale ∨ answer.status = .notFound) ∧ answer.actions = [] ∧ Quiet after final := by
  obtain ⟨e, v, inner, admitted, worked, left⟩ := admitted_of_started returned started
  have message : e.kind = .message := admitted.kind.trans kind
  have entered := admitted.beside
  have within : Solitary v := Solitary.settled entered solitary
  obtain ⟨flows, u, sought⟩ := sought_of_started worked started
  rw [sought.handleLocked] at worked
  have upon := sought_solitary inProcess within sought
  rw [← admitted.address]
  constructor
  · intro s member own active
    have inactive := sought_inactive inProcess within sought message
    have adds := (trigger_adds inProcess e flows u upon.alone inactive).2
    rw [worked] at adds
    rw [left.table] at member
    rcases adds o rfl s member with former | made
    · rw [former own] at active
      cases active
    · exact made
  · intro s member own later now alone
    rw [← entered.table] at member
    have known := sought_known inProcess within sought message member own
    have kept := ((known_upheld inProcess).trigger inProcess e flows u known trivial).1
    rw [worked] at kept
    have final := Known.settled left kept
    exact resumeAsOf_inactive alone fun s stored => final.fits s (get?_mem stored) (get?_id stored)

end

/-- A contact who is asleep can be greeted. -/
def lodge : World := { bedroom with catalogue := Catalogue.ofLists [napping, greeting false] [] }

theorem greeting_makes_nap_stale :
    ∃ o after, handleEvent (aloneAt ⟨5, 0⟩) hi lodge = (.ok o, after) ∧ o.sessionIds = ["s2"] ∧
      (∀ s ∈ after.table.sessions, s.address = "+5215512345678" → s.isActive = true → s.id ∈ ["s2"]) ∧
      ∃ answer final, resumeAsOf (aloneAt ⟨6, 0⟩) ⟨6, 0⟩ "s1" after = (.ok answer, final) ∧
        (answer.status = .stale ∨ answer.status = .notFound) ∧ answer.actions = [] ∧ Quiet after final := by
  have told : (handleEvent (aloneAt ⟨5, 0⟩) hi lodge).1.toOption.map (fun o => (o.status, o.sessionIds)) =
      some (.started, ["s2"]) := by decide +kernel
  have solitary : Solitary lodge := ⟨bedroom_solitary.alone, bedroom_solitary.sound, bedroom_solitary.given⟩
  rcases returned : handleEvent (aloneAt ⟨5, 0⟩) hi lodge with ⟨fault | o, after⟩ <;> rw [returned] at told
  · cases told
  · obtain ⟨status, ids⟩ : o.status = .started ∧ o.sessionIds = ["s2"] := by
      simpa [Except.toOption] using told
    obtain ⟨fresh, former⟩ := restart_leaves_nothing_alive rfl solitary rfl returned status
    rw [ids, hi_named] at fresh
    have asleepThere : asleep ∈ lodge.table.sessions := List.mem_singleton.mpr rfl
    exact ⟨o, after, rfl, ids, fresh, former asleep asleepThere (by rw [hi_named]; rfl) (aloneAt ⟨6, 0⟩) ⟨6, 0⟩ rfl⟩

end Chatflow.Proofs.Restarts
