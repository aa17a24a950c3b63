import Chatflow.Http.Service
import Chatflow.Proofs.GuardedCalls
import Chatflow.Proofs.Interruptions
import Chatflow.Proofs.Surroundings
import Chatflow.Proofs.WorkingDatabase

/-! Resets that are confirmed. A reset is confirmed whenever the store has answered; the database is asked through its
breaker, which answers also where nothing was done. -/

namespace Chatflow.Proofs.ConfirmedResets
open Conversation Documents OutsideWork GuardedCalls EventPaths Interruptions Surroundings WorkingDatabase InProcessStore
  ResumedWaits WorkLogic

variable {setup : Setup} {contact : String} {w before after last : World}

/-- The documents of sessions that are stored in the database. -/
def sessionDocuments (w : World) : List Fields := documentsOf w.outside.database.collections Sessions.collection

def isOf (contact : String) (document : Fields) : Bool := (fieldOf document "channel_address").same (.str contact)

/-- A session of a contact is stored, in the store that is in use. -/
def Stores (setup : Setup) (contact : String) (w : World) : Prop :=
  if setup.hasDatabase then ∃ document ∈ sessionDocuments w, isOf contact document = true
  else ∃ row ∈ w.table.rows, row.1.address = contact

/-- The sessions of all others but a contact are what they were, in the process and in the database. -/
structure OthersKept (contact : String) (w after : World) : Prop where
  rows : (after.table.rows.filter fun row => row.1.address != contact) =
    w.table.rows.filter fun row => row.1.address != contact
  documents : (sessionDocuments after).filter (fun document => !isOf contact document) =
    (sessionDocuments w).filter fun document => !isOf contact document

/-- What becomes of the stored sessions where those of a contact are to be removed. None of them is left exactly if there
was none, or if the store could be reached. -/
structure Clears (setup : Setup) (contact : String) (w after : World) : Prop where
  others : OthersKept contact w after
  cleared : ¬Stores setup contact after ↔
    ¬Stores setup contact w ∨ (setup.hasDatabase = true → Reached setup w.outside)

/-- Two worlds with the same stored sessions. -/
structure SameStores (w after : World) : Prop where
  table : after.table = w.table
  database : after.outside.database = w.outside.database

theorem SameStores.stores (same : SameStores w after) : Stores setup contact after ↔ Stores setup contact w := by
  unfold Stores sessionDocuments
  rw [same.table, same.database]

theorem Clears.around (clears : Clears setup contact before after) (first : SameStores w before)
    (verdict : refuses setup before.outside = refuses setup w.outside) (then' : SameStores after last) :
    Clears setup contact w last := by
  have reached : Reached setup before.outside ↔ Reached setup w.outside := by
    constructor
    · exact fun reached => ⟨first.database ▸ reached.up, verdict ▸ reached.admitted⟩
    · exact fun reached => ⟨first.database.symm ▸ reached.up, verdict.symm ▸ reached.admitted⟩
  obtain ⟨others, cleared⟩ := clears
  refine ⟨⟨?_, ?_⟩, ?_⟩
  · rw [then'.table, others.rows, first.table]
  · have documents := others.documents
    unfold sessionDocuments at documents ⊢
    rw [then'.database, documents, first.database]
  · rw [then'.stores, cleared, first.stores, reached]

/-- In the database the sessions of a contact are removed if it can be reached, and otherwise nothing is done. -/
theorem reset_documents (stored : setup.hasDatabase = true) (contact : String) (w : World) :
    (Store.reset setup contact w).2.table = w.table ∧
    (Reached setup w.outside → sessionDocuments (Store.reset setup contact w).2 =
      (sessionDocuments w).filter fun document => !isOf contact document) ∧
    (¬Reached setup w.outside → sessionDocuments (Store.reset setup contact w).2 = sessionDocuments w) := by
  simp only [Store.reset, stored, if_true, Sessions.reset]
  refine ⟨rfl, fun reached => ?_, fun unreached => ?_⟩
  · obtain ⟨cache, called⟩ := guarded_admitted reached.admitted
      (.delete Sessions.collection (Sessions.ofContact (.str contact)) true) Reply.count? 0
    have deleted : (w.outside.database.perform
        (.delete Sessions.collection (Sessions.ofContact (.str contact)) true)).2.collections =
          setDocuments Sessions.collection ((sessionDocuments w).filter fun document => !isOf contact document)
            w.outside.database.collections := by
      have deletes : revise (Sessions.ofContact (.str contact)) true (fun _ => none) (sessionDocuments w) =
          .ok ((sessionDocuments w).countP (isOf contact),
            (sessionDocuments w).filter fun document => !isOf contact document) :=
        revise_deletes (passes_equals _ (.str contact)) _
      unfold sessionDocuments at deletes
      simp only [Server.perform, reached.up, Bool.false_and, Bool.false_eq_true, if_false, Server.execute, deletes, bind,
        Except.bind]
      rfl
    simp only [sessionDocuments, Work.onOutside, called, deleted, documentsOf_setDocuments]
  · cases admitted : refuses setup w.outside with
    | true =>
      obtain ⟨cache, called⟩ := guarded_refused admitted
        (.ok (.delete Sessions.collection (Sessions.ofContact (.str contact)) true)) Reply.count? 0
      simp only [sessionDocuments, Work.onOutside, called]
    | false =>
      have down : w.outside.database.isDown = true := by
        rw [← Bool.not_eq_false]
        exact fun up => unreached ⟨up, admitted⟩
      obtain ⟨cache, called⟩ := guarded_admitted admitted
        (.delete Sessions.collection (Sessions.ofContact (.str contact)) true) Reply.count? 0
      simp only [sessionDocuments, Work.onOutside, called, Server.perform, down, Server.isRemote, Bool.and_self, if_true]

theorem reset_clears (contact : String) (w : World) : Clears setup contact w (Store.reset setup contact w).2 := by
  cases stored : setup.hasDatabase with
  | false =>
    rw [reset_apply stored]
    refine ⟨⟨?_, rfl⟩, ?_⟩
    · simp only [SessionTable.reset, List.filter_filter, Bool.and_self]
    · simp only [Stores, stored, SessionTable.reset, Bool.false_eq_true, if_false, List.mem_filter]
      refine ⟨fun _ => Or.inr fun impossible => impossible.elim, fun _ ⟨row, ⟨_, other⟩, own⟩ => ?_⟩
      simp [own] at other
  | true =>
    obtain ⟨table, cleared, left⟩ := reset_documents stored contact w
    by_cases reached : Reached setup w.outside
    · refine ⟨⟨by rw [table], ?_⟩, ?_⟩
      · rw [cleared reached, List.filter_filter]
        simp only [Bool.and_self]
      · refine ⟨fun _ => Or.inr fun _ => reached, fun _ stays => ?_⟩
        simp only [Stores, stored, if_true, cleared reached] at stays
        obtain ⟨document, member, own⟩ := stays
        have other := (List.mem_filter.mp member).2
        rw [own] at other
        cases other
    · refine ⟨⟨by rw [table], by rw [left reached]⟩, ?_⟩
      simp only [Stores, stored, if_true, left reached]
      exact ⟨Or.inl, fun either => either.resolve_right fun reaches => reached (reaches trivial)⟩

theorem withLock_clears {α : Type} {work : Work α} (clears : ∀ v, Clears setup contact v (work v).2) (address : String)
    (w : World) : Clears setup contact w (withLock setup address work w).2 := by
  obtain ⟨unlocked, _, locked⟩ := withLock_apply setup address work w
  refine (clears (held setup address w)).around ⟨rfl, held_view database_apart address w⟩
    (held_view refuses_apart address w) ⟨?_, withLock_view database_apart address work w⟩
  rw [locked]

/-- The store is asked to remove the sessions of a contact; whatever it has done, the outcome stays what it is. -/
theorem reset_then (contact : String) (o : Outcome) (v : World) :
    (do let _ ← Store.reset setup contact; return o : Work Outcome) v = (.ok o, (Store.reset setup contact v).2) := by
  rw [bind_apply]
  have answered : ∃ n, (Store.reset setup contact v).1 = .ok n := by
    cases stored : setup.hasDatabase with
    | false => rw [reset_apply stored]; exact ⟨_, rfl⟩
    | true => simp only [Store.reset, stored, if_true]; exact ⟨_, rfl⟩
  obtain ⟨n, answer⟩ := answered
  rw [(Prod.ext answer rfl : Store.reset setup contact v = (.ok n, _))]
  rfl

/-- To ask for a reset always ends in the outcome that confirms it. -/
theorem reset_ends (address : String) (w : World) :
    (Conversation.reset setup address w).1 = .ok ⟨.reset, [], []⟩ ∧
      Clears setup (Phone.normalize address) w (Conversation.reset setup address w).2 := by
  constructor
  · obtain ⟨unlocked, _, locked⟩ := withLock_apply setup (Phone.normalize address)
      (do let _ ← Store.reset setup (Phone.normalize address); return (⟨.reset, [], []⟩ : Outcome) : Work Outcome) w
    rw [Conversation.reset, locked, reset_then]
  · refine withLock_clears (fun v => ?_) _ w
    rw [reset_then]
    exact reset_clears _ v

theorem phrase_ends {raw : Event} {o : Outcome} (kind : raw.kind = .message) (phrase : isReset raw.text = true)
    (done : handleEvent setup raw w = (.ok o, after)) (answered : o.status = .reset) :
    Clears setup (Phone.normalize raw.address) w after := by
  have admitted : ∃ e v, Admitted setup raw w e v := by
    unfold Conversation.handleEvent at done
    split at done
    · cases done
      cases answered
    next addressed =>
      obtain ⟨seen, before, checked, handled⟩ := bind_ok done
      cases seen with
      | true =>
        cases handled
        cases answered
      | false => exact ⟨_, _, rfl, addressed, before, checked, rfl⟩
  obtain ⟨e, v, admitted⟩ := admitted
  have decided : ∃ o, handleLocked setup e v = (.ok o, (Store.reset setup e.address v).2) := by
    have asks : (decide (e.kind = .message) && isReset e.text) = true := by
      rw [admitted.named]
      simp [kind, phrase]
    unfold handleLocked
    rw [if_pos asks]
    exact ⟨_, reset_then e.address _ v⟩
  obtain ⟨_, decided⟩ := decided
  have beside := admitted.handleEvent.2
  have database := handleEvent_database admitted
  rw [done, decided] at beside database
  rw [← admitted.address]
  exact (reset_clears e.address v).around ⟨admitted.beside.table, admitted_view database_apart admitted⟩
    (admitted_view refuses_apart admitted) ⟨beside.table, database⟩

/-- A response whose document says that a contact was reset. -/
def SaysReset (response : Http.Response) : Prop :=
  ∃ fields : Fields, response.content = .document (.obj fields) ∧
    fields.get? "status" = some (.str OutcomeStatus.reset.name)

section
open Http

variable {r : Request} {response : Response} {address : String}

theorem refusal_silent (status : Nat) (reason : String) : ¬SaysReset (.refusal status reason) := by
  rintro ⟨fields, content, told⟩
  cases content
  cases told

theorem text_silent (text : String) (status : Nat) : ¬SaysReset (.ofText text status) := by
  rintro ⟨fields, content, _⟩
  cases content

/-- What is sent says what the response does, unless only its head was asked for. -/
theorem sent_silent (silent : ¬SaysReset response) : ¬SaysReset (sent r response) := by
  unfold sent
  split
  · rintro ⟨fields, content, _⟩
    cases content
  · exact silent

theorem sendable_silent (silent : ¬SaysReset response) : ¬SaysReset (sendable r response) := by
  unfold sendable
  split
  · exact silent
  · exact text_silent _ _

theorem preflight_silent (asked : preflight? r = some response) : ¬SaysReset (response.answering r) := by
  unfold preflight? at asked
  split at asked
  · split at asked
    · cases asked
      exact text_silent "OK" 200
    · cases asked
      exact text_silent _ 400
  · cases asked

theorem fault_silent (r : Request) (fault : Fault) :
    ¬SaysReset (((ofFault? fault).map (sendable r)).getD failure) := by
  unfold ofFault?
  split
  case h_5 => exact text_silent _ _
  all_goals exact sendable_silent (refusal_silent _ _)

theorem resetSessions_apply (named : Phone.normalize address ≠ "") (w : World) :
    Answer.resetSessions setup address w = (.ok (.ofDocument (Outcome.report ⟨.reset, [], []⟩).toValue),
      (Conversation.reset setup address w).2) := by
  simp only [Answer.resetSessions, if_neg named]
  rw [bind_apply, (Prod.ext (reset_ends address w).1 rfl : Conversation.reset setup address w = (.ok _, _))]
  rfl

/-- A request to reset a contact does so, or it fails, or its answer does not say so. -/
theorem answer_ends (path : r.route = .endpoint (.resetSessions address)) (w : World) :
    (∃ response, Answer.ofRequest setup r w = (.ok ⟨response, []⟩, (Conversation.reset setup address w).2)) ∨
    (∃ fault after, Answer.ofRequest setup r w = (.error fault, after)) ∨
      ∃ response after, Answer.ofRequest setup r w = (.ok ⟨response, []⟩, after) ∧ ¬SaysReset response := by
  simp only [Answer.ofRequest, path, Answer.ofEndpoint, Answer.withKey, Answer.proceed]
  rw [bind_apply]
  cases Answer.knowsKey setup.settings r with
  | error fault => exact Or.inr (Or.inl ⟨fault, w, rfl⟩)
  | ok known =>
    cases known with
    | false => exact Or.inr (Or.inr ⟨.refusal 403 _, w, rfl, refusal_silent _ _⟩)
    | true =>
      simp only [Work.check, if_true]
      rw [bind_apply]
      by_cases blank : Phone.normalize address = ""
      · simp only [Answer.resetSessions, if_pos blank]
        exact Or.inr (Or.inr ⟨.refusal 422 _, w, rfl, refusal_silent _ _⟩)
      · refine Or.inl ⟨.ofDocument (Outcome.report ⟨.reset, [], []⟩).toValue, ?_⟩
        rw [resetSessions_apply blank]
        rfl

/-- A request that is answered with the word that a contact was reset has had it reset. -/
theorem request_ends {limit : Float} (path : r.route = .endpoint (.resetSessions address))
    (done : serve setup r limit w = (.ok response, after)) (told : SaysReset response) :
    after = (Conversation.reset setup address w).2 := by
  unfold serve at done
  split at done
  · cases done
    exact absurd told (sent_silent (refusal_silent 504 "Request timed out"))
  · cases asked : preflight? r with
    | some allowed =>
      rw [asked] at done
      cases done
      exact absurd told (preflight_silent asked)
    | none =>
      rw [asked] at done
      obtain ⟨answered, middle, responded, done⟩ := bind_ok done
      cases done
      unfold respond at responded
      rw [bind_apply] at responded
      simp only [Work.attempt] at responded
      rcases answer_ends path w with ⟨kept, answer⟩ | ⟨fault, _, answer⟩ | ⟨kept, _, answer, silent⟩
      · rw [answer] at responded
        cases responded
        rfl
      · rw [answer] at responded
        cases responded
        exact absurd told (sent_silent (fault_silent r fault))
      · rw [answer] at responded
        cases responded
        exact absurd told (sent_silent (sendable_silent silent))

end

/-- A reset of a contact is confirmed: to the contact who asked for it, to who called for it, or in the answer to a
request. -/
inductive Confirmed (setup : Setup) : String → World → World → Prop
  | phrase {raw : Event} {o : Outcome} {w after : World} : raw.kind = .message → isReset raw.text = true →
      handleEvent setup raw w = (.ok o, after) → o.status = .reset → Confirmed setup (Phone.normalize raw.address) w after
  | call {address : String} {o : Outcome} {w after : World} : Conversation.reset setup address w = (.ok o, after) →
      o.status = .reset → Confirmed setup (Phone.normalize address) w after
  | request {r : Http.Request} {address : String} {limit : Float} {response : Http.Response} {w after : World} :
      r.route = .endpoint (.resetSessions address) → Http.serve setup r limit w = (.ok response, after) →
      SaysReset response → Confirmed setup (Phone.normalize address) w after

/-- Where a reset is confirmed, the sessions of all others stay what they are. No session of the contact is left exactly
if there was none, or if the store could be reached: the sessions in the process always can, and the database can if it
is up and its breaker lets a call through. -/
theorem confirmed_reset_clears_iff_reached (confirmed : Confirmed setup contact w after) :
    OthersKept contact w after ∧ (¬Stores setup contact after ↔
      ¬Stores setup contact w ∨ (setup.hasDatabase = true → Reached setup w.outside)) := by
  have clears : Clears setup contact w after := by
    cases confirmed with
    | phrase kind phrase done answered => exact phrase_ends kind phrase done answered
    | @call address _ _ _ done answered =>
      have ends := (@reset_ends setup address w).2
      rw [done] at ends
      exact ends
    | request path done told =>
      rw [request_ends path done told]
      exact (reset_ends _ w).2
  exact ⟨clears.others, clears.cleared⟩

/-- The session of a contact who sleeps, in a database that is up or down. -/
def kept (isDown : Bool) : World :=
  { outside := { database := ⟨isDown, [(Sessions.collection, [Sessions.toDocument asleep])], []⟩ } }

theorem kept_stores (isDown : Bool) : Stores onDatabase hi.address (kept isDown) :=
  ⟨_, List.mem_singleton_self _, rfl⟩

theorem kept_confirms (isDown : Bool) :
    Confirmed onDatabase hi.address (kept isDown) (Conversation.reset onDatabase hi.address (kept isDown)).2 :=
  hi_named ▸ Confirmed.call (Prod.ext (reset_ends hi.address (kept isDown)).1 rfl) rfl

theorem working_database_is_cleared :
    let after := (Conversation.reset onDatabase hi.address (kept false)).2
    Confirmed onDatabase hi.address (kept false) after ∧ OthersKept hi.address (kept false) after ∧
      ¬Stores onDatabase hi.address after := by
  obtain ⟨others, cleared⟩ := confirmed_reset_clears_iff_reached (kept_confirms false)
  exact ⟨kept_confirms false, others, cleared.mpr (Or.inr fun _ => reached_onDatabase rfl)⟩

/-- While the database is down a reset is confirmed, and the session of the contact stays. -/
theorem outage_keeps_session : Confirmed onDatabase hi.address (kept true)
      (Conversation.reset onDatabase hi.address (kept true)).2 ∧
    Stores onDatabase hi.address (Conversation.reset onDatabase hi.address (kept true)).2 := by
  have clears := (@reset_ends onDatabase hi.address (kept true)).2
  rw [hi_named] at clears
  refine ⟨kept_confirms true, Classical.not_not.mp fun gone => ?_⟩
  rcases clears.cleared.mp gone with absent | reaches
  · exact absent (kept_stores true)
  · cases (reaches rfl).up

end Chatflow.Proofs.ConfirmedResets
