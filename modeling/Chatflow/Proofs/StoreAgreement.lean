import Chatflow.Proofs.OrderlySessions
import Chatflow.Proofs.SessionLists
import Chatflow.Proofs.WorkingDatabase

/-! The two stores of sessions. Whatever is asked of them in a row, a working document database answers as the store
within the process does: it holds the documents of the same sessions, though in another order, and where the order
shows one session is as good as the other. -/

namespace Chatflow.Proofs.StoreAgreement
open SessionTable StoredSessions SessionLists OrderlySessions InProcessStore WorkingDatabase WorkLogic

/-- What the store can be asked for. A change has values that its fields are meant for. -/
inductive StoreCall where
  | create (key : SessionKey) (vars : Fields) (deviceId : Option String)
  | find (address : String)
  | findForFlow (key : SessionKey)
  | get (id : String)
  | has (key : SessionKey)
  | swap (id : String) (expected : Option String) (c : Change) (typed : c.loose = [])
  | abandonAll (address : String)
  | reset (address : String)
  | due (now : Instant) (limit : Int)

inductive Answer where
  | session (s : Session)
  | found (s : Option Session)
  | flag (b : Bool)
  | count (n : Nat)
  | sessions (found : List Session)

def StoreCall.perform (setup : Setup) : StoreCall → Work Answer
  | .create key vars deviceId => do return .session (← Store.create setup key vars deviceId)
  | .find address => do return .found (← Store.find setup address)
  | .findForFlow key => do return .found (← Store.findForFlow setup key)
  | .get id => do return .found (← Store.get setup id)
  | .has key => do return .flag (← Store.has setup key)
  | .swap id expected c _ => do return .flag (← Store.swap setup id expected c)
  | .abandonAll address => do return .count (← Store.abandonAll setup address)
  | .reset address => do return .count (← Store.reset setup address)
  | .due now limit => do return .sessions (← Store.due setup now limit)

/-- A call of the store at a moment that can be told in universal time. -/
structure Occasion where
  clock : Instant
  call : StoreCall
  now : Instant
  told : clock.toUtc = .ok now

/-- A service at a moment, with the sessions kept in the process or in the document database. -/
def serving (setup : Setup) (hasDatabase : Bool) (clock : Instant) : Setup :=
  { setup with now := clock, hasDatabase := hasDatabase }

def Occasion.perform (setup : Setup) (hasDatabase : Bool) (o : Occasion) : Work Answer :=
  o.call.perform (serving setup hasDatabase o.clock)

/-- Of the active sessions of a contact, one that was changed last. -/
structure Latest (sessions : List Session) (address : String) (s : Session) : Prop where
  stored : s ∈ sessions
  own : s.address = address
  active : s.isActive = true
  last : ∀ other ∈ sessions, other.address = address → other.isActive = true →
    other.updatedAt.micros ≤ s.updatedAt.micros

/-- What may be found as the active session of a contact. -/
def Finds (sessions : List Session) (address : String) : Option Session → Prop
  | some s => Latest sessions address s
  | none => ∀ s ∈ sessions, s.address = address → s.isActive = false

/-- The sessions whose wait is over, the longest overdue first, and those overdue for the same time in any order. -/
structure DueInOrder (sessions : List Session) (now : Instant) (found : List Session) : Prop where
  due : found.Perm (sessions.filter (isDue now))
  ordered : found.Pairwise fun a b => dueMicros a ≤ dueMicros b

/-- Answers to a call that are the same, but for the choice between sessions that were changed last at the same time,
and for the order of sessions, and the choice among them, whose waits are over at the same time. -/
def Alike (sessions : List Session) : StoreCall → Answer → Answer → Prop
  | .find address, a, b =>
    ∃ s other, a = .found s ∧ b = .found other ∧ Finds sessions address s ∧ Finds sessions address other
  | .due now limit, a, b =>
    ∃ found others, a = .sessions (front found limit) ∧ b = .sessions (front others limit) ∧
      DueInOrder sessions now found ∧ DueInOrder sessions now others
  | _, a, b => a = b

/-- Both stores answer a call, and if the call is covered they answer alike. -/
def AnswerAlike (setup : Setup) (covered : StoreCall → Prop) (o : Occasion) (process database : World) : Prop :=
  ∃ a b, (o.perform setup false process).1 = .ok a ∧ (o.perform setup true database).1 = .ok b ∧
    (covered o.call → Alike process.table.sessions o.call a b)

/-- The stores agree on every call that is made of them in a row. -/
def Agree (setup : Setup) (covered : StoreCall → Prop) : List Occasion → World → World → Prop
  | [], _, _ => True
  | o :: rest, process, database =>
    AnswerAlike setup covered o process database ∧
      Agree setup covered rest (o.perform setup false process).2 (o.perform setup true database).2

/-- What is left once all calls have been made. -/
def afterAll (setup : Setup) (hasDatabase : Bool) : List Occasion → World → World
  | [], w => w
  | o :: rest, w => afterAll setup hasDatabase rest (o.perform setup hasDatabase w).2

/-- Not asked for less than no sessions. -/
def StoreCall.Sensible : StoreCall → Prop
  | .due _ limit => 0 ≤ limit
  | _ => True

/-- The database holds the documents of the sessions of the process, in an order of its own. -/
structure Mirrors (process database : World) : Prop where
  solitary : Solitary process
  held : ∃ stored, Holds stored process.nextSession database ∧ stored.Perm process.table.sessions

/-- Two worlds that nothing was stored in so far: one where no one else writes, one with a database that works. -/
structure Untouched (process database : World) : Prop where
  empty : process.table.rows = []
  alone : process.foreign = []
  noDocuments : Documents.documentsOf database.outside.database.collections Documents.Sessions.collection = []
  working : Working database.outside
  counter : database.nextSession = process.nextSession

theorem Untouched.mirrors {process database : World} (untouched : Untouched process database) :
    Mirrors process database := by
  have none : process.table = {} := congrArg SessionTable.mk untouched.empty
  refine ⟨⟨untouched.alone, ?_, ?_⟩, [], ⟨untouched.working, untouched.noDocuments, ?_, untouched.counter⟩, ?_⟩
  · rw [none]; exact sound_empty
  · rw [none]; intro s member; cases member
  · intro s member; cases member
  · rw [none]; exact .refl _

section
variable {setup : Setup} {process database : World} {o : Occasion}

theorem utcNow_told {clock now : Instant} (told : clock.toUtc = .ok now) (hasDatabase : Bool) :
    (serving setup hasDatabase clock).utcNow = .ok now := by
  rw [Setup.utcNow, serving, told]
  rfl

theorem perform_done {α : Type} {work : Work α} {f : α → Answer} {a : α} {w after : World}
    (done : work w = (.ok a, after)) : (do return f (← work) : Work Answer) w = (.ok (f a), after) := by
  rw [bind_apply, done]
  rfl

/-- A call that both stores answer alike, and after which the database still mirrors the process. -/
structure Simulated (setup : Setup) (o : Occasion) (process database : World) : Prop where
  alike : AnswerAlike setup StoreCall.Sensible o process database
  mirrors : Mirrors (o.perform setup false process).2 (o.perform setup true database).2

theorem simulated {a b : Answer} {after : World} {left : List Session}
    (done : o.perform setup false process = (.ok a, after))
    (answers : Answers (o.perform setup true) database b left after.nextSession) (solitary : Solitary after)
    (same : left.Perm after.table.sessions)
    (alike : o.call.Sensible → Alike process.table.sessions o.call a b) : Simulated setup o process database := by
  obtain ⟨final, ended, holds⟩ := answers
  refine ⟨⟨a, b, by rw [done], by rw [ended], alike⟩, ?_⟩
  rw [done, ended]
  exact ⟨solitary, left, holds, same⟩

end

section
variable {sessions active : List Session} {address : String}
  (same : active.Perm (sessions.filter fun s => s.address == address && s.isActive))
include same

theorem latest_of_max {s : Session} (member : s ∈ active)
    (last : ∀ other ∈ active, other.updatedAt.micros ≤ s.updatedAt.micros) : Latest sessions address s := by
  have takesPart : ∀ other, other ∈ active ↔ other ∈ sessions ∧ other.address = address ∧ other.isActive = true := by
    intro other
    rw [same.mem_iff, List.mem_filter, Bool.and_eq_true, beq_iff_eq]
  obtain ⟨stored, own, isActive⟩ := (takesPart s).mp member
  exact ⟨stored, own, isActive, fun other inside its active => last other ((takesPart other).mpr ⟨inside, its, active⟩)⟩

theorem finds_nothing (empty : active = []) : Finds sessions address none := by
  intro s member own
  rw [empty] at same
  have absent := List.filter_eq_nil_iff.mp same.symm.eq_nil s member
  simpa [own] using absent

theorem finds_latest? : Finds sessions address (latest? active) := by
  cases active with
  | nil => exact finds_nothing same rfl
  | cons first rest => exact latest_of_max same (foldl_later_mem rest first) (foldl_later_max rest first)

theorem finds_mergeSort :
    Finds sessions address (active.mergeSort fun a b => b.updatedAt.micros ≤ a.updatedAt.micros).head? := by
  have sorted := List.mergeSort_perm active fun a b => decide (b.updatedAt.micros ≤ a.updatedAt.micros)
  have ordered := @List.pairwise_mergeSort _ (fun a b : Session => decide (b.updatedAt.micros ≤ a.updatedAt.micros))
    (by simp only [decide_eq_true_eq]; omega) (by simp only [Bool.or_eq_true, decide_eq_true_eq]; omega) active
  cases found : active.mergeSort fun a b => decide (b.updatedAt.micros ≤ a.updatedAt.micros) with
  | nil =>
    rw [found] at sorted
    exact finds_nothing same sorted.symm.eq_nil
  | cons s rest =>
    rw [found] at sorted ordered
    have first := (List.pairwise_cons.mp ordered).1
    refine latest_of_max same (sorted.mem_iff.mp List.mem_cons_self) fun other member => ?_
    rcases List.mem_cons.mp (sorted.mem_iff.mpr member) with rfl | later
    · exact Int.le_refl _
    · exact of_decide_eq_true (first other later)

end

theorem mergeSort_dueInOrder {sessions due : List Session} {now : Instant}
    (same : due.Perm (sessions.filter (isDue now))) :
    DueInOrder sessions now (due.mergeSort fun a b => dueMicros a ≤ dueMicros b) := by
  refine ⟨(List.mergeSort_perm _ _).trans same, ?_⟩
  have ordered := @List.pairwise_mergeSort _ (fun a b => decide (dueMicros a ≤ dueMicros b))
    (by simp only [decide_eq_true_eq]; omega) (by simp only [Bool.or_eq_true, decide_eq_true_eq]; omega) due
  simpa only [decide_eq_true_eq] using ordered

section
variable {setup : Setup} {process database : World} {clock now : Instant} (told : clock.toUtc = .ok now)
  (mirrors : Mirrors process database)
include mirrors

theorem get_simulated (id : String) : Simulated setup ⟨clock, .get id, now, told⟩ process database := by
  obtain ⟨solitary, stored, holds, same⟩ := mirrors
  have found : (stored.find? fun s => s.id == id) = process.table.get? id := by
    apply find?_perm same
    intro a inside b member own other
    exact solitary.sound.eq_of_id inside member ((eq_of_beq own).trans (eq_of_beq other).symm)
  have answers := (get_answers (serving setup true clock) holds id).map Answer.found
  rw [found] at answers
  exact simulated rfl answers solitary same fun _ => rfl

theorem findForFlow_simulated (key : SessionKey) :
    Simulated setup ⟨clock, .findForFlow key, now, told⟩ process database := by
  obtain ⟨solitary, stored, holds, same⟩ := mirrors
  have found : (stored.find? fun s => s.key == key) = process.table.findForFlow? key := by
    rw [findForFlow?_sessions solitary.sound]
    apply find?_perm same
    intro a inside b member own other
    exact eq_of_key solitary.sound inside member ((eq_of_beq own).trans (eq_of_beq other).symm)
  have answers := (findForFlow_answers (serving setup true clock) holds key).map Answer.found
  rw [found] at answers
  exact simulated rfl answers solitary same fun _ => rfl

theorem has_simulated (key : SessionKey) : Simulated setup ⟨clock, .has key, now, told⟩ process database := by
  obtain ⟨solitary, stored, holds, same⟩ := mirrors
  have present : (stored.any fun s => s.key == key) = process.table.has key := by
    rw [has_sessions solitary.sound, same.any_eq]
  have answers := (has_answers (serving setup true clock) holds key).map Answer.flag
  rw [present] at answers
  exact simulated rfl answers solitary same fun _ => rfl

theorem find_simulated (address : String) : Simulated setup ⟨clock, .find address, now, told⟩ process database := by
  obtain ⟨solitary, stored, holds, same⟩ := mirrors
  have answers := (find_answers (serving setup true clock) holds address).map Answer.found
  refine simulated rfl answers solitary same fun _ => ⟨process.table.find? address, _, rfl, rfl, ?_, ?_⟩
  · rw [SessionTable.find?, rowsOf_sessions solitary.sound, List.filter_filter]
    apply finds_latest?
    simp only [Bool.and_comm, List.Perm.refl]
  · exact finds_mergeSort (same.filter _)

theorem due_simulated (moment : Instant) (limit : Int) :
    Simulated setup ⟨clock, .due moment limit, now, told⟩ process database := by
  obtain ⟨solitary, stored, holds, same⟩ := mirrors
  have answers := (due_answers (serving setup true clock) holds moment limit).map Answer.sessions
  refine simulated rfl answers solitary same fun sensible => ?_
  refine ⟨process.table.allDue moment, _, rfl, congrArg Answer.sessions (if_pos sensible).symm, ?_, ?_⟩
  · exact mergeSort_dueInOrder (.refl _)
  · exact mergeSort_dueInOrder (same.filter _)

theorem create_simulated (key : SessionKey) (vars : Fields) (deviceId : Option String) :
    Simulated setup ⟨clock, .create key vars deviceId, now, told⟩ process database := by
  obtain ⟨solitary, stored, holds, same⟩ := mirrors
  have keys : (stored.map Session.key).Nodup := (same.map Session.key).nodup_iff.mpr (keys_nodup solitary.sound)
  have answers := (create_answers (serving setup true clock) (utcNow_told told true) holds keys key vars deviceId).map
    Answer.session
  have done := @create_apply (serving setup false clock) rfl key vars deviceId process
  rw [utcNow_told told false] at done
  refine simulated (perform_done done) answers (solitary.create now key vars deviceId) ?_ fun _ => rfl
  -- The process keeps the place of the key, the database appends: from here on the orders may differ.
  have put := put_sessions solitary.sound (newSession s!"s{process.nextSession}" now key vars deviceId)
  exact ((same.filter _).append_right _).trans put.symm

theorem swap_simulated (id : String) (expected : Option String) (c : Change) (typed : c.loose = []) :
    Simulated setup ⟨clock, .swap id expected c typed, now, told⟩ process database := by
  obtain ⟨solitary, stored, holds, same⟩ := mirrors
  have ids : (stored.map Session.id).Nodup := (same.map Session.id).nodup_iff.mpr (ids_nodup solitary.sound)
  have answers := (swap_answers (serving setup true clock) (utcNow_told told true) holds ids id expected typed).map
    Answer.flag
  rw [same.any_eq] at answers
  have done := @swap_apply (serving setup false clock) rfl id expected c process
  rw [interfere_alone solitary.alone] at done
  dsimp only at done
  -- The process looks under the id and then at the step, the database at both at once.
  cases stands : process.table.standsAt? id expected with
  | none =>
    have absent := standsAt?_none solitary.sound stands
    have unchanged : (stored.map fun s =>
        if s.id == id && s.currentStep == expected then c.apply now s else s) = stored :=
      map_eq_self fun s member => if_neg (by rw [absent s (same.mem_iff.mp member)]; decide)
    rw [stands] at done
    rw [unchanged, List.any_eq_false.mpr fun s member => by rw [absent s member]; decide] at answers
    exact simulated (perform_done done) answers solitary same fun _ => rfl
  | some s =>
    obtain ⟨member, only⟩ := standsAt?_some solitary.sound stands
    have accepted : (process.table.sessions.any fun s => s.id == id && s.currentStep == expected) = true :=
      List.any_eq_true.mpr ⟨s, member, by rw [only s member]; exact beq_self_eq_true _⟩
    rw [stands, utcNow_told told false] at done
    rw [accepted] at answers
    refine simulated (perform_done done) answers (solitary.changed member c now) ?_ fun _ => rfl
    rw [swapped_sessions solitary.sound stands]
    exact same.map _

theorem abandonAll_simulated (address : String) :
    Simulated setup ⟨clock, .abandonAll address, now, told⟩ process database := by
  obtain ⟨solitary, stored, holds, same⟩ := mirrors
  have answers := (abandonAll_answers (serving setup true clock) (utcNow_told told true) holds address).map Answer.count
  have done := @abandonAll_apply (serving setup false clock) rfl address process
  rw [utcNow_told told false] at done
  have ended : Store.abandonAll (serving setup false clock) address process =
      (.ok (process.table.abandonAll now address).1,
        { process with table := (process.table.abandonAll now address).2 }) := by
    rw [done]
    split
    · rfl
    -- The process asks for no time if nothing is open; the database does, and changes nothing.
    next idle => rw [abandonAll_idle (eq_false_of_ne_true idle)]
  refine simulated (perform_done ended) answers (solitary.abandonAll now address) ?_ fun _ => ?_
  · rw [abandonAll_sessions solitary.sound]
    exact same.map _
  · rw [abandonAll_count solitary.sound, same.countP_eq]
    rfl

theorem reset_simulated (address : String) :
    Simulated setup ⟨clock, .reset address, now, told⟩ process database := by
  obtain ⟨solitary, stored, holds, same⟩ := mirrors
  have answers := (reset_answers (serving setup true clock) holds address).map Answer.count
  have done := @reset_apply (serving setup false clock) rfl address process
  refine simulated (perform_done done) answers (solitary.reset address) ?_ fun _ => ?_
  · rw [reset_sessions solitary.sound]
    exact same.filter _
  · rw [reset_count solitary.sound, same.countP_eq]
    rfl

end

section
variable {setup : Setup} {process database : World}

theorem call_simulated (setup : Setup) (mirrors : Mirrors process database) (o : Occasion) :
    Simulated setup o process database := by
  obtain ⟨clock, call, now, told⟩ := o
  cases call with
  | create key vars deviceId => exact create_simulated told mirrors key vars deviceId
  | find address => exact find_simulated told mirrors address
  | findForFlow key => exact findForFlow_simulated told mirrors key
  | get id => exact get_simulated told mirrors id
  | has key => exact has_simulated told mirrors key
  | swap id expected c typed => exact swap_simulated told mirrors id expected c typed
  | abandonAll address => exact abandonAll_simulated told mirrors address
  | reset address => exact reset_simulated told mirrors address
  | due moment limit => exact due_simulated told mirrors moment limit

theorem Mirrors.agree (mirrors : Mirrors process database) (calls : List Occasion) :
    Agree setup StoreCall.Sensible calls process database := by
  induction calls generalizing process database with
  | nil => trivial
  | cons o rest ih =>
    have simulated := call_simulated setup mirrors o
    exact ⟨simulated.alike, ih simulated.mirrors⟩

theorem Agree.afterAll {covered : StoreCall → Prop} {calls rest : List Occasion}
    (agree : Agree setup covered (calls ++ rest) process database) :
    Agree setup covered rest (afterAll setup false calls process) (afterAll setup true calls database) := by
  induction calls generalizing process database with
  | nil => exact agree
  | cons o calls ih => exact ih agree.2

end

/-- A call at five microseconds past the beginning of 1970. -/
def early (call : StoreCall) : Occasion := ⟨⟨5, 0⟩, call, ⟨5, 0⟩, by decide⟩

end Chatflow.Proofs.StoreAgreement
