import Chatflow.Proofs.DocumentCommands
import Chatflow.Proofs.LastingRequests
import Chatflow.Proofs.PhoneSpellings

/-! The addresses that sessions are stored under. They are normalized, in the process and in the database and whatever is
asked of the service. An address of which nothing is left once it is normalized names no contact: events from there are
ignored, but a flow can be started there, and all who are named so badly share its session. -/

namespace Chatflow.Proofs.StoredAddresses
open Conversation Documents RunEndings SessionTable StoredSessions InProcessStore SessionDocuments
  ConfirmedResets DocumentCommands IdleWork LastingInvariants LastingRequests PhoneSpellings ReachableStates WorkLogic

variable {α : Type} {setup : Setup} {fits : String → Prop} {w after : World} {t : SessionTable} {s : Session}

/-! Stored sessions, all of contacts who fit. -/

/-- A document of a session whose contact fits. -/
def Fits (fits : String → Prop) (document : Fields) : Prop :=
  ∃ s : Session, document = Sessions.toDocument s ∧ s.loose = [] ∧ fits s.address

structure AllFit (fits : String → Prop) (w : World) : Prop where
  sessions : ∀ s ∈ w.table.sessions, fits s.address
  documents : ∀ document ∈ sessionDocuments w, Fits fits document

theorem AllFit.same (all : AllFit fits w) (table : after.table = w.table)
    (documents : sessionDocuments after = sessionDocuments w) : AllFit fits after := by
  constructor
  · rw [table]
    exact all.sessions
  · rw [documents]
    exact all.documents

theorem AllFit.unmoved (all : AllFit fits w) (unmoved : Unmoved setup w after) : AllFit fits after := by
  apply all.same unmoved.table
  have collections := congrArg Standing.collections unmoved.standing
  exact congrArg (fun collections => documentsOf collections Sessions.collection) collections

theorem AllFit.weaken {others : String → Prop} (all : AllFit fits w) (implied : ∀ a, fits a → others a) :
    AllFit others w := by
  refine ⟨fun s member => implied _ (all.sessions s member), fun document member => ?_⟩
  obtain ⟨s, written, plain, fit⟩ := all.documents document member
  exact ⟨s, written, plain, implied _ fit⟩

/-- Other writers change sessions and remove them, but make none. -/
theorem foreignWrite_address (write : ForeignWrite) (now : Instant) (id : String)
    (all : ∀ s ∈ t.sessions, fits s.address) : ∀ s ∈ (write.apply now id t).sessions, fits s.address := by
  induction write generalizing t with
  | inTurn first next ihFirst ihNext =>
    unfold ForeignWrite.apply
    split
    · exact all
    · exact ihNext (ihFirst all)
  | reset =>
    unfold ForeignWrite.apply
    split
    · exact all
    · exact fun s member => all s (mem_reset member)
  | abandon =>
    unfold ForeignWrite.apply
    split
    · exact all
    · intro s member
      rcases mem_abandonAll member with former | ⟨former, inside, rfl⟩
      · exact all s former
      · exact all former inside
  | swap step vars status =>
    unfold ForeignWrite.apply
    split
    · exact all
    next former found =>
      intro s member
      rcases mem_put member with rfl | inside
      · exact all former (get?_mem found)
      · exact all s inside

/-! Documents that commands find and leave. -/

/-- A command after which the documents of sessions fit if they did before. -/
def Heeds (fits : String → Prop) (c : Documents.Command) : Prop :=
  ∀ {collections after : Collections} {reply : Documents.Reply},
    (∀ document ∈ documentsOf collections Sessions.collection, Fits fits document) →
    Server.execute collections c = .ok (reply, after) →
    ∀ document ∈ documentsOf after Sessions.collection, Fits fits document

theorem insert_heeds (plain : s.loose = []) (fit : fits s.address) :
    Heeds fits (.insert Sessions.collection (Sessions.toDocument s)) := by
  intro collections after reply all done document member
  rw [insert_leaves done] at member
  rcases List.mem_append.mp member with former | new
  · exact all document former
  · rw [List.mem_singleton.mp new]
    exact ⟨s, rfl, plain, fit⟩

theorem delete_heeds (filter : Filter) (many : Bool) : Heeds fits (.delete Sessions.collection filter many) :=
  fun all done document member => all document ((delete_leaves done).subset member)

/-- To update the documents of sessions is to change sessions, none of which changes its contact. -/
theorem update_heeds {changes : Fields} {g : Session → Session} (filter : Filter) (many : Bool)
    (changed : ∀ s, Fields.merge (Sessions.toDocument s) changes = Sessions.toDocument (g s))
    (plain : ∀ s, s.loose = [] → (g s).loose = []) (address : ∀ s, (g s).address = s.address) :
    Heeds fits (.update Sessions.collection filter changes many) := by
  intro collections after reply all done document member
  obtain ⟨n, revised⟩ := update_leaves done
  rcases revise_mem revised document member with former | ⟨former, inside, merged⟩
  · exact all document former
  · obtain ⟨s, rfl, typed, fit⟩ := all former inside
    cases merged
    refine ⟨g s, changed s, plain s typed, ?_⟩
    rw [address]
    exact fit

theorem AllFit.commanded {c : Documents.Command} (all : AllFit fits w) (heeds : Heeds fits c)
    (commanded : Commanded c w after) : AllFit fits after := by
  obtain ⟨inside, documents⟩ := commanded
  have table : after.table = w.table := by rw [inside]
  rcases documents with same | ⟨reply, collections, done, left⟩
  · exact all.same table same
  · constructor
    · rw [table]
      exact all.sessions
    · rw [left]
      exact heeds all.documents done

theorem command_fits {c : Documents.Command} (heeds : Heeds fits c) :
    Preserves (AllFit fits) (Work.tryOutside (command c)) :=
  fun w all _ => ⟨all.commanded heeds (command_commanded c w), fun _ _ => trivial⟩

theorem guarded_fits {c : Except Fault Documents.Command} (heeds : ∀ named, c = .ok named → Heeds fits named)
    (read : Documents.Reply → α) (fallback : α) :
    Preserves (AllFit fits) (Work.onOutside (guarded setup c read fallback)) := by
  intro w all _
  refine ⟨?_, fun _ _ => trivial⟩
  cases c with
  | error fault =>
    have idle : Idle setup (Work.onOutside (guarded setup (.error fault) read fallback)) :=
      .guarded (fun _ impossible => by cases impossible) read fallback
    exact all.unmoved (idle w)
  | ok c => exact all.commanded (heeds c rfl) (guarded_commanded c read fallback w)

theorem findOne_fits (filter : Filter) (order : Option Order) :
    Keeps (AllFit fits) (fun _ => True)
      (Work.onOutside (guarded setup (.ok (.findOne Sessions.collection filter order)) Reply.documents? []))
      fun documents _ => ∀ document ∈ documents, Fits fits document :=
  fun w all _ => ⟨all.unmoved (Idle.guarded (fun _ same => by cases same; rfl) _ _ w),
    fun _ found document member => all.documents document (findOne_mem found document member)⟩

theorem finds_fit (filter : Filter) (order : Option Order) :
    Finds (Named (fun _ => True) fits) (AllFit fits) (Sessions.findOne setup filter order) := by
  apply (findOne_fits filter order).bind
  intro documents w all fit
  cases documents with
  | nil => exact ⟨all, fun _ told s found => by cases told; cases found⟩
  | cons document rest =>
    obtain ⟨s, rfl, plain, own⟩ := fit document List.mem_cons_self
    unfold Sessions.ofFirst
    dsimp only
    rw [ofDocument_toDocument setup plain]
    refine ⟨all, fun _ told other found => ?_⟩
    cases told
    cases found
    exact ⟨trivial, own⟩

/-! What the store does, wherever it keeps the sessions. -/

theorem looked_up_fit {look : SessionTable → Option Session}
    (member : ∀ t s, look t = some s → s ∈ t.sessions) :
    Finds (Named (fun _ => True) fits) (AllFit fits) (Work.look fun w => look w.table) :=
  .look fun w all _ s found => ⟨trivial, all.sessions s (member w.table s found)⟩

theorem get_fits (id : String) : Finds (Named (fun _ => True) fits) (AllFit fits) (Store.get setup id) := by
  unfold Store.get
  split
  · exact finds_fit _ _
  · exact looked_up_fit fun _ _ => get?_mem

theorem find_fits (address : String) : Finds (Named (fun _ => True) fits) (AllFit fits) (Store.find setup address) := by
  unfold Store.find
  split
  · exact finds_fit _ _
  · exact looked_up_fit fun _ _ => find?_mem

theorem findForFlow_fits (key : SessionKey) :
    Finds (Named (fun _ => True) fits) (AllFit fits) (Store.findForFlow setup key) := by
  unfold Store.findForFlow
  split
  · exact finds_fit _ _
  · exact looked_up_fit fun _ _ => findForFlow?_mem

theorem create_fits {key : SessionKey} (fit : fits key.address) (vars : Fields) (deviceId : Option String) :
    Preserves (AllFit fits) (Store.create setup key vars deviceId) := by
  cases stored : setup.hasDatabase with
  | true =>
    simp only [Store.create, stored, if_true]
    have numbered : Preserves (AllFit fits) Work.freshId :=
      fun w all _ => ⟨⟨all.sessions, all.documents⟩, fun _ _ => trivial⟩
    apply numbered.bind
    intro id
    have present : Preserves (AllFit fits) (Work.check setup.utcNow) := fun w all _ => ⟨all, fun _ _ => trivial⟩
    apply present.bind
    intro now
    apply (command_fits (delete_heeds _ _)).bind
    intro _
    refine (command_fits (insert_heeds rfl ?_)).bind fun _ => .done
    exact fit
  | false =>
    intro w all _
    rw [create_apply stored]
    cases setup.utcNow with
    | error fault => exact ⟨⟨all.sessions, all.documents⟩, fun _ _ => trivial⟩
    | ok now =>
      refine ⟨⟨fun s member => ?_, all.documents⟩, fun _ _ => trivial⟩
      rcases mem_put member with rfl | former
      · exact fit
      · exact all.sessions s former

theorem swap_fits (id : String) (expected : Option String) {c : Change} (typed : c.loose = []) :
    Preserves (AllFit fits) (Store.swap setup id expected c) := by
  cases stored : setup.hasDatabase with
  | true =>
    simp only [Store.swap, stored, if_true, Sessions.swap]
    have present : Preserves (AllFit fits) (Work.check setup.utcNow) := fun w all _ => ⟨all, fun _ _ => trivial⟩
    apply present.bind
    intro now
    refine (guarded_fits (fun named same => ?_) _ _).bind fun n => .done
    cases same
    apply update_heeds _ _ fun s => merge_changedFields now typed
    · intro s plain
      simp [Change.apply, typed, plain, Fields.merge]
    · exact fun _ => rfl
  | false =>
    intro w all _
    refine ⟨?_, fun _ _ => trivial⟩
    have met : AllFit fits (Store.interfere setup id w).2 := by
      rw [interfere_apply]
      cases w.foreign.head?.join with
      | none => exact ⟨all.sessions, all.documents⟩
      | some write =>
        cases setup.utcNow with
        | error fault => exact ⟨all.sessions, all.documents⟩
        | ok now => exact ⟨foreignWrite_address write now id all.sessions, all.documents⟩
    rw [swap_apply stored]
    rcases interfered : Store.interfere setup id w with ⟨_ | _, middle⟩ <;> rw [interfered] at met
    · exact met
    · dsimp only
      cases stands : middle.table.standsAt? id expected with
      | none => exact met
      | some s =>
        cases setup.utcNow with
        | error fault => exact met
        | ok now =>
          refine ⟨fun other member => ?_, met.documents⟩
          rcases mem_put member with rfl | former
          · exact met.sessions s (get?_mem (Option.filter_eq_some_iff.mp stands).1)
          · exact met.sessions other former

theorem abandonAll_fits (address : String) : Preserves (AllFit fits) (Store.abandonAll setup address) := by
  cases stored : setup.hasDatabase with
  | true =>
    simp only [Store.abandonAll, stored, if_true]
    apply guarded_fits
    intro named same
    cases present : setup.utcNow with
    | error fault => rw [present] at same; cases same
    | ok now =>
      rw [present] at same
      cases same
      refine update_heeds _ _ (fun s => merge_ending now) (fun s plain => ?_) fun _ => rfl
      simp [Session.abandon, plain]
  | false =>
    intro w all _
    refine ⟨?_, fun _ _ => trivial⟩
    rw [abandonAll_apply stored]
    split
    · cases setup.utcNow with
      | error fault => exact all
      | ok now =>
        refine ⟨fun s member => ?_, all.documents⟩
        rcases mem_abandonAll member with former | ⟨former, inside, rfl⟩
        · exact all.sessions s former
        · exact all.sessions former inside
    · exact all

theorem reset_fits (address : String) : Preserves (AllFit fits) (Store.reset setup address) := by
  cases stored : setup.hasDatabase with
  | true =>
    simp only [Store.reset, stored, if_true]
    apply guarded_fits
    intro named same
    cases same
    exact delete_heeds _ _
  | false =>
    intro w all _
    rw [reset_apply stored]
    exact ⟨⟨fun s member => all.sessions s (mem_reset member), all.documents⟩, fun _ _ => trivial⟩

theorem wasSeen_fits (e : Event) : Preserves (AllFit fits) (wasSeen setup e) := by
  intro w all _
  refine ⟨all.same ((ConversationOrder.wasSeen_aside e w).table) ?_, fun _ _ => trivial⟩
  have database : (wasSeen setup e w).2.outside.database = w.outside.database :=
    Surroundings.wasSeen_view OutsideWork.database_apart e w
  unfold sessionDocuments
  rw [database]

theorem fits_abiding (addressed : ∀ address, Phone.normalize address ≠ "" → fits (Phone.normalize address)) :
    Abiding setup fits (fun _ _ => True) (Named (fun _ => True) fits) (AllFit fits) where
  lasting := Tolerant.lasting {
    unmoved := fun unmoved all => all.unmoved unmoved
    create := fun _ vars deviceId fit => (create_fits fit vars deviceId).weaken (fun _ _ _ => trivial)
      fun _ _ _ _ => trivial
    swap := fun id _ expected _ typed => swap_fits id expected typed
    get := fun id _ => get_fits id }
  seen := wasSeen_fits
  find := find_fits
  findForFlow := findForFlow_fits
  abandonAll := abandonAll_fits
  reset := reset_fits
  addressed := addressed

/-! States that the service can be brought to. -/

/-- What is asked of the service, whatever its settings and the time, and wherever it keeps the sessions, and what that
leads to from empty stores. All but the sessions may change in between. -/
inductive Brought : List Asking → World → Prop where
  | empty {w : World} (table : w.table = {}) (documents : sessionDocuments w = []) : Brought [] w
  | asked {history} {w : World} (brought : Brought history w) (setup : Setup) (a : Asking) :
      Brought (history ++ [a]) (a.leave setup w)
  | beside {history} {w after : World} (brought : Brought history w) (table : after.table = w.table)
      (documents : sessionDocuments after = sessionDocuments w) : Brought history after

/-- The addresses of all records, in the process and in the database. -/
def recordedAddresses (w : World) : List Value :=
  w.table.sessions.map (fun s => .str s.address) ++
    (sessionDocuments w).map fun document => fieldOf document "channel_address"

/-- A flow was to be started at an address that names no one. -/
def StartedBlank (history : List Asking) : Prop :=
  ∃ a ∈ history, ∃ raw, StartsAt a raw ∧ Phone.normalize raw = ""

/-- An address is normalized, and it is empty only if a flow was to be started so. -/
def Traceable (history : List Asking) (address : String) : Prop :=
  Phone.normalize address = address ∧ (address = "" → StartedBlank history)

theorem Traceable.append {history : List Asking} {address : String} (traceable : Traceable history address)
    (more : List Asking) : Traceable (history ++ more) address := by
  refine ⟨traceable.1, fun blank => ?_⟩
  obtain ⟨a, member, starts⟩ := traceable.2 blank
  exact ⟨a, List.mem_append_left more member, starts⟩

theorem Brought.traceable {history : List Asking} (brought : Brought history w) : AllFit (Traceable history) w := by
  induction brought with
  | empty table documents =>
    constructor
    · intro s member
      simp [table, sessions] at member
    · intro document member
      simp [documents] at member
  | @asked history w _ setup a before =>
    have abiding := @fits_abiding setup (Traceable (history ++ [a])) fun address named =>
      ⟨normalize_normalize address, fun blank => absurd blank named⟩
    refine abiding.asking (fun raw starts => ⟨normalize_normalize raw, fun blank => ?_⟩)
      (before.weaken fun _ traceable => traceable.append [a])
    exact ⟨a, List.mem_append_right _ (List.mem_singleton_self a), raw, starts, blank⟩
  | beside _ table documents before => exact before.same table documents

/-- Every record has an address that is not changed by normalizing it. Unless a flow was to be started at an address of
which normalizing leaves nothing, no record has the empty one. -/
theorem recorded_address_usable_unless_started_blank {history : List Asking} (brought : Brought history w) :
    ∀ v ∈ recordedAddresses w, ∃ address, v = .str address ∧ Phone.normalize address = address ∧
      (address = "" → StartedBlank history) := by
  obtain ⟨sessions, documents⟩ := brought.traceable
  intro v member
  rcases List.mem_append.mp member with inProcess | inDatabase
  · obtain ⟨s, stored, rfl⟩ := List.mem_map.mp inProcess
    exact ⟨s.address, rfl, sessions s stored⟩
  · obtain ⟨document, stored, rfl⟩ := List.mem_map.mp inDatabase
    obtain ⟨s, rfl, _, traceable⟩ := documents document stored
    exact ⟨s.address, rfl, traceable⟩

/-- Asks for the flow that hands over, which is then started at an address. -/
def careAt (raw : String) : Asking :=
  .call (.startFlow "care" raw [])

theorem started_record_usable :
    let asked := careAt "+52 1 (55) 1234-5678"
    let w := asked.leave (aloneAt ⟨5, 0⟩) (untouched handingFlow)
    w.table.sessions.map Session.address = ["+5215512345678"] ∧
    ∀ v ∈ recordedAddresses w, ∃ address, v = .str address ∧ Phone.normalize address = address ∧
      (address = "" → StartedBlank [asked]) := by
  refine ⟨?_, recorded_address_usable_unless_started_blank (.asked (.empty rfl rfl) _ _)⟩
  simp only [careAt, Asking.leave, Call.perform, startFlow, startFound, withLock, maxChained, start, firstRun, bind_apply,
    runOptions_aloneAt]
  decide +kernel

/-- Two contacts whose addresses name no one have one record between them, and the second takes the place of the first. -/
theorem blank_starts_share_a_record :
    let once := (careAt "-----").leave (aloneAt ⟨5, 0⟩) (untouched handingFlow)
    let twice := (careAt "((-))").leave (aloneAt ⟨9, 0⟩) once
    Brought [careAt "-----", careAt "((-))"] twice ∧ .str "" ∈ recordedAddresses twice ∧
    once.table.sessions.map (fun s => (s.id, s.address)) = [("s1", "")] ∧
    twice.table.sessions.map (fun s => (s.id, s.address)) = [("s2", "")] := by
  have blank : ∀ {w : World} {id : String}, w.table.sessions.map (fun s => (s.id, s.address)) = [(id, "")] →
      .str "" ∈ recordedAddresses w := by
    intro w id records
    have listed : (id, "") ∈ w.table.sessions.map fun s => (s.id, s.address) := by
      rw [records]
      exact List.mem_singleton_self _
    obtain ⟨s, stored, same⟩ := List.mem_map.mp listed
    have empty : s.address = "" := congrArg Prod.snd same
    exact List.mem_append_left _ (List.mem_map.mpr ⟨s, stored, by rw [empty]⟩)
  refine ⟨.asked (.asked (.empty rfl rfl) _ _) _ _, @blank _ "s2" ?_, ?_, ?_⟩
  all_goals
    simp only [careAt, Asking.leave, Call.perform, startFlow, startFound, withLock, maxChained, start, firstRun,
      bind_apply, runOptions_aloneAt]
    decide +kernel

end Chatflow.Proofs.StoredAddresses
