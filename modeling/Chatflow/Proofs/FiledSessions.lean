import Chatflow.Proofs.DocumentCommands
import Chatflow.Proofs.LastingRequests
import Chatflow.Proofs.Surroundings

/-! What is true of every stored session, wherever the service keeps them and as long as it alone writes to its stores.
It is enough that it is true of sessions that are made and survives the changes that the runtime makes. -/

namespace Chatflow.Proofs.FiledSessions
open Conversation Documents Documents.Sessions SessionTable StoredSessions InProcessStore SessionDocuments WorkingDatabase
  ConfirmedResets DocumentCommands IdleWork OrderlySessions LastingInvariants LastingRequests WorkLogic

variable {setup : Setup} {fits : Session → Prop} {offered : String → Flow → Prop} {stored : List Session}
  {next later : Nat} {documents : List Fields} {w after : World} {s : Session}

/-- Sessions of which each has an id of its own that was given out, and is plain and fits. -/
structure Files (fits : Session → Prop) (next : Nat) (stored : List Session) : Prop where
  ids : (stored.map Session.id).Nodup
  given : ∀ s ∈ stored, ∀ n, next ≤ n → s.id ≠ s!"s{n}"
  plain : ∀ s ∈ stored, s.loose = []
  fit : ∀ s ∈ stored, fits s

namespace Files

theorem counted (files : Files fits next stored) (spent : next ≤ later) : Files fits later stored :=
  { files with given := fun s member n after => files.given s member n (Nat.le_trans spent after) }

theorem sublist {left : List Session} (files : Files fits next stored) (fewer : left.Sublist stored) :
    Files fits next left where
  ids := files.ids.sublist (fewer.map _)
  given s member := files.given s (fewer.subset member)
  plain s member := files.plain s (fewer.subset member)
  fit s member := files.fit s (fewer.subset member)

theorem add {made : Session} (files : Files fits next stored) (fresh : ∀ s ∈ stored, s.id ≠ made.id)
    (given : ∀ n, next ≤ n → made.id ≠ s!"s{n}") (plain : made.loose = []) (fit : fits made) :
    Files fits next (stored ++ [made]) where
  ids := by
    rw [List.map_append, List.nodup_append]
    refine ⟨files.ids, by simp, fun id member other single => ?_⟩
    obtain ⟨s, inside, rfl⟩ := List.mem_map.mp member
    rw [List.mem_singleton.mp single]
    exact fresh s inside
  given := List.forall_mem_append.mpr ⟨files.given, fun s same => by rwa [List.mem_singleton.mp same]⟩
  plain := List.forall_mem_append.mpr ⟨files.plain, fun s same => by rwa [List.mem_singleton.mp same]⟩
  fit := List.forall_mem_append.mpr ⟨files.fit, fun s same => by rwa [List.mem_singleton.mp same]⟩

theorem map {g : Session → Session} (files : Files fits next stored) (id : ∀ s, (g s).id = s.id)
    (plain : ∀ s ∈ stored, (g s).loose = []) (fit : ∀ s ∈ stored, fits (g s)) : Files fits next (stored.map g) where
  ids := by simpa only [List.map_map, Function.comp_def, id] using files.ids
  given := by
    intro changed member
    obtain ⟨s, inside, rfl⟩ := List.mem_map.mp member
    rw [id]
    exact files.given s inside
  plain := by
    intro changed member
    obtain ⟨s, inside, rfl⟩ := List.mem_map.mp member
    exact plain s inside
  fit := by
    intro changed member
    obtain ⟨s, inside, rfl⟩ := List.mem_map.mp member
    exact fit s inside

/-- The session that stands where another one does is the same if both have one id. -/
theorem eq_of_stands {other : Session} (files : Files fits next stored) (member : s ∈ stored) (inside : other ∈ stored)
    (stands : (other.id == s.id && other.currentStep == s.currentStep) = true) : other = s := by
  have same : other.id = s.id := by
    simp only [Bool.and_eq_true, beq_iff_eq] at stands
    exact stands.1
  have found := find?_of_nodup files.ids inside
  rw [same, find?_of_nodup files.ids member] at found
  exact (Option.some.inj found).symm

end Files

/-- The documents of sessions are those of such sessions. -/
def Filed (fits : Session → Prop) (w : World) : Prop :=
  ∃ stored, sessionDocuments w = stored.map toDocument ∧ Files fits w.nextSession stored

/-- A session is as it is stored in the database. -/
def OnFile (s : Session) (w : World) : Prop := s.loose = [] ∧ toDocument s ∈ sessionDocuments w

theorem toDocument_injective {other : Session} (plain : s.loose = []) (typed : other.loose = [])
    (same : toDocument s = toDocument other) : s = other := by
  have read := @read_toDocument s "" (.ok default) plain
  rw [same, read_toDocument _ _ typed] at read
  cases read
  rfl

theorem OnFile.member (onFile : OnFile s w) (documents : sessionDocuments w = stored.map toDocument)
    (plain : ∀ s ∈ stored, s.loose = []) : s ∈ stored := by
  obtain ⟨typed, inside⟩ := onFile
  rw [documents] at inside
  obtain ⟨other, member, same⟩ := List.mem_map.mp inside
  rwa [← toDocument_injective (plain other member) typed same]

theorem onFile_of_member (documents : sessionDocuments w = stored.map toDocument)
    (plain : ∀ s ∈ stored, s.loose = []) (member : s ∈ stored) : OnFile s w :=
  ⟨plain s member, by rw [documents]; exact List.mem_map.mpr ⟨s, member, rfl⟩⟩

theorem sessionDocuments_unmoved (unmoved : Unmoved setup w after) : sessionDocuments after = sessionDocuments w :=
  congrArg (fun collections => documentsOf collections collection) (congrArg Standing.collections unmoved.standing)

theorem OnFile.still (s : Session) : Still setup (OnFile s) := by
  intro w after unmoved onFile
  rw [OnFile, sessionDocuments_unmoved unmoved]
  exact onFile

theorem Filed.same (filed : Filed fits w) (same : sessionDocuments after = sessionDocuments w)
    (spent : w.nextSession ≤ after.nextSession) : Filed fits after := by
  obtain ⟨stored, documents, files⟩ := filed
  exact ⟨stored, same.trans documents, files.counted spent⟩

theorem Filed.fewer (filed : Filed fits w) (fewer : (sessionDocuments after).Sublist (sessionDocuments w))
    (spent : w.nextSession ≤ after.nextSession) : Filed fits after := by
  obtain ⟨stored, documents, files⟩ := filed
  rw [documents] at fewer
  obtain ⟨left, kept, same⟩ := List.sublist_map_iff.mp fewer
  exact ⟨left, same, (files.sublist kept).counted spent⟩

theorem filed_beyond : Beyond setup (Filed fits) where
  still unmoved filed := filed.same (sessionDocuments_unmoved unmoved) unmoved.counted
  elsewhere _ _ spent filed := filed.same rfl spent

/-! Commands that write. -/

section
variable {c : Documents.Command}

theorem commanded_counter (commanded : Commanded c w after) : w.nextSession = after.nextSession := by
  rw [commanded.inside]

theorem deleted_fewer {filter : Filter} {many : Bool} (commanded : Commanded (.delete collection filter many) w after) :
    (sessionDocuments after).Sublist (sessionDocuments w) := by
  rcases commanded.documents with same | ⟨reply, collections, done, left⟩
  · rw [same]
  · rw [left]
    exact delete_leaves done

theorem Filed.deleted {filter : Filter} {many : Bool} (filed : Filed fits w)
    (commanded : Commanded (.delete collection filter many) w after) : Filed fits after :=
  filed.fewer (deleted_fewer commanded) (Nat.le_of_eq (commanded_counter commanded))

/-- No session that is on file has this id, and none that is made from now on will have it. -/
structure Fresh (id : String) (w : World) : Prop where
  unused : ∀ s, OnFile s w → s.id ≠ id
  past : ∀ n, w.nextSession ≤ n → id ≠ s!"s{n}"

theorem Filed.inserted {made : Session} (filed : Filed fits w) (fresh : Fresh made.id w) (plain : made.loose = [])
    (fit : fits made) (commanded : Commanded (.insert collection (toDocument made)) w after) : Filed fits after := by
  have counter := commanded_counter commanded
  rcases commanded.documents with same | ⟨reply, collections, done, left⟩
  · exact filed.same same (Nat.le_of_eq counter)
  · obtain ⟨stored, documents, files⟩ := filed
    have unused : ∀ s ∈ stored, s.id ≠ made.id :=
      fun s member => fresh.unused s (onFile_of_member documents files.plain member)
    refine ⟨stored ++ [made], ?_, counter ▸ files.add unused fresh.past plain fit⟩
    rw [left, insert_leaves done, List.map_append, ← documents]
    rfl

/-- To change the documents that pass a filter, or the only one, is to change the sessions that are looked for. -/
theorem updated_leaves {filter : Filter} {p : Session → Bool} {many : Bool} {changes : Fields} {g : Session → Session}
    (documents : sessionDocuments w = stored.map toDocument)
    (passes : ∀ s, Filter.passes (toDocument s) filter = .ok (p s))
    (enough : many = true ∨ stored.Pairwise fun a b => p a = true → p b = false)
    (changed : ∀ s, Fields.merge (toDocument s) changes = toDocument (g s))
    (commanded : Commanded (.update collection filter changes many) w after) :
    sessionDocuments after = stored.map toDocument ∨
      sessionDocuments after = (stored.map fun s => if p s then g s else s).map toDocument := by
  rcases commanded.documents with same | ⟨reply, collections, done, left⟩
  · exact Or.inl (same.trans documents)
  · obtain ⟨n, revised⟩ := update_leaves done
    unfold sessionDocuments at documents
    rw [documents, revise_merge passes enough changed] at revised
    exact Or.inr (left.trans (congrArg Prod.snd (Except.ok.inj revised)).symm)

theorem Filed.updated {filter : Filter} {p : Session → Bool} {many : Bool} {changes : Fields} {g : Session → Session}
    (documents : sessionDocuments w = stored.map toDocument) (files : Files fits w.nextSession stored)
    (passes : ∀ s, Filter.passes (toDocument s) filter = .ok (p s))
    (enough : many = true ∨ stored.Pairwise fun a b => p a = true → p b = false)
    (changed : ∀ s, Fields.merge (toDocument s) changes = toDocument (g s)) (id : ∀ s, (g s).id = s.id)
    (plain : ∀ s, s.loose = [] → (g s).loose = []) (fit : ∀ s ∈ stored, p s = true → fits (g s))
    (commanded : Commanded (.update collection filter changes many) w after) : Filed fits after := by
  rw [commanded_counter commanded] at files
  rcases updated_leaves documents passes enough changed commanded with same | changed
  · exact ⟨stored, same, files⟩
  · refine ⟨_, changed, files.map (fun s => ?_) (fun s member => ?_) fun s member => ?_⟩
    · split
      · exact id s
      · rfl
    · split
      · exact plain s (files.plain s member)
      · exact files.plain s member
    · split
      next meant => exact fit s member meant
      · exact files.fit s member

end

/-- Whatever both stores hold is as it should be. -/
def Kept (fits : Session → Prop) (w : World) : Prop := Housed fits w ∧ Filed fits w

theorem Kept.commanded {c : Documents.Command} (kept : Kept fits w) (filed : Filed fits after)
    (commanded : Commanded c w after) : Kept fits after := by
  obtain ⟨housed, _⟩ := kept
  rw [commanded.inside] at filed ⊢
  exact ⟨⟨⟨housed.alone, housed.sound, housed.given⟩, housed.plain, housed.fit⟩, filed⟩

theorem Kept.same (kept : Kept fits w) (table : after.table = w.table)
    (documents : sessionDocuments after = sessionDocuments w) (alone : after.foreign = [])
    (spent : w.nextSession ≤ after.nextSession) : Kept fits after :=
  ⟨kept.1.same table alone spent, kept.2.same documents spent⟩

theorem Kept.still : Still setup (Kept fits) :=
  fun unmoved kept => ⟨Housed.still unmoved kept.1, filed_beyond.still unmoved kept.2⟩

theorem wasSeen_kept (e : Event) : Preserves (Kept fits) (wasSeen setup e) := by
  intro w kept _
  have beside := @ConversationOrder.wasSeen_aside setup e w
  have database : (wasSeen setup e w).2.outside.database = w.outside.database :=
    Surroundings.wasSeen_view OutsideWork.database_apart e w
  refine ⟨kept.same beside.table ?_ (beside.foreign.trans kept.1.alone) (Nat.le_of_eq beside.nextSession.symm),
    fun _ _ => trivial⟩
  unfold sessionDocuments
  rw [database]

/-! The store in the database. -/

/-- The command by which a session is swapped. -/
def swapCommand (s : Session) (now : Instant) (change : Change) : Documents.Command :=
  .update collection (ofId (.str s.id) ++ [("current_step_id", .equals (.ofText? s.currentStep))])
    (changedFields now change) false

theorem checked {α : Type} {pre : World → Prop} (e : Except Fault α) :
    Keeps (Kept fits) pre (Work.check e) fun _ => pre :=
  fun _ kept holds => ⟨kept, fun _ _ => holds⟩

theorem findOne_finds (filter : Filter) (order : Option Order) :
    Finds OnFile (Kept fits) (Sessions.findOne setup filter order) := by
  have looked : Keeps (Kept fits) (fun _ => True)
      (Work.onOutside (guarded setup (.ok (.findOne collection filter order)) Reply.documents? []))
      fun documents w => ∀ document ∈ documents, document ∈ sessionDocuments w := by
    intro w kept _
    have unmoved := @Idle.guarded _ setup (.ok (.findOne collection filter order)) (fun _ same => by cases same; rfl)
      Reply.documents? [] w
    refine ⟨Kept.still unmoved kept, fun documents found document member => ?_⟩
    rw [sessionDocuments_unmoved unmoved]
    exact findOne_mem found document member
  apply looked.bind
  intro documents w kept found
  cases documents with
  | nil => exact ⟨kept, fun _ told s same => by cases told; cases same⟩
  | cons document rest =>
    obtain ⟨stored, filed, files⟩ := kept.2
    have inside := found document List.mem_cons_self
    rw [filed] at inside
    obtain ⟨s, member, rfl⟩ := List.mem_map.mp inside
    unfold ofFirst
    dsimp only
    rw [ofDocument_toDocument setup (files.plain s member)]
    refine ⟨kept, fun _ told other same => ?_⟩
    cases told
    cases same
    exact onFile_of_member filed files.plain member

section
variable (inDatabase : setup.hasDatabase = true)
include inDatabase

theorem reset_kept (address : String) : Preserves (Kept fits) (Store.reset setup address) := by
  simp only [Store.reset, inDatabase, if_true]
  intro w kept _
  have commanded := @guarded_commanded _ setup (.delete collection (ofContact (.str address)) true) Reply.count? 0 w
  exact ⟨kept.commanded (kept.2.deleted commanded) commanded, fun _ _ => trivial⟩

variable (lawful : Lawful offered fits)
include lawful

theorem abandonAll_kept (address : String) : Preserves (Kept fits) (Store.abandonAll setup address) := by
  have passes : ∀ s, Filter.passes (toDocument s) (ofContact (.str address) ++ [isOpen]) = .ok _ :=
    fun s => passes_ofContact (passes_isOpen rfl)
  simp only [Store.abandonAll, inDatabase, if_true]
  unfold Sessions.abandonAll
  intro w kept _
  refine ⟨?_, fun _ _ => trivial⟩
  cases setup.utcNow with
  | error fault =>
    exact Kept.still (@Idle.guarded _ setup (.error fault) (fun _ impossible => by cases impossible) Reply.count? 0 w) kept
  | ok now =>
    obtain ⟨stored, documents, files⟩ := kept.2
    have commanded := @guarded_commanded _ setup (.update collection (ofContact (.str address) ++ [isOpen])
      [("status", .str SessionStatus.completed.name), ("current_step_id", .null), ("assignee", .null),
        ("resume_at", .null), ("resume_step_id", .null), ("updated_at", .time now)] true) Reply.count? 0 w
    refine kept.commanded (Filed.updated documents files passes (Or.inl rfl) (fun _ => merge_ending now) (fun _ => rfl)
      (fun _ plain => plain_abandon plain now) (fun s member meant => ?_) commanded) commanded
    have ongoing : s.status = .active := by
      simp only [Bool.and_true, Bool.and_eq_true, beq_iff_eq] at meant
      exact meant.2
    exact lawful.abandoned (files.fit s member) ongoing now

theorem create_kept (key : SessionKey) (vars : Fields) (deviceId : Option String) :
    Keeps (Kept fits) (fun _ => True) (Store.create setup key vars deviceId) OnFile := by
  have numbered : Keeps (Kept fits) (fun _ => True) Work.freshId Fresh := by
    intro w kept _
    obtain ⟨stored, documents, files⟩ := kept.2
    refine ⟨kept.same rfl rfl kept.1.alone (Nat.le_succ _), fun id same => ?_⟩
    cases same
    refine ⟨fun s onFile => ?_, fun n spent same => absurd (idOf_injective same) (Nat.ne_of_lt spent)⟩
    exact files.given s (onFile.member documents files.plain) _ (Nat.le_refl _)
  simp only [Store.create, inDatabase, if_true, Sessions.create]
  apply numbered.bind
  intro id
  apply (checked setup.utcNow).bind
  intro now
  -- The session that the new one replaces goes first, which leaves the new id as fresh as it was.
  have cleared : Keeps (Kept fits) (Fresh id) (Work.tryOutside (command
      (.delete collection (ofKey (.str key.address) (.str key.flowId)) false))) fun _ => Fresh id := by
    intro w kept fresh
    have commanded := command_commanded (.delete collection (ofKey (.str key.address) (.str key.flowId)) false) w
    refine ⟨kept.commanded (kept.2.deleted commanded) commanded, fun _ _ => ⟨fun s onFile => ?_, fresh.past⟩⟩
    exact fresh.unused s ⟨onFile.1, (deleted_fewer commanded).subset onFile.2⟩
  apply cleared.bind
  intro _
  let made := newSession id now key vars deviceId
  have inserted : Keeps (Kept fits) (Fresh id) (Work.tryOutside (command (.insert collection (toDocument made))))
      fun _ => OnFile made := by
    intro w kept fresh
    have commanded := command_commanded (.insert collection (toDocument made)) w
    refine ⟨kept.commanded (kept.2.inserted fresh rfl (lawful.made _ _ _ _ _) commanded) commanded, fun reply done => ?_⟩
    refine ⟨rfl, ?_⟩
    unfold sessionDocuments
    rw [insert_leaves (command_executed done)]
    exact List.mem_append_right _ (List.mem_singleton_self _)
  exact inserted.bind fun _ => .pure fun _ _ onFile => onFile

/-- A swap is meant for the session that was read, and finds it as it was. -/
theorem swap_kept {change : Change} (advances : Advances offered s change) :
    Keeps (Kept fits) (OnFile s) (Store.swap setup s.id s.currentStep change) fun _ _ => True := by
  simp only [Store.swap, inDatabase, if_true, Sessions.swap]
  apply (checked setup.utcNow).bind
  intro now
  have saved : Keeps (Kept fits) (OnFile s) (Work.onOutside (guarded setup (.ok (swapCommand s now change))
      Reply.count? 0)) fun _ _ => True := by
    intro w kept onFile
    obtain ⟨stored, documents, files⟩ := kept.2
    have commanded := @guarded_commanded _ setup (swapCommand s now change) Reply.count? 0 w
    refine ⟨kept.commanded (Filed.updated documents files (fun _ => passes_standing s.id s.currentStep)
      (Or.inr (standing_single files.ids _ _)) (fun _ => merge_changedFields now advances.typed) (fun _ => rfl)
      (fun _ plain => plain_apply plain advances.typed now) (fun other member meant => ?_) commanded) commanded,
      fun _ _ => trivial⟩
    -- Whatever passes the filter is the session in hand, so the change was computed from it.
    rw [files.eq_of_stands (onFile.member documents files.plain) member meant]
    exact lawful.advanced (files.fit _ (onFile.member documents files.plain)) advances now
  exact saved.bind fun _ => .done

end

/-! The service, whichever store it is set up with. -/

/-- A session is as it is in the store that is used. -/
def Held (setup : Setup) (s : Session) (w : World) : Prop := if setup.hasDatabase then OnFile s w else Stored s w

theorem held_inProcess (inProcess : setup.hasDatabase = false) : Held setup = Stored := by
  funext s w
  simp [Held, inProcess]

theorem held_inDatabase (inDatabase : setup.hasDatabase = true) : Held setup = OnFile := by
  funext s w
  simp [Held, inDatabase]

theorem held_unmoved (unmoved : Unmoved setup w after) : Held setup s after ↔ Held setup s w := by
  unfold Held OnFile Stored
  rw [sessionDocuments_unmoved unmoved, unmoved.table]

theorem Held.eq_of_id {other : Session} (kept : Kept fits w) (held : Held setup s w) (kin : Held setup other w)
    (same : other.id = s.id) : other = s := by
  cases place : setup.hasDatabase with
  | false =>
    rw [held_inProcess place] at held kin
    rw [Stored, same, held] at kin
    exact (Option.some.inj kin).symm
  | true =>
    rw [held_inDatabase place] at held kin
    obtain ⟨stored, documents, files⟩ := kept.2
    have found := find?_of_nodup files.ids (kin.member documents files.plain)
    rw [same, find?_of_nodup files.ids (held.member documents files.plain)] at found
    exact (Option.some.inj found).symm

/-- A swap leaves every session as it was, or changes the one that it is meant for. -/
theorem swap_leaves {change : Change} {other : Session} (kept : Kept fits w) (held : Held setup s w)
    (typed : change.loose = []) (left : Held setup other (Store.swap setup s.id s.currentStep change w).2) :
    Held setup other w ∨ ∃ now, other = change.apply now s := by
  cases place : setup.hasDatabase with
  | false =>
    rw [held_inProcess place] at held left ⊢
    rcases swap_left place kept.1.alone s.id s.currentStep change with same | ⟨found, now, here, same⟩ <;> rw [same] at left
    · exact Or.inl left
    · obtain rfl : found = s := Option.some.inj (here.symm.trans held)
      rcases mem_put left.member with changed | former
      · exact Or.inr ⟨now, changed⟩
      · exact Or.inl (kept.1.stored former)
  | true =>
    rw [held_inDatabase place] at held left ⊢
    simp only [Store.swap, place, if_true, Sessions.swap, bind_apply] at left
    cases present : setup.utcNow with
    | error fault =>
      rw [present] at left
      exact Or.inl left
    | ok now =>
      rw [present] at left
      obtain ⟨stored, documents, files⟩ := kept.2
      have commanded := @guarded_commanded _ setup (swapCommand s now change) Reply.count? 0 w
      rcases updated_leaves documents (fun _ => passes_standing s.id s.currentStep)
        (Or.inr (standing_single files.ids _ _)) (fun _ => merge_changedFields now typed) commanded with same | changed
      · exact Or.inl ⟨left.1, by rw [documents, ← same]; exact left.2⟩
      · have member := OnFile.member left changed fun other listed => ?_
        · obtain ⟨former, inside, rfl⟩ := List.mem_map.mp member
          split
          next meant =>
            rw [files.eq_of_stands (held.member documents files.plain) inside meant]
            exact Or.inr ⟨now, rfl⟩
          next => exact Or.inl (onFile_of_member documents files.plain inside)
        · obtain ⟨former, inside, rfl⟩ := List.mem_map.mp listed
          split
          · exact plain_apply (files.plain former inside) typed now
          · exact files.plain former inside

theorem kept_lasting {stored : Session → World → Prop} (stays : ∀ s, Still setup (stored s))
    (get : ∀ id, Finds stored (Kept fits) (Store.get setup id))
    (create : ∀ key vars deviceId, Keeps (Kept fits) (fun _ => True) (Store.create setup key vars deviceId) stored)
    (swap : ∀ {s c}, Advances (fun _ _ => True) s c →
      Keeps (Kept fits) (stored s) (Store.swap setup s.id s.currentStep c) fun _ _ => True) :
    Lasting setup (fun _ => True) (fun _ => True) (fun _ _ => True) stored (Kept fits) where
  unmoved := Kept.still
  stays := stays
  known _ _ := ⟨trivial, trivial⟩
  flow? id w kept _ := ⟨Kept.still (flow?_idle id w) kept, fun _ _ _ _ => ⟨trivial, trivial⟩⟩
  active w kept _ := ⟨Kept.still (active_idle w) kept, fun _ _ _ _ => trivial⟩
  get id _ := get id
  create key vars deviceId _ := create key vars deviceId
  swap := swap

section
variable (lawful : Lawful (fun _ _ => True) fits)
include lawful

theorem inProcess_abiding (inProcess : setup.hasDatabase = false) :
    Abiding setup (fun _ => True) (fun _ _ => True) Stored (Kept fits) where
  lasting := kept_lasting Stored.still (get_keeps inProcess) (create_keeps inProcess filed_beyond lawful)
    (swap_keeps inProcess filed_beyond lawful)
  seen := wasSeen_kept
  find := find_keeps inProcess
  findForFlow := findForFlow_keeps inProcess
  abandonAll := abandonAll_keeps inProcess filed_beyond lawful
  reset := reset_keeps inProcess filed_beyond
  addressed _ _ := trivial

theorem inDatabase_abiding (inDatabase : setup.hasDatabase = true) :
    Abiding setup (fun _ => True) (fun _ _ => True) OnFile (Kept fits) where
  lasting := by
    refine kept_lasting OnFile.still (fun id => ?_) (create_kept inDatabase lawful) (swap_kept inDatabase lawful)
    simp only [Store.get, inDatabase, if_true]
    exact findOne_finds _ _
  seen := wasSeen_kept
  find contact := by
    simp only [Store.find, inDatabase, if_true]
    exact findOne_finds _ _
  findForFlow key := by
    simp only [Store.findForFlow, inDatabase, if_true]
    exact findOne_finds _ _
  abandonAll := abandonAll_kept inDatabase lawful
  reset := reset_kept inDatabase
  addressed _ _ := trivial

theorem kept_abiding : Abiding setup (fun _ => True) (fun _ _ => True) (Held setup) (Kept fits) := by
  cases place : setup.hasDatabase with
  | false =>
    rw [held_inProcess place]
    exact inProcess_abiding lawful place
  | true =>
    rw [held_inDatabase place]
    exact inDatabase_abiding lawful place

end

/-- The states that the service alone brings its stores to, from empty ones: whatever it is asked, and whenever it looks
for sessions whose wait is over. Each time it may be set up otherwise, and all but the sessions may change in between. -/
inductive Tended : World → Prop where
  | empty {w : World} (table : w.table = {}) (documents : sessionDocuments w = []) (alone : w.foreign = []) : Tended w
  | asked {w : World} (tended : Tended w) (setup : Setup) (a : Asking) : Tended (a.leave setup w)
  | resumed {w : World} (tended : Tended w) (setup : Setup) : Tended (resumeDue setup w).2
  | beside {w after : World} (tended : Tended w) (table : after.table = w.table)
      (documents : sessionDocuments after = sessionDocuments w) (alone : after.foreign = [])
      (spent : w.nextSession ≤ after.nextSession) : Tended after

theorem Tended.kept (lawful : Lawful (fun _ _ => True) fits) (tended : Tended w) : Kept fits w := by
  induction tended with
  | empty table documents alone =>
    refine ⟨⟨⟨alone, ?_, ?_⟩, ?_, ?_⟩, [], documents, List.nodup_nil, ?_, ?_, ?_⟩
    · rw [table]
      exact sound_empty
    all_goals
      intro s member
      simp [table, sessions] at member
  | asked _ setup a before => exact (kept_abiding lawful).asking (fun _ _ => trivial) before
  | resumed _ setup before => exact ((kept_abiding lawful).resumeDue _ before trivial).1
  | beside _ table documents alone spent before => exact before.same table documents alone spent

theorem Tended.alone (tended : Tended w) : w.foreign = [] := by
  have anything : Lawful (fun _ _ => True) fun _ => True :=
    ⟨fun _ _ _ _ _ => trivial, fun _ _ _ => trivial, fun _ _ _ => trivial⟩
  exact (tended.kept anything).1.alone

end Chatflow.Proofs.FiledSessions
