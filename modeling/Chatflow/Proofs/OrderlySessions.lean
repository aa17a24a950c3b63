import Chatflow.Proofs.InProcessStore
import Chatflow.Proofs.LastingInvariants

/-! Order among the stored sessions: what every operation of the runtime keeps up, however it ends, as long as it
alone writes to the store. A session that is changed is the stored one, since no one can have come in between. -/

namespace Chatflow.Proofs.OrderlySessions
open Conversation Interpreter StepEffects RunEndings AgentTurns ParkedSessions SessionTable StoredSessions
  InProcessStore LastingInvariants WorkLogic

variable {setup : Setup} {c : Catalogue} {offered : String → Flow → Prop} {w : World} {s : Session}

/-- Each record has its own key and an id that was given out, and active sessions are in place. -/
structure Orderly (c : Catalogue) (w : World) : Prop where
  offered : w.catalogue = c
  alone : w.foreign = []
  sound : Sound w.table
  given : ∀ s ∈ w.table.sessions, ∀ n, w.nextSession ≤ n → s.id ≠ s!"s{n}"
  plain : ∀ s ∈ w.table.sessions, s.loose = []
  parked : ∀ s ∈ w.table.sessions, s.isActive = true → InPlace c s

/-- A session is as it is stored. -/
def Stored (s : Session) (w : World) : Prop := w.table.get? s.id = some s

theorem Orderly.settled : Settled (Orderly c) := by
  intro w after beside orderly
  refine ⟨?_, ?_, ?_, ?_, ?_, ?_⟩
  · rw [beside.catalogue]; exact orderly.offered
  · rw [beside.foreign]; exact orderly.alone
  · rw [beside.table]; exact orderly.sound
  · rw [beside.table, beside.nextSession]; exact orderly.given
  · rw [beside.table]; exact orderly.plain
  · rw [beside.table]; exact orderly.parked

theorem settled_true : Settled fun _ => True := fun _ _ => trivial

theorem Stored.member (stored : Stored s w) : s ∈ w.table.sessions := get?_mem stored

theorem idOf_injective {m n : Nat} (same : s!"s{m}" = s!"s{n}") : m = n := by
  have digits : Nat.toDigits 10 m = Nat.toDigits 10 n := by simpa using congrArg String.toList same
  rw [← @Nat.ofDigitChars_ten_toDigits m, digits, Nat.ofDigitChars_ten_toDigits]

/-- The store of one process that alone writes to it: no two records are confused, and no id was given out before its
time. -/
structure Solitary (w : World) : Prop where
  alone : w.foreign = []
  sound : Sound w.table
  given : ∀ s ∈ w.table.sessions, ∀ n, w.nextSession ≤ n → s.id ≠ s!"s{n}"

/-- The first session that was made, where there is no other. -/
theorem solitary_of_first (s : Session) (first : s.id = s!"s{1}") (table : w.table = ⟨[(s.key, s)]⟩) (alone : w.foreign = [])
    (next : w.nextSession = 2) : Solitary w := by
  refine ⟨alone, ?_, fun other member n later same => ?_⟩
  · rw [table]
    exact ⟨fun row member => by rw [List.mem_singleton.mp member], by simp, by simp⟩
  · rw [table] at member
    rw [List.mem_singleton.mp member] at same
    have one : 1 = n := idOf_injective (first.symm.trans same)
    omega

theorem Solitary.settled : Settled Solitary := by
  intro w after beside solitary
  refine ⟨?_, ?_, ?_⟩
  · rw [beside.foreign]; exact solitary.alone
  · rw [beside.table]; exact solitary.sound
  · rw [beside.table, beside.nextSession]; exact solitary.given

theorem Solitary.create (solitary : Solitary w) (now : Instant) (key : SessionKey) (vars : Fields)
    (deviceId : Option String) :
    Solitary { w with
      nextSession := w.nextSession + 1
      table := w.table.put (newSession s!"s{w.nextSession}" now key vars deviceId) } := by
  refine ⟨solitary.alone, ?_, ?_⟩
  · apply solitary.sound.put
    intro other member same
    exact absurd same (solitary.given other member _ (Nat.le_refl _))
  · intro s member n later
    rcases mem_put member with rfl | former
    · exact fun same => absurd (idOf_injective same) (Nat.ne_of_lt later)
    · exact solitary.given s former n (Nat.le_of_succ_le later)

theorem Solitary.changed (solitary : Solitary w) (member : s ∈ w.table.sessions) (change : Change) (now : Instant) :
    Solitary { w with table := w.table.put (change.apply now s) } := by
  refine ⟨solitary.alone, solitary.sound.apply member change now, ?_⟩
  intro other inside
  rcases mem_put inside with rfl | former
  · exact solitary.given s member
  · exact solitary.given other former

theorem Solitary.abandonAll (solitary : Solitary w) (now : Instant) (address : String) :
    Solitary { w with table := (w.table.abandonAll now address).2 } := by
  refine ⟨solitary.alone, solitary.sound.abandonAll now address, ?_⟩
  intro s member
  rcases mem_abandonAll member with former | ⟨former, stored, rfl⟩
  · exact solitary.given s former
  · exact solitary.given former stored

theorem Solitary.reset (solitary : Solitary w) (address : String) :
    Solitary { w with table := (w.table.reset address).2 } :=
  ⟨solitary.alone, solitary.sound.reset address, fun s member => solitary.given s (mem_reset member)⟩

/-- Each record that the process keeps is plain and fits. -/
structure Housed (fits : Session → Prop) (w : World) : Prop extends Solitary w where
  plain : ∀ s ∈ w.table.sessions, s.loose = []
  fit : ∀ s ∈ w.table.sessions, fits s

theorem orderly_iff : Orderly c w ↔ Housed (fun s => s.isActive = true → InPlace c s) w ∧ w.catalogue = c :=
  ⟨fun orderly => ⟨⟨⟨orderly.alone, orderly.sound, orderly.given⟩, orderly.plain, orderly.parked⟩, orderly.offered⟩,
    fun ⟨housed, offered⟩ => ⟨offered, housed.alone, housed.sound, housed.given, housed.plain, housed.fit⟩⟩

/-- What fits sessions that are made, and still fits them when the runtime changes them. -/
structure Lawful (offered : String → Flow → Prop) (fits : Session → Prop) : Prop where
  made : ∀ id now key vars deviceId, fits (newSession id now key vars deviceId)
  advanced : ∀ {s change}, fits s → Advances offered s change → ∀ now, fits (change.apply now s)
  abandoned : ∀ {s}, fits s → s.status = .active → ∀ now, fits (s.abandon now)

theorem plain_apply {change : Change} (plain : s.loose = []) (typed : change.loose = []) (now : Instant) :
    (change.apply now s).loose = [] := by
  simp [Change.apply, plain, typed, Fields.merge]

theorem plain_abandon (plain : s.loose = []) (now : Instant) : (s.abandon now).loose = [] := by
  simp [Session.abandon, plain]

section
variable {fits : Session → Prop}

theorem Housed.stored (housed : Housed fits w) (member : s ∈ w.table.sessions) : Stored s w :=
  housed.sound.get?_of_mem member

theorem Housed.same {after : World} (housed : Housed fits w) (table : after.table = w.table)
    (alone : after.foreign = []) (spent : w.nextSession ≤ after.nextSession) : Housed fits after := by
  refine ⟨⟨alone, ?_, ?_⟩, ?_, ?_⟩
  · rw [table]; exact housed.sound
  · rw [table]
    exact fun s member n later => housed.given s member n (Nat.le_trans spent later)
  · rw [table]; exact housed.plain
  · rw [table]; exact housed.fit

theorem Housed.still : Still setup (Housed fits) :=
  fun unmoved housed => housed.same unmoved.table (unmoved.foreign.trans housed.alone) unmoved.counted

theorem Stored.still (s : Session) : Still setup (Stored s) := by
  intro w after unmoved stored
  rw [Stored, unmoved.table]
  exact stored

variable (lawful : Lawful offered fits) (housed : Housed fits w)
include lawful housed

theorem Housed.create (now : Instant) (key : SessionKey) (vars : Fields) (deviceId : Option String) :
    Housed fits { w with
      nextSession := w.nextSession + 1
      table := w.table.put (newSession s!"s{w.nextSession}" now key vars deviceId) } := by
  refine ⟨housed.toSolitary.create now key vars deviceId, ?_, ?_⟩
  · intro s member
    rcases mem_put member with rfl | former
    · rfl
    · exact housed.plain s former
  · intro s member
    rcases mem_put member with rfl | former
    · exact lawful.made _ _ _ _ _
    · exact housed.fit s former

theorem Housed.changed (stored : Stored s w) {change : Change} (advances : Advances offered s change) (now : Instant) :
    Housed fits { w with table := w.table.put (change.apply now s) } := by
  refine ⟨housed.toSolitary.changed stored.member change now, ?_, ?_⟩
  · intro other member
    rcases mem_put member with rfl | former
    · exact plain_apply (housed.plain s stored.member) advances.typed now
    · exact housed.plain other former
  · intro other member
    rcases mem_put member with rfl | former
    · exact lawful.advanced (housed.fit s stored.member) advances now
    · exact housed.fit other former

theorem Housed.abandonAll (now : Instant) (address : String) :
    Housed fits { w with table := (w.table.abandonAll now address).2 } := by
  refine ⟨housed.toSolitary.abandonAll now address, ?_, ?_⟩
  · intro s member
    rcases mem_abandonAll member with former | ⟨former, stored, rfl⟩
    · exact housed.plain s former
    · exact plain_abandon (housed.plain former stored) now
  · intro s member
    rcases mem_abandonAll_open member with former | ⟨former, stored, ongoing, rfl⟩
    · exact housed.fit s former
    · exact lawful.abandoned (housed.fit former stored) ongoing now

omit lawful in
theorem Housed.reset (address : String) : Housed fits { w with table := (w.table.reset address).2 } :=
  ⟨housed.toSolitary.reset address, fun s member => housed.plain s (mem_reset member),
    fun s member => housed.fit s (mem_reset member)⟩

end

/-- An assertion about something else than the sessions that the process keeps. Sessions that are made may count. -/
structure Beyond (setup : Setup) (apart : World → Prop) : Prop where
  still : Still setup apart
  elsewhere : ∀ {w} table n, w.nextSession ≤ n → apart w → apart { w with nextSession := n, table := table }

section
variable {fits : Session → Prop} {apart : World → Prop} (inProcess : setup.hasDatabase = false)
include inProcess

theorem find_keeps (address : String) :
    Finds Stored (fun w => Housed fits w ∧ apart w) (Store.find setup address) := by
  rw [find_eq inProcess]
  exact .look fun w holds _ s found => holds.1.stored (find?_mem found)

theorem findForFlow_keeps (key : SessionKey) :
    Finds Stored (fun w => Housed fits w ∧ apart w) (Store.findForFlow setup key) := by
  rw [findForFlow_eq inProcess]
  exact .look fun w holds _ s found => holds.1.stored (findForFlow?_mem found)

theorem get_keeps (id : String) : Finds Stored (fun w => Housed fits w ∧ apart w) (Store.get setup id) := by
  rw [get_eq inProcess]
  exact .look fun w _ _ s found => get?_self found

variable (beyond : Beyond setup apart)
include beyond

theorem reset_keeps (address : String) :
    Preserves (fun w => Housed fits w ∧ apart w) (Store.reset setup address) := by
  intro w holds _
  rw [reset_apply inProcess]
  exact ⟨⟨holds.1.reset address, beyond.elsewhere _ _ (Nat.le_refl _) holds.2⟩, fun _ _ => trivial⟩

variable (lawful : Lawful offered fits)
include lawful

theorem abandonAll_keeps (address : String) :
    Preserves (fun w => Housed fits w ∧ apart w) (Store.abandonAll setup address) := by
  intro w holds _
  refine ⟨?_, fun _ _ => trivial⟩
  rw [abandonAll_apply inProcess]
  split
  · cases setup.utcNow with
    | error fault => exact holds
    | ok now => exact ⟨holds.1.abandonAll lawful now address, beyond.elsewhere _ _ (Nat.le_refl _) holds.2⟩
  · exact holds

theorem create_keeps (key : SessionKey) (vars : Fields) (deviceId : Option String) :
    Keeps (fun w => Housed fits w ∧ apart w) (fun _ => True) (Store.create setup key vars deviceId) Stored := by
  intro w holds _
  rw [create_apply inProcess]
  cases setup.utcNow with
  | error fault =>
    exact ⟨⟨holds.1.same rfl holds.1.alone (Nat.le_succ _), beyond.elsewhere w.table _ (Nat.le_succ _) holds.2⟩,
      fun _ impossible => by cases impossible⟩
  | ok now =>
    have created := holds.1.create lawful now key vars deviceId
    refine ⟨⟨created, beyond.elsewhere _ _ (Nat.le_succ _) holds.2⟩, fun s same => ?_⟩
    cases same
    exact created.stored (put_mem _ _)

/-- As long as no one else writes, a swap finds the session that was read. -/
theorem swap_keeps {change : Change} (advances : Advances offered s change) :
    Keeps (fun w => Housed fits w ∧ apart w) (Stored s) (Store.swap setup s.id s.currentStep change) fun _ _ => True := by
  intro w holds stored
  refine ⟨?_, fun _ _ => trivial⟩
  rcases swap_left inProcess holds.1.alone s.id s.currentStep change with same | ⟨found, now, kept, same⟩ <;> rw [same]
  · exact holds
  · obtain rfl : found = s := Option.some.inj (kept.symm.trans stored)
    exact ⟨holds.1.changed lawful stored advances now, beyond.elsewhere _ _ (Nat.le_refl _) holds.2⟩

end

end Chatflow.Proofs.OrderlySessions
