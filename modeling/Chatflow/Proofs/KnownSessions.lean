import Chatflow.Proofs.StoreInvariants

/-! Sessions told apart by their ids. An id is given out once, so that work on other sessions, and on those that are made
later, changes nothing of what is stored under it. -/

namespace Chatflow.Proofs.KnownSessions
open Conversation SessionTable StoredSessions InProcessStore WorkLogic OrderlySessions ConversationOrder StoreInvariants

variable {setup : Setup} {w : World} {id : String} {s : Session} {fits : Session → Prop}

/-- Sessions that are made from now on have other ids. -/
structure Past (id : String) (w : World) : Prop extends Solitary w where
  past : ∀ n, w.nextSession ≤ n → id ≠ s!"s{n}"

/-- What is stored under an id that was given out, if anything still is, fits an assertion. -/
structure Known (id : String) (fits : Session → Prop) (w : World) : Prop extends Past id w where
  fits : ∀ s ∈ w.table.sessions, s.id = id → fits s

theorem Past.settled : Settled (Past id) := by
  intro w after beside gone
  refine ⟨Solitary.settled beside gone.toSolitary, ?_⟩
  rw [beside.nextSession]
  exact gone.past

theorem Known.settled : Settled (Known id fits) := by
  intro w after beside known
  refine ⟨Past.settled beside known.toPast, ?_⟩
  rw [beside.table]
  exact known.fits

/-- What is saved is then known of the session. -/
theorem known_of_saved {change : Change} {moment : Instant} (solitary : Solitary w)
    (stored : w.table.get? s.id = some s) (holds : fits (change.apply moment s)) :
    Known s.id fits { w with table := w.table.put (change.apply moment s) } := by
  have kept := solitary.changed (get?_mem stored) change moment
  refine ⟨⟨kept, solitary.given s (get?_mem stored)⟩, fun other member same => ?_⟩
  have saved : (w.table.put (change.apply moment s)).get? s.id = some (change.apply moment s) := kept.sound.get?_put
  have found := kept.sound.get?_of_mem member
  rw [same, saved] at found
  rwa [← Option.some.inj found]

section
variable (inProcess : setup.hasDatabase = false)
include inProcess

theorem create_past (key : SessionKey) (vars : Fields) (deviceId : Option String) :
    Keeps (Past id) (fun _ => True) (Store.create setup key vars deviceId) fun s _ => s.id ≠ id := by
  intro w gone _
  have later : ∀ n, w.nextSession + 1 ≤ n → id ≠ s!"s{n}" := fun n spent => gone.past n (Nat.le_of_succ_le spent)
  rw [create_apply inProcess]
  cases setup.utcNow with
  | error fault =>
    have solitary : Solitary { w with nextSession := w.nextSession + 1 } :=
      ⟨gone.alone, gone.sound, fun s member n spent => gone.given s member n (Nat.le_of_succ_le spent)⟩
    exact ⟨⟨solitary, later⟩, fun _ impossible => by cases impossible⟩
  | ok now =>
    refine ⟨⟨gone.toSolitary.create now key vars deviceId, later⟩, fun s same => ?_⟩
    cases same
    exact (gone.past _ (Nat.le_refl _)).symm

theorem swap_past (other : String) (expected : Option String) (change : Change) :
    Preserves (Past id) (Store.swap setup other expected change) := by
  intro w gone _
  refine ⟨?_, fun _ _ => trivial⟩
  rcases swap_left inProcess gone.alone other expected change with left | ⟨s, moment, stored, left⟩ <;> rw [left]
  · exact gone
  · exact ⟨gone.toSolitary.changed (get?_mem stored) change moment, gone.past⟩

theorem past_upheld : Upheld setup (fun _ => True) (Past id) where
  settled := Past.settled
  create key vars deviceId := (create_past inProcess key vars deviceId).weaken (fun _ _ _ => trivial) fun _ _ _ _ => trivial
  swap other _ := swap_past inProcess other

theorem create_known (key : SessionKey) (vars : Fields) (deviceId : Option String) :
    Keeps (Known id fits) (fun _ => True) (Store.create setup key vars deviceId) fun s _ => s.id ≠ id := by
  intro w known _
  obtain ⟨gone, apart⟩ := create_past inProcess key vars deviceId w known.toPast trivial
  refine ⟨⟨gone, ?_⟩, apart⟩
  rw [create_apply inProcess]
  cases setup.utcNow with
  | error fault => exact known.fits
  | ok now =>
    intro s member same
    rcases mem_put member with rfl | former
    · exact absurd same.symm (known.past _ (Nat.le_refl _))
    · exact known.fits s former same

theorem swap_known {other : String} (apart : other ≠ id) (expected : Option String) (change : Change) :
    Preserves (Known id fits) (Store.swap setup other expected change) := by
  intro w known _
  refine ⟨⟨(swap_past inProcess other expected change w known.toPast trivial).1, ?_⟩, fun _ _ => trivial⟩
  rcases swap_left inProcess known.alone other expected change with left | ⟨s, moment, stored, left⟩ <;> rw [left]
  · exact known.fits
  · intro changed member same
    rcases mem_put member with rfl | former
    · exact absurd ((get?_id stored).symm.trans same) apart
    · exact known.fits changed former same

/-- Work on other sessions brings nothing else under an id. -/
theorem known_upheld : Upheld setup (· ≠ id) (Known id fits) :=
  ⟨Known.settled, create_known inProcess, fun _ apart => swap_known inProcess apart⟩

end

end Chatflow.Proofs.KnownSessions
