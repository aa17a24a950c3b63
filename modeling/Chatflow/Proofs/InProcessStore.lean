import Chatflow.Conversation.Start
import Chatflow.Proofs.StoredSessions
import Chatflow.Proofs.WorkLogic
import Chatflow.Store.Lookup

/-! The store within the process, operation by operation. Other writers act only where the runtime is about to swap
a session. -/

namespace Chatflow.Proofs.InProcessStore
open SessionTable StoredSessions WorkLogic

variable {setup : Setup} (inProcess : setup.hasDatabase = false)
include inProcess

theorem find_eq (address : String) : Store.find setup address = Work.look fun w => w.table.find? address := by
  simp only [Store.find, inProcess, Bool.false_eq_true, if_false]

theorem get_eq (id : String) : Store.get setup id = Work.look fun w => w.table.get? id := by
  simp only [Store.get, inProcess, Bool.false_eq_true, if_false]

theorem findForFlow_eq (key : SessionKey) :
    Store.findForFlow setup key = Work.look fun w => w.table.findForFlow? key := by
  simp only [Store.findForFlow, inProcess, Bool.false_eq_true, if_false]

theorem has_eq (key : SessionKey) : Store.has setup key = Work.look fun w => w.table.has key := by
  simp only [Store.has, inProcess, Bool.false_eq_true, if_false]

theorem due_eq (now : Instant) (limit : Int) :
    Store.due setup now limit = Work.look fun w => w.table.due now limit := by
  simp only [Store.due, inProcess, Bool.false_eq_true, if_false]

theorem active_eq : Offer.active setup = Work.look fun w => w.catalogue.active := by
  simp only [Offer.active, inProcess, Bool.false_eq_true, if_false]

theorem flow?_eq (id : String) : Offer.flow? setup id = Work.look fun w => w.catalogue.flow? id := by
  simp only [Offer.flow?, inProcess, Bool.false_eq_true, if_false]

theorem agent?_eq (id : String) : Offer.agent? setup id = Work.look fun w => w.catalogue.agent? id := by
  simp only [Offer.agent?, inProcess, Bool.false_eq_true, if_false]

omit inProcess in
/-- Another writer acts on a session if one is scheduled to; its turn is over either way. -/
theorem interfere_apply (id : String) (w : World) :
    Store.interfere setup id w = match w.foreign.head?.join with
      | none => (.ok (), { w with foreign := w.foreign.tail })
      | some write => match setup.utcNow with
        | .error fault => (.error fault, { w with foreign := w.foreign.tail })
        | .ok now => (.ok (), { w with foreign := w.foreign.tail, table := write.apply now id w.table }) := by
  simp only [Store.interfere, bind_apply, Work.look, Work.change]
  cases w.foreign.head?.join with
  | none => rfl
  | some write =>
    simp only [bind_apply, Work.check, Work.change]
    cases setup.utcNow <;> rfl

omit inProcess in
theorem interfere_alone {w : World} (alone : w.foreign = []) (id : String) :
    Store.interfere setup id w = (.ok (), w) := by
  cases w
  cases alone
  rfl

/-- A swap is preceded by what another writer does. It is accepted if the session then stands where it is expected,
and refused otherwise. -/
theorem swap_apply (id : String) (expected : Option String) (c : Change) (w : World) :
    Store.swap setup id expected c w = match Store.interfere setup id w with
      | (.error fault, w) => (.error fault, w)
      | (.ok _, w) => match w.table.standsAt? id expected with
        | none => (.ok false, w)
        | some s => match setup.utcNow with
          | .error fault => (.error fault, w)
          | .ok now => (.ok true, { w with table := w.table.put (c.apply now s) }) := by
  simp only [Store.swap, inProcess, Bool.false_eq_true, if_false, bind_apply]
  rcases Store.interfere setup id w with ⟨_ | _, after⟩
  · rfl
  · simp only [Work.look]
    cases stands : after.table.standsAt? id expected with
    | none => rfl
    | some s =>
      simp only [Option.isNone_some, Bool.false_eq_true, if_false, bind_apply, Work.check]
      cases setup.utcNow with
      | error fault => rfl
      | ok now => simp only [SessionTable.swap, stands]

/-- As long as no one else writes, a swap leaves the world as it is, or puts the changed session in place of the stored one. -/
theorem swap_left {w : World} (alone : w.foreign = []) (id : String) (expected : Option String) (c : Change) :
    (Store.swap setup id expected c w).2 = w ∨ ∃ s now, w.table.get? id = some s ∧
      (Store.swap setup id expected c w).2 = { w with table := w.table.put (c.apply now s) } := by
  rw [swap_apply inProcess, interfere_alone alone]
  dsimp only
  cases stands : w.table.standsAt? id expected with
  | none => exact Or.inl rfl
  | some s =>
    cases setup.utcNow with
    | error fault => exact Or.inl rfl
    | ok now => exact Or.inr ⟨s, now, (Option.filter_eq_some_iff.mp stands).1, rfl⟩

/-- A swap that is not accepted changes nothing, as long as no one else writes. -/
theorem swap_unaccepted {w after : World} {id : String} {expected : Option String} {change : Change}
    {answer : Except Fault Bool} (alone : w.foreign = []) (swapped : Store.swap setup id expected change w = (answer, after))
    (unaccepted : answer ≠ .ok true) : after = w := by
  rw [swap_apply inProcess, interfere_alone alone] at swapped
  dsimp only at swapped
  cases stands : w.table.standsAt? id expected with
  | none =>
    rw [stands] at swapped
    cases swapped
    rfl
  | some s =>
    rw [stands] at swapped
    cases present : setup.utcNow <;> rw [present] at swapped <;> cases swapped
    · rfl
    · exact absurd rfl unaccepted

/-- A new session takes the place of the one of its contact and flow. An id is used up in any case. -/
theorem create_apply (key : SessionKey) (vars : Fields) (deviceId : Option String) (w : World) :
    Store.create setup key vars deviceId w = match setup.utcNow with
      | .error fault => (.error fault, { w with nextSession := w.nextSession + 1 })
      | .ok now =>
        let s := newSession s!"s{w.nextSession}" now key vars deviceId
        (.ok s, { w with nextSession := w.nextSession + 1, table := w.table.put s }) := by
  simp only [Store.create, inProcess, Bool.false_eq_true, if_false, bind_apply, Work.freshId, Work.check]
  cases setup.utcNow <;> rfl

/-- The conversations of a contact are ended at the present time, which is only asked for if there are any. -/
theorem abandonAll_apply (address : String) (w : World) :
    Store.abandonAll setup address w =
      if w.table.rows.any (isOpenRow address) then match setup.utcNow with
        | .error fault => (.error fault, w)
        | .ok now =>
          (.ok (w.table.abandonAll now address).1, { w with table := (w.table.abandonAll now address).2 })
      else (.ok 0, w) := by
  simp only [Store.abandonAll, inProcess, Bool.false_eq_true, if_false, bind_apply, Work.look]
  split
  · simp only [bind_apply, Work.check]
    cases setup.utcNow <;> rfl
  · rfl

theorem reset_apply (address : String) (w : World) :
    Store.reset setup address w = (.ok (w.table.reset address).1, { w with table := (w.table.reset address).2 }) := by
  simp only [Store.reset, inProcess, Bool.false_eq_true, if_false]

/-- A service of its own, with universal time and nothing around it. -/
def aloneAt (now : Instant) : Setup := { now := now, settings := { zone := "UTC" } }

omit inProcess in
theorem find_utc : Zone.find "UTC" = .ok Zone.utc := rfl

omit inProcess in
theorem runOptions_aloneAt (now : Instant) : Conversation.runOptions (aloneAt now) = .ok { zone := Zone.utc } := by
  simp only [Conversation.runOptions, aloneAt, find_utc]
  rfl

end Chatflow.Proofs.InProcessStore
