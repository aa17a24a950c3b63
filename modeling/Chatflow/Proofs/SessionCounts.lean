import Chatflow.Proofs.Surroundings

/-! How many sessions work makes. They are counted where they are made: in the process by the numbers that they take, and
in the database by the commands that put them there. -/

namespace Chatflow.Proofs.SessionCounts
open Conversation Documents OutsideWork Surroundings ResumedWaits ConversationOrder InProcessStore WorkLogic

variable {α β : Type} {setup : Setup} {m n : Nat} {w : World}

/-- Whether a command puts a session into the database. -/
def isInsertion : Documents.Command → Bool
  | .insert name _ => name == Sessions.collection
  | _ => false

/-- How many sessions were to be put into the database since its record was last cleared. -/
def insertions (o : Outside) : Nat := o.database.record.countP isInsertion

theorem insertions_left {work : Outside → α × Outside} (leaves : Leaves Outside.database work) :
    Leaves insertions work := leaves.through fun database => database.record.countP isInsertion

/-- How many sessions have been made in the store that is in use. In the process each one takes a number of its own; into
the database each one is put by a command. -/
def made (setup : Setup) (w : World) : Nat := if setup.hasDatabase then insertions w.outside else w.nextSession

theorem made_outside {o : Outside} (same : insertions o = insertions w.outside) :
    made setup { w with outside := o } = made setup w := by
  unfold made
  split
  · exact same
  · rfl

/-- Work makes so many sessions at most, however it ends. -/
def MakesAtMost (setup : Setup) (n : Nat) (work : Work α) : Prop := ∀ w, made setup (work w).2 ≤ made setup w + n

namespace MakesAtMost

theorem bind {work : Work α} {next : α → Work β} (first : MakesAtMost setup m work)
    (rest : ∀ a, MakesAtMost setup n (next a)) : MakesAtMost setup (m + n) (work >>= next) := by
  intro w
  have before := first w
  rw [bind_apply]
  rcases done : work w with ⟨_ | a, middle⟩ <;> rw [done] at before
  · exact Nat.le_trans before (by omega)
  · have after := rest a middle
    dsimp only at before ⊢
    omega

theorem weaken {work : Work α} (makes : MakesAtMost setup m work) (fewer : m ≤ n) : MakesAtMost setup n work :=
  fun w => Nat.le_trans (makes w) (Nat.add_le_add_left fewer _)

theorem ending {work : Work α} (makes : MakesAtMost setup n work) {result : Except Fault α} {after : World}
    (done : work w = (result, after)) : made setup after ≤ made setup w + n := by
  have few := makes w
  rw [done] at few
  exact few

/-- Work that makes nothing adds nothing to what is made after it. -/
theorem andThen {work : Work α} {next : α → Work β} (first : MakesAtMost setup 0 work)
    (rest : ∀ a, MakesAtMost setup n (next a)) : MakesAtMost setup n (work >>= next) :=
  (first.bind rest).weaken (Nat.le_of_eq (Nat.zero_add n))

theorem still {work : Work α} (same : ∀ w, made setup (work w).2 = made setup w) : MakesAtMost setup n work :=
  fun w => Nat.le_trans (Nat.le_of_eq (same w)) (Nat.le_add_right _ n)

theorem pure (a : α) : MakesAtMost setup n (Pure.pure a) := still fun _ => rfl

theorem check (e : Except Fault α) : MakesAtMost setup n (Work.check e) := still fun _ => rfl

theorem look (f : World → α) : MakesAtMost setup n (Work.look f) := still fun _ => rfl

theorem fail (fault : Fault) : MakesAtMost setup n (Work.fail fault : Work α) := still fun _ => rfl

theorem running (run : List Float → Except Fault α × List Float) : MakesAtMost setup n (running run) := by
  refine still fun w => ?_
  unfold made
  split <;> rfl

theorem onOutside {work : StateM Outside α} (leaves : Leaves insertions work) :
    MakesAtMost setup n (Work.onOutside work) := still fun w => made_outside (leaves w.outside)

theorem tryOutside {work : StateM Outside (Except Fault α)} (leaves : Leaves insertions work) :
    MakesAtMost setup n (Work.tryOutside work) := still fun w => made_outside (leaves w.outside)

theorem finally' {work : Work α} {last : Work Unit} (makes : MakesAtMost setup n work)
    (ending : MakesAtMost setup 0 last) : MakesAtMost setup n (work.finally' last) :=
  fun w => Nat.le_trans (ending (work w).2) (makes w)

theorem mapM {work : α → Work β} (each : ∀ a, MakesAtMost setup 0 (work a)) (items : List α) :
    MakesAtMost setup 0 (items.mapM work) := by
  induction items with
  | nil => exact .pure []
  | cons a rest ih =>
    rw [List.mapM_cons]
    exact (each a).andThen fun b => ih.andThen fun last => .pure (b :: last)

theorem filterM {test : α → Work Bool} (each : ∀ a, MakesAtMost setup 0 (test a)) (items : List α) :
    MakesAtMost setup 0 (items.filterM test) := by
  have kept : ∀ items taken, MakesAtMost setup 0 (List.filterAuxM test items taken) := by
    intro items
    induction items with
    | nil => exact fun taken => .pure taken
    | cons a rest ih => exact fun taken => (each a).andThen fun _ => ih _
  exact (kept items []).andThen fun taken => .pure taken.reverse

end MakesAtMost

/-! The store, of which only one operation makes sessions. -/

theorem command_leaves {c : Documents.Command} (other : isInsertion c = false) : Leaves insertions (command c) := by
  intro o
  simp only [command, insertions, Server.perform]
  split
  · simp [other]
  · split <;> simp [other]

theorem command_inserts (c : Documents.Command) : MakesAtMost setup 1 (Work.tryOutside (command c)) := by
  intro w
  unfold made
  split
  · simp only [Work.tryOutside, command, insertions, Server.perform]
    split
    · simp [List.countP_singleton]; split <;> omega
    · split <;> simp [List.countP_singleton] <;> split <;> omega
  · exact Nat.le_succ _

/-- Calls that go through the database's breaker put no session into it. -/
theorem guarded_makes {c : Except Fault Documents.Command} (other : ∀ named, c = .ok named → isInsertion named = false)
    (read : Documents.Reply → α) (fallback : α) :
    MakesAtMost setup 0 (Work.onOutside (guarded setup c read fallback)) := by
  refine .onOutside (Leaves.bind ?_ fun result => .pure _)
  have attempted : Leaves insertions (attempt c) := by
    cases c with
    | ok named => exact command_leaves (other named rfl)
    | error fault => exact .pure _
  exact callVia_leaves (fun _ _ _ => rfl) attempted

section
variable (stored : setup.hasDatabase = true)
include stored

/-- Where sessions are in the database, a number alone makes none. -/
theorem numbered_makes : MakesAtMost setup 0 Work.freshId := by
  refine .still fun w => ?_
  simp only [made, stored, if_true]
  rfl

theorem ofDocument_makes (document : Fields) : MakesAtMost setup 0 (Sessions.ofDocument setup document) := by
  unfold Sessions.ofDocument
  split
  · exact .pure _
  · have reads : ∀ id, MakesAtMost setup 0 (do
        let s ← Work.check (Session.read id setup.now.toUtc document).toExcept
        return some s) := fun id => (MakesAtMost.check _).andThen fun s => .pure _
    dsimp only
    split
    · exact reads ""
    · exact (numbered_makes stored).andThen reads

theorem findOne_makes (filter : Filter) (order : Option Order) :
    MakesAtMost setup 0 (Sessions.findOne setup filter order) := by
  refine (guarded_makes (fun _ same => by cases same; rfl) _ _).andThen fun documents => ?_
  cases documents with
  | nil => exact .pure none
  | cons document rest => exact ofDocument_makes stored document

end

theorem flow?_makes (id : String) : MakesAtMost setup 0 (Offer.flow? setup id) := by
  unfold Offer.flow?
  split
  · refine (guarded_makes (fun _ same => by cases same; rfl) _ _).andThen fun found => ?_
    split
    · exact .check _
    · exact .pure none
  · exact .look _

theorem agent?_makes (id : String) : MakesAtMost setup 0 (Offer.agent? setup id) := by
  unfold Offer.agent?
  split
  · refine (guarded_makes (fun _ same => by cases same; rfl) _ _).andThen fun found => ?_
    split
    · split
      · exact .pure none
      · exact (MakesAtMost.check _).andThen fun a => .pure _
    · exact .pure none
  · exact .look _

theorem active_makes : MakesAtMost setup 0 (Offer.active setup) := by
  unfold Offer.active
  split
  · refine (guarded_makes (fun _ same => by cases same; rfl) _ _).andThen fun documents => ?_
    exact (MakesAtMost.mapM (fun _ => .check _) documents).andThen fun read => .pure _
  · exact .look _

theorem find_makes (address : String) : MakesAtMost setup 0 (Store.find setup address) := by
  unfold Store.find
  split
  next stored => exact findOne_makes stored _ _
  · exact .look _

theorem findForFlow_makes (key : SessionKey) : MakesAtMost setup 0 (Store.findForFlow setup key) := by
  unfold Store.findForFlow
  split
  next stored => exact findOne_makes stored _ _
  · exact .look _

theorem get_makes (id : String) : MakesAtMost setup 0 (Store.get setup id) := by
  unfold Store.get
  split
  next stored => exact findOne_makes stored _ _
  · exact .look _

theorem has_makes (key : SessionKey) : MakesAtMost setup 0 (Store.has setup key) := by
  unfold Store.has
  split
  · exact (guarded_makes (fun _ same => by cases same; rfl) _ _).andThen fun n => .pure _
  · exact .look _

theorem swap_makes (id : String) (expected : Option String) (c : Change) :
    MakesAtMost setup 0 (Store.swap setup id expected c) := by
  cases stored : setup.hasDatabase with
  | true =>
    simp only [Store.swap, stored, if_true]
    refine (MakesAtMost.check _).andThen fun now => ?_
    exact (guarded_makes (fun _ same => by cases same; rfl) _ _).andThen fun n => .pure _
  | false =>
    have numbered : ∀ w, (Store.interfere setup id w).2.nextSession = w.nextSession := by
      intro w
      rw [interfere_apply]
      cases w.foreign.head?.join with
      | none => rfl
      | some write => cases setup.utcNow <;> rfl
    refine .still fun w => ?_
    simp only [made, stored, Bool.false_eq_true, if_false, ← numbered w]
    rw [swap_apply stored]
    rcases Store.interfere setup id w with ⟨_ | _, met⟩
    · rfl
    · dsimp only
      cases met.table.standsAt? id expected with
      | none => rfl
      | some s => cases setup.utcNow <;> rfl

theorem abandonAll_makes (address : String) : MakesAtMost setup 0 (Store.abandonAll setup address) := by
  cases stored : setup.hasDatabase with
  | true =>
    simp only [Store.abandonAll, stored, if_true]
    refine guarded_makes (fun named same => ?_) _ _
    cases present : setup.utcNow <;> rw [present] at same <;> cases same
    rfl
  | false =>
    refine .still fun w => ?_
    simp only [made, stored, Bool.false_eq_true, if_false]
    rw [abandonAll_apply stored]
    split
    · cases setup.utcNow <;> rfl
    · rfl

theorem reset_makes (address : String) : MakesAtMost setup 0 (Store.reset setup address) := by
  cases stored : setup.hasDatabase with
  | true =>
    simp only [Store.reset, stored, if_true]
    exact guarded_makes (fun _ same => by cases same; rfl) _ _
  | false =>
    refine .still fun w => ?_
    simp only [made, stored, Bool.false_eq_true, if_false]
    rw [reset_apply stored]

theorem create_makes (key : SessionKey) (vars : Fields) (deviceId : Option String) :
    MakesAtMost setup 1 (Store.create setup key vars deviceId) := by
  cases stored : setup.hasDatabase with
  | true =>
    simp only [Store.create, stored, if_true]
    refine (numbered_makes stored).andThen fun id => (MakesAtMost.check _).andThen fun now => ?_
    refine (MakesAtMost.tryOutside (command_leaves rfl)).andThen fun _ => ?_
    exact (command_inserts _).bind fun _ => .pure (n := 0) _
  | false =>
    intro w
    simp only [made, stored, Bool.false_eq_true, if_false]
    rw [create_apply stored]
    cases setup.utcNow <;> exact Nat.le_refl _

/-! What goes out and what workers coordinate by makes no sessions. -/

theorem made_beside {after : World} (beside : Beside w after)
    (same : after.outside.database = w.outside.database) : made setup after = made setup w := by
  unfold made insertions
  rw [same, beside.nextSession]

theorem deliver_makes (o : Outcome) : MakesAtMost setup 0 (deliver setup o) :=
  .still fun w => made_beside (deliver_aside o w) (congrArg Prod.fst (deliver_inward o w))

theorem wasSeen_makes (e : Event) : MakesAtMost setup 0 (wasSeen setup e) :=
  .still fun w => made_beside (wasSeen_aside e w) (wasSeen_view database_apart e w)

theorem withLock_makes {work : Work α} (makes : MakesAtMost setup n work) (address : String) :
    MakesAtMost setup n (withLock setup address work) := by
  intro w
  obtain ⟨unlocked, _, locked⟩ := withLock_apply setup address work w
  have beside : Beside (work (held setup address w)).2 (withLock setup address work w).2 := by
    rw [locked]
    exact ⟨rfl, rfl, rfl, rfl⟩
  have before : made setup (held setup address w) = made setup w :=
    made_beside ⟨rfl, rfl, rfl, rfl⟩ (held_view database_apart address w)
  rw [made_beside beside (withLock_view database_apart address work w), ← before]
  exact makes _

end Chatflow.Proofs.SessionCounts
