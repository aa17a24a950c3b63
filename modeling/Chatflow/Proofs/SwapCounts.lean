import Chatflow.Proofs.InProcessStore
import Chatflow.Proofs.WorkLogic

/-! The swaps of a piece of work, counted by the turns that other writers had, and the runs that were saved by them.
Nothing is sent before work is over. -/

namespace Chatflow.Proofs.SwapCounts
open Conversation Interpreter SessionTable InProcessStore WorkLogic

variable {setup : Setup}

/-- So many swaps were tried between two worlds, and nothing was sent. -/
structure Swapped (n : Nat) (w after : World) : Prop where
  outside : after.outside = w.outside
  postponed : after.postponed = w.postponed
  catalogue : after.catalogue = w.catalogue
  foreign : after.foreign = w.foreign.drop n

theorem Swapped.refl (w : World) : Swapped 0 w w := ⟨rfl, rfl, rfl, rfl⟩

theorem Swapped.trans {m n : Nat} {w middle after : World} (first : Swapped m w middle) (last : Swapped n middle after) :
    Swapped (m + n) w after :=
  ⟨last.outside.trans first.outside, last.postponed.trans first.postponed, last.catalogue.trans first.catalogue,
    by rw [last.foreign, first.foreign, List.drop_drop]⟩

theorem Swapped.ending {α : Type} {n : Nat} {work : Work α} {w after : World} {result : Except Fault α}
    (swapped : Swapped n w (work w).2) (done : work w = (result, after)) : Swapped n w after := by
  rw [done] at swapped
  exact swapped

theorem interfere_swapped (id : String) (w : World) : Swapped 1 w (Store.interfere setup id w).2 := by
  rw [interfere_apply]
  have tail : w.foreign.tail = w.foreign.drop 1 := List.drop_one.symm
  cases w.foreign.head?.join with
  | none => exact ⟨rfl, rfl, rfl, tail⟩
  | some write =>
    cases setup.utcNow with
    | error fault => exact ⟨rfl, rfl, rfl, tail⟩
    | ok now => exact ⟨rfl, rfl, rfl, tail⟩

section
variable (inProcess : setup.hasDatabase = false)
include inProcess

theorem swap_swapped (id : String) (expected : Option String) (change : Change) (w : World) :
    Swapped 1 w (Store.swap setup id expected change w).2 := by
  have first := @interfere_swapped setup id w
  rw [swap_apply inProcess]
  rcases acted : Store.interfere setup id w with ⟨_ | _, middle⟩ <;> rw [acted] at first <;> dsimp only at first ⊢
  · exact first
  · cases middle.table.standsAt? id expected with
    | none => exact first
    | some s =>
      cases setup.utcNow with
      | error fault => exact first
      | ok now => exact ⟨first.outside, first.postponed, first.catalogue, first.foreign⟩

theorem commit_swapped (s : Session) (r : RunResult) (w : World) : Swapped 1 w (commit setup s r w).2 :=
  swap_swapped inProcess _ _ _ w

theorem create_swapped (key : SessionKey) (vars : Fields) (deviceId : Option String) (w : World) :
    Swapped 0 w (Store.create setup key vars deviceId w).2 := by
  rw [create_apply inProcess]
  cases setup.utcNow with
  | error fault => exact ⟨rfl, rfl, rfl, rfl⟩
  | ok now => exact ⟨rfl, rfl, rfl, rfl⟩

theorem chainedFlow?_unchanged (r : RunResult) (w : World) : (chainedFlow? setup r w).2 = w := by
  unfold chainedFlow?
  cases r.directive with
  | none => rfl
  | some directive =>
    cases directive with
    | startFlow flowId => simp only [flow?_eq inProcess]; rfl
    | scheduleResume dueAt stepId resumeStep => rfl

end

theorem check_swapped {α : Type} (check : Except Fault α) (w : World) : Swapped 0 w (Work.check check w).2 := .refl w

theorem running_swapped {α : Type} (run : List Float → Except Fault α × List Float) (w : World) :
    Swapped 0 w (running run w).2 := ⟨rfl, rfl, rfl, rfl⟩

/-- Work that sends nothing, whatever it comes to. -/
def Unsent {α : Type} (work : Work α) : Prop := ∀ w, ∃ swaps, Swapped swaps w (work w).2

theorem Unsent.bind {α β : Type} {work : Work α} {next : α → Work β} (first : Unsent work)
    (rest : ∀ a, Unsent (next a)) : Unsent (work >>= next) := by
  intro w
  obtain ⟨m, before⟩ := first w
  rw [bind_apply]
  rcases done : work w with ⟨_ | a, middle⟩ <;> rw [done] at before
  · exact ⟨m, before⟩
  · obtain ⟨n, later⟩ := rest a middle
    exact ⟨m + n, before.trans later⟩

theorem Unsent.pure {α : Type} (a : α) : Unsent (Pure.pure a) := fun w => ⟨0, .refl w⟩

theorem Unsent.check {α : Type} (e : Except Fault α) : Unsent (Work.check e) := fun w => ⟨0, .refl w⟩

theorem Unsent.fail {α : Type} (fault : Fault) : Unsent (Work.fail fault : Work α) := fun w => ⟨0, .refl w⟩

/-- The first run of a session that has become what it is in a world by being saved. -/
def Saved (setup : Setup) (r : RunResult) (after : World) : Prop :=
  ∃ s before, commit setup s r before = (.ok true, after)

/-- The runs that a run gives rise to, each in a session of its own, and each saved before the next one starts. -/
inductive Chain (setup : Setup) (address : String) : World → RunResult → List RunResult → World → Prop where
  | stops {w r} : Chain setup address w r [] w
  | goesOn {w r next s first middle more after} (asked : chainedFlow? setup r w = (.ok (some next), w))
      (made : firstRun setup address next (initialVariables address none r.session.vars) none none w =
        (.ok (s, first), middle))
      (saved : Saved setup first middle) (rest : Chain setup address middle first more after) :
      Chain setup address w r (first :: more) after

section
variable (inProcess : setup.hasDatabase = false)
include inProcess

theorem chainedFlow?_unsent (r : RunResult) : Unsent (chainedFlow? setup r) := by
  intro w
  rw [chainedFlow?_unchanged inProcess]
  exact ⟨0, .refl w⟩

theorem firstRun_unsent (address : String) (f : Flow) (vars : Fields) (deviceId firstStep : Option String) :
    Unsent (firstRun setup address f vars deviceId firstStep) := by
  refine .bind (fun w => ⟨0, create_swapped inProcess _ _ _ w⟩) fun s => ?_
  refine (Unsent.check _).bind fun options => (Unsent.check _).bind fun now => ?_
  refine .bind (fun w => ⟨0, running_swapped _ w⟩) fun r => ?_
  refine .bind (fun w => ⟨1, commit_swapped inProcess _ _ w⟩) fun accepted => ?_
  cases accepted with
  | false => exact .fail _
  | true => exact .pure _

theorem start_unsent (address : String) (left : Nat) (f : Flow) (vars : Fields) (deviceId firstStep : Option String) :
    Unsent (start setup address left f vars deviceId firstStep) := by
  induction left generalizing f vars deviceId firstStep with
  | zero => exact (firstRun_unsent inProcess address f vars deviceId firstStep).bind fun _ => .pure _
  | succ left ih =>
    refine (firstRun_unsent inProcess address f vars deviceId firstStep).bind fun made => ?_
    refine (chainedFlow?_unsent inProcess _).bind fun next => ?_
    cases next with
    | none => exact .pure _
    | some next => exact (ih next _ none none).bind fun _ => .pure _

theorem follow_unsent (address : String) (r : RunResult) (o : Outcome) : Unsent (follow setup address r o) := by
  refine (chainedFlow?_unsent inProcess r).bind fun next => ?_
  cases next with
  | none => exact .pure _
  | some next => exact (start_unsent inProcess address _ next _ none none).bind fun _ => .pure _

theorem firstRun_saved {address : String} {f : Flow} {vars : Fields} {deviceId firstStep : Option String}
    {w after : World} {s : Session} {r : RunResult}
    (made : firstRun setup address f vars deviceId firstStep w = (.ok (s, r), after)) :
    Swapped 1 w after ∧ Saved setup r after := by
  unfold firstRun at made
  obtain ⟨created, w₁, creates, made⟩ := bind_ok made
  obtain ⟨options, w₂, checked, made⟩ := bind_ok made
  obtain ⟨now, w₃, timed, made⟩ := bind_ok made
  obtain ⟨result, w₄, ran, made⟩ := bind_ok made
  obtain ⟨accepted, w₅, committed, made⟩ := bind_ok made
  have first := (create_swapped inProcess _ _ _ w).ending creates
  have checks := (check_swapped _ w₁).ending checked |>.trans ((check_swapped _ w₂).ending timed)
  have last := (running_swapped _ w₃).ending ran
  have swapped := (commit_swapped inProcess _ _ w₄).ending committed
  cases accepted with
  | false => cases made
  | true =>
    cases made
    exact ⟨first.trans (checks.trans (last.trans swapped)), _, w₄, committed⟩

theorem Chain.swapped {address : String} {w after : World} {r : RunResult} {more : List RunResult}
    (chain : Chain setup address w r more after) : Swapped more.length w after := by
  induction chain with
  | stops => exact .refl _
  | goesOn _ made _ _ ih =>
    rw [List.length_cons, Nat.add_comm]
    exact (firstRun_saved inProcess made).1.trans ih

/-- What comes of a flow that is started are the actions of its first run and of the runs that this one gives rise
to. -/
theorem start_chain {address : String} {left : Nat} {f : Flow} {vars : Fields} {deviceId firstStep : Option String}
    {w after : World} {o : Outcome} (done : start setup address left f vars deviceId firstStep w = (.ok o, after)) :
    ∃ s r middle more, firstRun setup address f vars deviceId firstStep w = (.ok (s, r), middle) ∧
      Chain setup address middle r more after ∧ o.actions = (r :: more).flatMap RunResult.actions := by
  induction left generalizing f vars deviceId firstStep w o after with
  | zero =>
    unfold start at done
    obtain ⟨⟨s, r⟩, middle, made, done⟩ := bind_ok done
    cases done
    exact ⟨s, r, _, [], made, .stops, by simp⟩
  | succ left ih =>
    unfold start at done
    obtain ⟨⟨s, r⟩, middle, made, done⟩ := bind_ok done
    obtain ⟨next, same, asked, done⟩ := bind_ok done
    have unchanged := chainedFlow?_unchanged inProcess r middle
    rw [asked] at unchanged
    dsimp only at unchanged
    subst unchanged
    cases next with
    | none =>
      cases done
      exact ⟨s, r, _, [], made, .stops, by simp⟩
    | some next =>
      obtain ⟨rest, final, started, done⟩ := bind_ok done
      cases done
      obtain ⟨_, first, later, more, begun, chain, actions⟩ := ih started
      refine ⟨s, r, _, first :: more, made, ?_, ?_⟩
      · exact .goesOn asked begun (firstRun_saved inProcess begun).2 chain
      · simp only [Outcome.extend, actions, List.flatMap_cons]

theorem follow_chain {address : String} {r : RunResult} {w after : World} {o before : Outcome}
    (done : follow setup address r before w = (.ok o, after)) :
    ∃ more, Chain setup address w r more after ∧ o.status = before.status ∧
      o.actions = before.actions ++ more.flatMap RunResult.actions := by
  unfold follow at done
  obtain ⟨next, same, asked, done⟩ := bind_ok done
  have unchanged := chainedFlow?_unchanged inProcess r w
  rw [asked] at unchanged
  dsimp only at unchanged
  subst unchanged
  cases next with
  | none =>
    cases done
    exact ⟨[], .stops, rfl, by simp⟩
  | some next =>
    obtain ⟨rest, final, started, done⟩ := bind_ok done
    cases done
    obtain ⟨_, first, later, more, begun, chain, actions⟩ := start_chain inProcess started
    refine ⟨first :: more, ?_, rfl, ?_⟩
    · exact .goesOn asked begun (firstRun_saved inProcess begun).2 chain
    · simp only [Outcome.extend, actions, List.flatMap_cons]

end

end Chatflow.Proofs.SwapCounts
