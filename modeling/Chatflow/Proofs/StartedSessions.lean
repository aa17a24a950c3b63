import Chatflow.Proofs.CallCourses
import Chatflow.Proofs.StoreInvariants

/-! Sessions that are started. To start flows adds to the stored sessions those that the outcome names, and no others, as
long as no one else writes. -/

namespace Chatflow.Proofs.StartedSessions
open Conversation Interpreter RunEndings SessionTable StoredSessions InProcessStore WorkLogic ReplyRuns CallCourses
  OrderlySessions ConversationOrder StoreInvariants

variable {setup : Setup} {w : World}

/-- No one else is going to write. -/
def Alone (w : World) : Prop := w.foreign = []

/-- Something is true of all stored sessions. -/
def OfAll (holds : Session → Prop) (w : World) : Prop := ∀ s ∈ w.table.sessions, holds s

theorem Alone.settled : Settled Alone := fun beside alone => beside.foreign.trans alone

theorem OfAll.settled {holds : Session → Prop} : Settled (OfAll holds) := by
  intro w after beside all
  rw [OfAll, beside.table]
  exact all

section
variable (inProcess : setup.hasDatabase = false) {holds : Session → Prop}
include inProcess

theorem create_adds (key : SessionKey) (vars : Fields) (deviceId : Option String) :
    Keeps Alone (OfAll holds) (Store.create setup key vars deviceId) fun s w =>
      OfAll (fun other => holds other ∨ other.id = s.id) w := by
  intro w alone all
  rw [create_apply inProcess]
  cases setup.utcNow with
  | error fault => exact ⟨alone, fun _ impossible => by cases impossible⟩
  | ok now =>
    refine ⟨alone, fun s same other member => ?_⟩
    cases same
    exact (mem_put member).symm.imp (all other) fun made => by rw [made]

/-- A session that is changed keeps its id. -/
theorem swap_adds {id : String} (own : ∀ s, s.id = id → holds s) (expected : Option String) (change : Change) :
    Keeps Alone (OfAll holds) (Store.swap setup id expected change) fun _ => OfAll holds := by
  intro w alone all
  rcases swap_left inProcess alone id expected change with left | ⟨s, now, stored, left⟩ <;> rw [left]
  · exact ⟨alone, fun _ _ => all⟩
  · have kept : s.id = id := get?_id stored
    refine ⟨alone, fun _ _ other member => ?_⟩
    rcases mem_put member with rfl | former
    · exact own _ kept
    · exact all other former

theorem firstRun_adds (address : String) (f : Flow) (vars : Fields) (deviceId firstStep : Option String) :
    Keeps Alone (OfAll holds) (firstRun setup address f vars deviceId firstStep) fun first w =>
      OfAll (fun other => holds other ∨ other.id = first.1.id) w := by
  rw [firstRun_eq]
  refine (create_adds inProcess _ _ _).bind fun s => ?_
  have swap := fun expected change => @swap_adds setup inProcess (fun other => holds other ∨ other.id = s.id) s.id
    (fun other same => Or.inr same) expected change
  refine (saveFirstRun_keeps Alone.settled OfAll.settled swap f firstStep).weaken (fun _ _ all => all) ?_
  rintro first w _ ⟨rfl, all⟩
  exact all

/-- The sessions that a flow and those chained to it add to the stored ones are those of the outcome. The induction is on
how many more flows the chain may have. -/
theorem start_adds (address : String) (left : Nat) (f : Flow) (vars : Fields) (deviceId firstStep : Option String) :
    Keeps Alone (OfAll holds) (start setup address left f vars deviceId firstStep) fun o w =>
      OfAll (fun other => holds other ∨ other.id ∈ o.sessionIds) w := by
  have one : ∀ {holds : Session → Prop} {w : World} {id : String}, OfAll (fun other => holds other ∨ other.id = id) w →
      OfAll (fun other => holds other ∨ other.id ∈ [id]) w :=
    fun all other member => (all other member).imp_right List.mem_singleton.mpr
  induction left generalizing f vars deviceId firstStep holds with
  | zero => exact (firstRun_adds inProcess _ _ _ _ _).bind fun first => .pure fun _ _ => one
  | succ left ih =>
    refine (firstRun_adds inProcess _ _ _ _ _).bind fun first => ?_
    refine (chainedFlow?_aside inProcess _).andThen Alone.settled OfAll.settled fun next _ _ => ?_
    cases next with
    | none => exact .pure fun _ _ => one
    | some next =>
      refine (ih next _ none none).bind fun more => .pure fun w _ all other member => ?_
      rcases all other member with (former | made) | chained
      · exact Or.inl former
      · exact Or.inr (List.mem_append_left _ (List.mem_singleton.mpr made))
      · exact Or.inr (List.mem_append_right _ chained)

theorem startAll_adds (e : Event) (triggered : List (Flow × String)) (o : Outcome) :
    Keeps Alone (OfAll fun other => holds other ∨ other.id ∈ o.sessionIds) (startAll setup e triggered o) fun last w =>
      OfAll (fun other => holds other ∨ other.id ∈ last.sessionIds) w := by
  induction triggered generalizing o with
  | nil => exact .pure fun _ _ all => all
  | cons entry rest ih =>
    refine (start_adds inProcess _ _ _ _ _ _).bind fun started => ?_
    refine .requiring (fun w _ all other member => ?_) (ih (o.extend started))
    rcases all other member with (former | before) | now
    · exact Or.inl former
    · exact Or.inr (List.mem_append_left _ before)
    · exact Or.inr (List.mem_append_right _ now)

theorem trigger_adds (e : Event) (flows : List Flow) :
    Keeps Alone (OfAll holds) (trigger setup e flows) fun o w =>
      OfAll (fun other => holds other ∨ other.id ∈ o.sessionIds) w := by
  unfold trigger
  refine (priorFlows_aside inProcess _ _).andThen Alone.settled OfAll.settled fun prior _ _ => ?_
  dsimp only
  split
  · exact .pure fun _ _ all other member => Or.inl (all other member)
  · exact .requiring (fun _ _ all other member => Or.inl (all other member)) (startAll_adds inProcess e _ nothingYet)

end

end Chatflow.Proofs.StartedSessions
