import Chatflow.Proofs.ReachableStates

/-! Invariants of the store. A call of the runtime changes the stored sessions by operations of the store only, so that
what each of these keeps is kept by the call, however it ends. -/

namespace Chatflow.Proofs.StoreInvariants
open Conversation Interpreter StepEffects RunEndings AgentTurns SessionTable StoredSessions InProcessStore
  OrderlySessions ReplyRuns ConversationOrder ReachableStates LastingInvariants WorkLogic

variable {setup : Setup} {inHand : String → Prop} {inv : World → Prop} {s : Session}

/-- An invariant that is kept where flows are started and taken on. Sessions that are made are in hand, and it is kept
by changes of sessions that are. -/
structure Upheld (setup : Setup) (inHand : String → Prop) (inv : World → Prop) : Prop where
  settled : Settled inv
  create : ∀ key vars deviceId,
    Keeps inv (fun _ => True) (Store.create setup key vars deviceId) fun s _ => inHand s.id
  swap : ∀ id, inHand id → ∀ expected change, Preserves inv (Store.swap setup id expected change)

theorem Upheld.and {other : World → Prop} (upheld : Upheld setup inHand inv) (beside : Upheld setup (fun _ => True) other) :
    Upheld setup inHand fun w => inv w ∧ other w where
  settled same holds := ⟨upheld.settled same holds.1, beside.settled same holds.2⟩
  create key vars deviceId w holds _ :=
    have made := upheld.create key vars deviceId w holds.1 trivial
    ⟨⟨made.1, (beside.create key vars deviceId w holds.2 trivial).1⟩, made.2⟩
  swap id held expected change w holds _ :=
    ⟨⟨(upheld.swap id held expected change w holds.1 trivial).1,
      (beside.swap id trivial expected change w holds.2 trivial).1⟩, fun _ _ => trivial⟩

theorem Upheld.aside {α β : Type} (upheld : Upheld setup inHand inv) {work : Work α} {next : α → Work β}
    (aside : Aside work) (rest : ∀ a before, (work before).1 = .ok a → Preserves inv (next a)) :
    Preserves inv (work >>= next) :=
  aside.andThen upheld.settled settled_true rest

/-- What a first run does once its session is made: the flow is run and saved. -/
def saveFirstRun (setup : Setup) (f : Flow) (firstStep : Option String) (s : Session) : Work (Session × RunResult) := do
  let options ← Work.check (runOptions setup)
  let from? := (filled? firstStep).orElse fun _ => f.startStep?.map Step.id
  let now ← Work.check setup.utcNow
  let r ← running fun rolls => Interpreter.run f options now s rolls from?
  if ← Conversation.commit setup s r then return (s, r)
  Work.fail (.startConflict s.id)

theorem firstRun_eq (setup : Setup) (address : String) (f : Flow) (vars : Fields) (deviceId firstStep : Option String) :
    firstRun setup address f vars deviceId firstStep =
      Store.create setup ⟨address, f.id⟩ vars deviceId >>= saveFirstRun setup f firstStep := rfl

/-- Once its session is made, a first run only changes it. -/
theorem saveFirstRun_keeps {pre post : World → Prop} (settled : Settled inv) (still : Settled pre)
    (swap : ∀ expected change, Keeps inv pre (Store.swap setup s.id expected change) fun _ => post) (f : Flow)
    (firstStep : Option String) : Keeps inv pre (saveFirstRun setup f firstStep s) fun first w => first.1 = s ∧ post w := by
  refine (Aside.check _).andThen settled still fun options _ _ => ?_
  refine (Aside.check _).andThen settled still fun now _ _ => ?_
  refine (running_aside _).andThen settled still fun r before ran => ?_
  obtain ⟨rolls, rest, ran⟩ := running_ok ran
  unfold Conversation.commit
  rw [(run_sameConversation ran).id]
  refine (swap _ _).bind fun accepted => ?_
  cases accepted with
  | false => exact .fail
  | true => exact .pure fun _ _ holds => ⟨rfl, holds⟩

theorem Upheld.saveFirstRun (upheld : Upheld setup inHand inv) (held : inHand s.id) (f : Flow) (firstStep : Option String) :
    Preserves inv (saveFirstRun setup f firstStep s) :=
  (saveFirstRun_keeps upheld.settled settled_true (upheld.swap s.id held) f firstStep).weaken (fun _ _ _ => trivial)
    fun _ _ _ _ => trivial

section
variable (inProcess : setup.hasDatabase = false)
include inProcess

theorem flow?_aside (id : String) : Aside (Offer.flow? setup id) := by
  rw [flow?_eq inProcess]
  exact .look _

theorem chainedFlow?_aside (r : RunResult) : Aside (chainedFlow? setup r) := by
  unfold chainedFlow?
  split
  · exact (flow?_aside inProcess _).bind fun _ => .pure _
  · exact .pure _

/-- The flows on offer stay what they are. -/
theorem offered_upheld {c : Catalogue} : Upheld setup (fun _ => True) fun w => w.catalogue = c where
  settled beside offered := beside.catalogue.trans offered
  create key vars deviceId w offered _ := by
    rw [create_apply inProcess]
    cases setup.utcNow <;> exact ⟨offered, fun _ _ => trivial⟩
  swap id _ expected change w offered _ := by
    refine ⟨?_, fun _ _ => trivial⟩
    have kept : (Store.interfere setup id w).2.catalogue = c := by
      rw [interfere_apply]
      cases w.foreign.head?.join with
      | none => exact offered
      | some write => cases setup.utcNow <;> exact offered
    rw [swap_apply inProcess]
    rcases interfered : Store.interfere setup id w with ⟨_ | _, met⟩ <;> rw [interfered] at kept
    · exact kept
    · dsimp only
      cases met.table.standsAt? id expected with
      | none => exact kept
      | some s => cases setup.utcNow <;> exact kept

/-- What is upheld lasts in the process, where the session of an id has it. -/
theorem Upheld.lasting (upheld : Upheld setup inHand inv) :
    Lasting setup inHand (fun _ => True) (fun _ _ => True) (Named inHand fun _ => True) inv :=
  Tolerant.lasting {
    unmoved := fun same => upheld.settled (same.beside inProcess)
    create := fun key vars deviceId _ => upheld.create key vars deviceId
    swap := fun id held expected change _ => upheld.swap id held expected change
    get := fun id held => by
      rw [get_eq inProcess]
      refine .look fun w _ _ s found => ⟨?_, trivial⟩
      rwa [get?_id found] }

theorem Upheld.start (upheld : Upheld setup inHand inv) (address : String) (left : Nat) (f : Flow) (vars : Fields)
    (deviceId firstStep : Option String) : Preserves inv (start setup address left f vars deviceId firstStep) :=
  (upheld.lasting inProcess).start trivial trivial left vars deviceId firstStep

theorem Upheld.follow (upheld : Upheld setup inHand inv) (address : String) (r : RunResult) (o : Outcome) :
    Preserves inv (follow setup address r o) :=
  (upheld.lasting inProcess).follow trivial r o

theorem Upheld.startAll (upheld : Upheld setup inHand inv) (e : Event) (triggered : List (Flow × String))
    (o : Outcome) : Preserves inv (startAll setup e triggered o) :=
  (upheld.lasting inProcess).startAll trivial (fun _ _ => trivial) o

theorem Upheld.trigger (upheld : Upheld setup inHand inv) (e : Event) (flows : List Flow) :
    Preserves inv (trigger setup e flows) :=
  (upheld.lasting inProcess).trigger trivial fun _ _ => trivial

theorem Upheld.resumeAsOf (upheld : Upheld setup inHand inv) {id : String} (held : inHand id) (now : Instant) :
    Preserves inv (resumeAsOf setup now id) :=
  (upheld.lasting inProcess).resumeAsOf held now

end

/-- A call that makes the runtime forget a contact. -/
def Resets (contact : String) : Call → Prop
  | .event e => (e.kind = .message ∧ isReset e.text = true) ∧ Phone.normalize e.address = contact
  | .reset address => Phone.normalize address = contact
  | _ => False

/-- What the operations of the store keep, calls keep. -/
theorem call_upheld (inProcess : setup.hasDatabase = false) (upheld : Upheld setup (fun _ => True) inv)
    (abandon : ∀ address, Preserves inv (Store.abandonAll setup address)) (call : Call)
    (reset : ∀ contact, Resets contact call → Preserves inv (Store.reset setup contact)) :
    Preserves inv (call.perform setup) := by
  have lasting := upheld.lasting inProcess
  have known : ∀ found : Option Session, ∀ s, found = some s → (fun _ : String => True) s.id ∧ True :=
    fun _ _ _ => ⟨trivial, trivial⟩
  cases call with
  | event e =>
    apply handleEvent_lasts lasting (fun _ => trivial) ((wasSeen_aside _).preserves upheld.settled)
    refine ⟨?_, abandon _, fun resets => reset _ ⟨resets, rfl⟩⟩
    rw [find_eq inProcess]
    exact .look fun _ _ _ => known _
  | startFlow flowId address vars => exact lasting.startFlow trivial flowId vars
  | continueFlow address flowId text replyId =>
    apply continueFlow_lasts lasting
    rw [findForFlow_eq inProcess]
    exact .look fun _ _ _ => known _
  | resume id now =>
    cases now with
    | some now => exact lasting.resumeAsOf trivial now
    | none => exact lasting.resume trivial
  | reset address => exact reset_lasts lasting (reset _ rfl)

end Chatflow.Proofs.StoreInvariants
