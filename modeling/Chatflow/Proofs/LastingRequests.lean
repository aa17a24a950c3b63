import Chatflow.Http.Service
import Chatflow.Proofs.ReachableStates

/-! Invariants that requests to the service keep. A request is answered by calls of the runtime, and handed over to them
are addresses as they were sent; only where a flow is to be started is an address not looked at. -/

namespace Chatflow.Proofs.LastingRequests
open Conversation Http OutsideWork IdleWork LastingInvariants ReachableStates WorkLogic

variable {α : Type} {setup : Setup} {mine : String → Prop} {offered : String → Flow → Prop}
  {stored : Session → World → Prop} {inv : World → Prop} {r : Request}

/-- An invariant that is kept whoever the contact is, as long as sessions are made only for those to whom they may be. -/
structure Abiding (setup : Setup) (mine : String → Prop) (offered : String → Flow → Prop)
    (stored : Session → World → Prop) (inv : World → Prop) : Prop where
  lasting : Lasting setup (fun _ => True) mine offered stored inv
  seen : ∀ e, Preserves inv (wasSeen setup e)
  find : ∀ contact, Finds stored inv (Store.find setup contact)
  findForFlow : ∀ key, Finds stored inv (Store.findForFlow setup key)
  abandonAll : ∀ contact, Preserves inv (Store.abandonAll setup contact)
  reset : ∀ contact, Preserves inv (Store.reset setup contact)
  /-- Whoever can write may have sessions. -/
  addressed : ∀ address, Phone.normalize address ≠ "" → mine (Phone.normalize address)

/-- What is asked of the service. -/
inductive Asking where
  | call (call : Call)
  | request (r : Request) (limit : Float)

def Asking.leave (setup : Setup) : Asking → World → World
  | call c, w => (c.perform setup w).2
  | request r limit, w => (serve setup r limit w).2

/-- The address at which a flow is to be started. -/
inductive StartsAt : Asking → String → Prop where
  | call (flowId address : String) (vars : Fields) : StartsAt (.call (.startFlow flowId address vars)) address
  | request {r body a} (limit : Float) (route : r.route = .endpoint .startFlow) (content : r.content? = .ok body)
      (read : Answer.readBody StartRequest.ofValue body = .ok a) : StartsAt (.request r limit) a.address

namespace Abiding
variable (abiding : Abiding setup mine offered stored inv)
include abiding

theorem handleEvent (raw : Event) : Preserves inv (handleEvent setup raw) :=
  handleEvent_lasts abiding.lasting (abiding.addressed _) (abiding.seen _)
    ⟨abiding.find _, abiding.abandonAll _, fun _ => abiding.reset _⟩

theorem call {call : Call} (starts : ∀ address, StartsAt (.call call) address → mine (Phone.normalize address)) :
    Preserves inv (call.perform setup) := by
  cases call with
  | event e => exact abiding.handleEvent e
  | startFlow flowId address vars => exact abiding.lasting.startFlow (starts _ (.call flowId address vars)) flowId vars
  | continueFlow address flowId text replyId =>
    exact continueFlow_lasts abiding.lasting (abiding.findForFlow _) text replyId
  | resume id now =>
    cases now with
    | some now => exact abiding.lasting.resumeAsOf trivial now
    | none => exact abiding.lasting.resume trivial
  | reset address => exact reset_lasts abiding.lasting (abiding.reset _)

theorem resumeEach (now : Instant) (sessions : List Session) (counts : List (String × Nat)) :
    Preserves inv (resumeEach setup now sessions counts) := by
  induction sessions generalizing counts with
  | nil => exact .done
  | cons s rest ih => exact (abiding.lasting.resumeAsOf trivial now).attempt.bind fun result => (ih _).preserves

theorem resumeDue : Preserves inv (resumeDue setup) := by
  apply abiding.lasting.idly still_true (.check _)
  intro now _ _
  apply abiding.lasting.idly still_true (due_idle now _)
  intro ripe _ _
  exact abiding.resumeEach now ripe []

theorem proceed {isRight : Except Fault Bool} {reason : String} {next : Work Answer} (keeps : Preserves inv next) :
    Preserves inv (Answer.proceed isRight reason next) := by
  apply abiding.lasting.idly still_true (.check _)
  intro right _ _
  split
  · exact keeps
  · exact .done

theorem report {reader : Schema.Reader α} {act : α → Work Outcome}
    (acts : ∀ body a, r.content? = .ok body → Answer.readBody reader body = .ok a → Preserves inv (act a)) :
    Preserves inv (Answer.report setup r reader act) := by
  unfold Answer.report
  split
  · exact .done
  · exact .done
  next body content =>
    apply abiding.proceed
    split
    next a read => exact (acts body a content read).bind fun _ => .done
    next =>
      unfold Answer.refuse
      split
      · exact .done
      · exact .fail
    · exact .fail

theorem readiness : Preserves inv (Answer.readiness setup) := by
  have healthy : Idle setup (Work.onOutside Documents.isHealthy) :=
    .onOutside ((query_leaves rfl).bind fun _ => .pure _)
  have counted : Idle setup (do return (← Offer.active setup).length) := active_idle.bind fun _ => .pure _
  have checked : ∀ {rest : Work Nat}, Idle setup rest → Idle setup (do
      if setup.settings.sessionBackend = "mongo" then
        if !(← Work.onOutside Documents.isHealthy) then
          Work.fail (.outside "RuntimeError" "database unreachable")
      rest) := by
    intro rest reached
    dsimp only
    split
    · apply healthy.bind
      intro up
      split
      · exact (Idle.fail _).bind fun _ => reached
      · exact reached
    · exact reached
  have probed : Idle setup (Answer.probe setup) := by
    unfold Answer.probe
    cases linked : setup.link with
    | none => exact checked counted
    | some link =>
      rw [link_connected linked]
      exact checked ((Idle.tryOutside (spares_leaves fun _ => .ping)).bind fun _ => counted)
  apply (abiding.lasting.idle probed).attempt.bind
  intro result
  exact (Keeps.done : Preserves inv _).preserves

theorem deliver : Preserves inv (Answer.deliver setup r) := by
  have hit : ∀ subject quota, Idle setup (Work.onOutside (RateLimit.hit setup.link subject quota)) :=
    fun subject quota => .onOutside (hit_leaves subject quota)
  apply abiding.proceed
  split
  next delivery _ =>
    apply abiding.lasting.idle
    apply (hit _ _).bind
    intro allowed
    split
    · apply (Idle.check _).bind
      intro events
      exact (Idle.filterM (fun _ => hit _ _) events).bind fun _ => .pure _
    · exact .pure _
  · exact .done
  · exact .fail

theorem integrate (flowId : String) : Preserves inv (Answer.integrate flowId r) := by
  unfold Answer.integrate
  split
  · exact .done
  · exact .done
  · exact .fail
  · split
    · exact .done
    · exact abiding.lasting.idly still_true (.check _) fun _ _ _ => .done
  · exact .done

/-- The endpoints by which flows are started are the only ones that have to be told for whom. -/
theorem ofEndpoint {limit : Float} {e : Endpoint} (route : r.route = .endpoint e)
    (starts : ∀ address, StartsAt (.request r limit) address → mine (Phone.normalize address)) :
    Preserves inv (Answer.ofEndpoint setup r e) := by
  cases e with
  | banner | confirmWebhook | description => exact .done
  | health => exact (abiding.lasting.idly still_true (.check _) fun _ _ _ => .done).bind fun _ => .done
  | readiness => exact abiding.readiness.bind fun _ => .done
  | metrics => exact abiding.proceed .done
  | deliver => exact abiding.deliver
  | integrate flowId => exact abiding.integrate flowId
  | startFlow =>
    apply abiding.report
    intro body a content read
    exact abiding.lasting.startFlow (starts _ (.request limit route content read)) a.flowId a.vars
  | continueSession =>
    exact abiding.report fun _ a _ _ => continueFlow_lasts abiding.lasting (abiding.findForFlow _) a.text a.replyId
  | resumeSession => exact abiding.report fun _ a _ _ => abiding.lasting.resume trivial
  | resetSessions address =>
    have cleared : Preserves inv (Answer.resetSessions setup address) := by
      unfold Answer.resetSessions
      split
      · exact .done
      · exact (reset_lasts abiding.lasting (abiding.reset _)).bind fun _ => .done
    exact abiding.proceed (cleared.bind fun _ => .done)
  | reportTag => exact abiding.report fun _ a _ _ => abiding.handleEvent (Answer.tagEvent a)

theorem handleAll (events : List Event) : Preserves inv (handleAll setup events) := by
  induction events with
  | nil => exact .done
  | cons e rest ih => exact (abiding.handleEvent e).attempt.bind fun _ => ih.preserves

theorem serve {limit : Float}
    (starts : ∀ address, StartsAt (.request r limit) address → mine (Phone.normalize address)) :
    Preserves inv (serve setup r limit) := by
  have answered : Preserves inv (Answer.ofRequest setup r) := by
    unfold Answer.ofRequest
    cases route : r.route with
    | endpoint e => exact abiding.ofEndpoint route starts
    | wrongMethod | redirect | unknown => exact .done
  have responded : Preserves inv (respond setup r) := by
    apply answered.attempt.bind
    intro result
    cases result with
    | ok answer => exact ((abiding.handleAll answer.events).bind fun _ => .done).preserves
    | error fault => exact (Keeps.done : Preserves inv _).preserves
  unfold Http.serve
  split
  · exact .done
  · split
    · exact .done
    · exact responded.bind fun _ => .done

/-- Whatever is asked of the service, the invariant is kept. -/
theorem asking {a : Asking} (starts : ∀ address, StartsAt a address → mine (Phone.normalize address)) {w : World}
    (holds : inv w) : inv (a.leave setup w) := by
  cases a with
  | call c => exact (abiding.call starts w holds trivial).1
  | request r limit => exact (abiding.serve starts w holds trivial).1

end Abiding

end Chatflow.Proofs.LastingRequests
