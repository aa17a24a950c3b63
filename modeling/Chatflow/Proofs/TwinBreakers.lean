import Chatflow.Proofs.BreakerTraffic
import Chatflow.Proofs.CircuitTables

/-! A circuit that is kept in memory, and one that is kept in the shared cache. The one is reset with every change of its
state, and the other drags along what it counted before; as long as the cache keeps it, that does not show. -/

namespace Chatflow.Proofs.TwinBreakers
open Cache Cache.Server SharedBreaker CircuitTables BreakerTraffic

variable {τ : Type} {b : Breaker τ} {c : Circuit} {cells : List (String × Cell)}

/-- What shows of a circuit. -/
inductive Standing (τ : Type) where
  | closed
  | opened (since : τ)
  | halfOpen (successes : Int)

/-- A call at a breaker: when it comes in, and if it is let in, when it is over and how it ends. -/
structure Visit (τ : Type) where
  start : τ
  finish : τ
  success : Bool

def standing? (b : Breaker τ) : Option (Standing τ) :=
  match b.state with
  | .closed => some .closed
  | .opened => b.openedAt.map .opened
  | .halfOpen => some (.halfOpen b.probes)

theorem standing?_closed : standing? b = some .closed ↔ b.state = .closed := by
  unfold standing?
  cases b.state <;> simp

theorem standing?_halfOpen {successes : Int} :
    standing? b = some (.halfOpen successes) ↔ b.state = .halfOpen ∧ b.probes = successes := by
  unfold standing?
  cases b.state <;> simp

/-- What is kept of a circuit, if it can be read. -/
def table? (c : Circuit) (slots : List (Slot τ)) : Option (List (String × Cell)) := (cells? slots c.key).toOption

theorem table?_eq_some {slots : List (Slot τ)} : table? c slots = some cells ↔ cells? slots c.key = .ok cells := by
  unfold table?
  cases cells? slots c.key <;> simp [Except.toOption]

section
variable [Clock τ] {now : τ} {s : Server τ} {v : Visit τ} {visits : List (Visit τ)}

/-- What a table says of its circuit. -/
def standingIn? (cells : List (String × Cell)) : Option (Standing τ) :=
  if saysState cells .opened then (openedAt? cells).map .opened
  else if saysState cells .halfOpen then (countIn cells "successes").toOption.map .halfOpen
  else some .closed

def sharedStanding? (c : Circuit) (s : Server τ) : Option (Standing τ) := (table? c s.slots).bind standingIn?

/-- A call through the breaker in memory, and whether it is let in. -/
def visit (v : Visit τ) (b : Breaker τ) : Bool × Breaker τ :=
  match b.letThrough v.start with
  | none => (false, b)
  | some b => (true, b.finish v.finish v.success)

/-- A call through the breaker in the cache, and whether it is let in. -/
def sharedVisit (c : Circuit) (v : Visit τ) : StateM (Server τ) Bool := do
  if ← isOpen (Server.perform v.start) c v.start then return false
  note (Server.perform v.finish) c v.finish v.success
  return true

/-- A call that takes no time is a visit. -/
theorem visit_call {α : Type} (service : String) (now : τ) (outcome : Except Fault α) (b : Breaker τ) :
    Breaker.call Part.whole service now (pure outcome) b =
      (if (visit ⟨now, now, outcome.isOk⟩ b).1 then outcome else .error (.circuitOpen service),
        (visit ⟨now, now, outcome.isOk⟩ b).2) := by
  have read : Part.whole.read b = b := rfl
  cases admitted : b.letThrough now <;>
    simp only [Breaker.call, visit, bind, StateT.bind, get, getThe, MonadStateOf.get, StateT.get, pure, read, admitted] <;> rfl

theorem sharedVisit_call {α : Type} (now : τ) (outcome : Except Fault α) (s : Server τ) :
    SharedBreaker.call (Server.perform now) c now (pure outcome) s =
      (if (sharedVisit c ⟨now, now, outcome.isOk⟩ s).1 then outcome else .error (.circuitOpen c.service),
        (sharedVisit c ⟨now, now, outcome.isOk⟩ s).2) := by
  simp only [SharedBreaker.call, sharedVisit, bind, StateT.bind]
  rcases isOpen (Server.perform now) c now s with ⟨refused, after⟩
  cases refused <;> rfl

/-- Whether each call is let in, and the circuit after it. -/
def trace (b : Breaker τ) : List (Visit τ) → List (Bool × Option (Standing τ))
  | [] => []
  | v :: rest => ((visit v b).1, standing? (visit v b).2) :: trace (visit v b).2 rest

def sharedTrace (c : Circuit) (s : Server τ) : List (Visit τ) → List (Bool × Option (Standing τ))
  | [] => []
  | v :: rest =>
    ((sharedVisit c v s).1, sharedStanding? c (sharedVisit c v s).2) :: sharedTrace c (sharedVisit c v s).2 rest

/-- Nothing has run out by now of what is kept of a circuit. -/
def Kept (c : Circuit) (now : τ) (s : Server τ) : Prop := table? c (prune s.slots now) = table? c s.slots

/-- Nothing runs out of what is kept of a circuit, between calls and while a call takes its time. -/
def KeptThroughout (c : Circuit) (s : Server τ) : List (Visit τ) → Prop
  | [] => True
  | v :: rest => Kept c v.start s ∧
    (v.finish ≠ v.start → Kept c v.finish (isOpen (Server.perform v.start) c v.start s).2) ∧
    KeptThroughout c (sharedVisit c v s).2 rest

/-- A breaker and a table with the same limits that tell the same of a circuit, and count the same failures. -/
structure Agrees (c : Circuit) (b : Breaker τ) (cells : List (String × Cell)) : Prop where
  limits : b.limits = c.limits
  failures : countIn cells "failures" = .ok b.failures
  standing : ∃ standing, standing? b = some standing ∧ standingIn? cells = some standing

theorem saysState_iff {state : CircuitState} : saysState cells state = true ↔ cellText? cells "state" = some state.name :=
  beq_iff_eq

theorem saysState_unique (stated : saysState cells .halfOpen = true) : saysState cells .opened = false := by
  rw [saysState_iff] at stated
  rw [saysState, stated]
  rfl

theorem standingIn?_closed : (standingIn? cells : Option (Standing τ)) = some .closed ↔
    saysState cells .opened = false ∧ saysState cells .halfOpen = false := by
  unfold standingIn?
  cases saysState cells .opened <;> cases saysState cells .halfOpen <;> simp

theorem standingIn?_opened {since : τ} : standingIn? cells = some (.opened since) ↔
    saysState cells .opened = true ∧ openedAt? cells = some since := by
  unfold standingIn?
  cases saysState cells .opened <;> cases saysState cells .halfOpen <;> simp

theorem standingIn?_halfOpen {successes : Int} : (standingIn? cells : Option (Standing τ)) = some (.halfOpen successes) ↔
    saysState cells .halfOpen = true ∧ countIn cells "successes" = .ok successes := by
  unfold standingIn?
  cases halfOpen : saysState cells .halfOpen
  · cases saysState cells .opened <;> simp
  · rw [saysState_unique halfOpen]
    cases countIn cells "successes" <;> simp [Except.toOption]

theorem standingIn?_probedTable (cells : List (String × Cell)) :
    (standingIn? (probedTable cells) : Option (Standing τ)) = some (.halfOpen 0) :=
  standingIn?_halfOpen.mpr
    ⟨(saysState_setCell (by decide) _ _).trans (saysState_setCell_self cells .halfOpen .halfOpen), countIn_setCell_self _ _ 0⟩

/-- A time that is read as it was written is the one since when the circuit is open. -/
theorem standingIn?_openedTable (legible : Clock.read? (Clock.write now) = some now) (cells : List (String × Cell)) :
    standingIn? (openedTable now cells) = some (.opened now) := by
  refine standingIn?_opened.mpr
    ⟨(saysState_setCell (by decide) _ _).trans (saysState_setCell_self cells .opened .opened), ?_⟩
  simp only [openedTable, openedAt?, cellText?_setCell, if_true]
  exact legible

theorem failures_probedTable (cells : List (String × Cell)) : countIn (probedTable cells) "failures" = countIn cells "failures" := by
  rw [probedTable, countIn_setCell _ (by decide), countIn_setCell _ (by decide)]

theorem failures_openedTable (cells : List (String × Cell)) :
    countIn (openedTable now cells) "failures" = countIn cells "failures" := by
  rw [openedTable, countIn_setCell _ (by decide), countIn_setCell _ (by decide)]

theorem Agrees.closed (agrees : Agrees c b cells) (closed : b.state = .closed) :
    saysState cells .opened = false ∧ saysState cells .halfOpen = false := by
  obtain ⟨standing, own, shared⟩ := agrees.standing
  cases (standing?_closed.mpr closed).symm.trans own
  exact standingIn?_closed.mp shared

theorem Agrees.halfOpen (agrees : Agrees c b cells) (probed : b.state = .halfOpen) :
    saysState cells .halfOpen = true ∧ countIn cells "successes" = .ok b.probes := by
  obtain ⟨standing, own, shared⟩ := agrees.standing
  cases (standing?_halfOpen.mpr ⟨probed, rfl⟩).symm.trans own
  exact standingIn?_halfOpen.mp shared

theorem Agrees.opened (agrees : Agrees c b cells) (isOpen : b.state = .opened) :
    ∃ since, b.openedAt = some since ∧ saysState cells .opened = true ∧ openedAt? cells = some since := by
  obtain ⟨standing, own, shared⟩ := agrees.standing
  unfold standing? at own
  rw [isOpen] at own
  obtain ⟨since, openedAt, rfl⟩ := Option.map_eq_some_iff.mp own
  exact ⟨since, openedAt, standingIn?_opened.mp shared⟩

/-- Both let a call in, or both refuse it and stay as they are. -/
theorem Agrees.asked (agrees : Agrees c b cells) (now : τ) :
    match b.letThrough now with
    | none => asked c now cells = (true, cells)
    | some after => (asked c now cells).1 = false ∧ Agrees c after (asked c now cells).2 ∧ after.state ≠ .opened := by
  unfold Breaker.letThrough CircuitTables.asked
  cases state : b.state with
  | closed =>
    simp only [(agrees.closed state).1]
    exact ⟨trivial, agrees, by rw [state]; decide⟩
  | halfOpen =>
    simp only [saysState_unique (agrees.halfOpen state).1]
    exact ⟨trivial, agrees, by rw [state]; decide⟩
  | opened =>
    obtain ⟨since, openedAt, stated, told⟩ := agrees.opened state
    simp only [stated, told, Breaker.mayProbe, openedAt, agrees.limits, ne_eq, not_true_eq_false, if_false]
    cases Clock.passed since now c.limits.seconds with
    | false => rfl
    | true =>
      simp only [if_true]
      have probed : (b.enter .halfOpen now).state = .halfOpen := enter_state b .halfOpen now
      have entered : b.enter .halfOpen now = { b with state := .halfOpen, probes := 0 } := by simp [Breaker.enter, state]
      refine ⟨trivial, ⟨?_, ?_, .halfOpen 0, ?_, standingIn?_probedTable cells⟩, by rw [probed]; decide⟩
      · rw [entered]
        exact agrees.limits
      · rw [failures_probedTable, entered]
        exact agrees.failures
      · rw [entered]
        rfl

/-- Both count a success. -/
theorem Agrees.succeeded (agrees : Agrees c b cells) (admitted : b.state ≠ .opened) (now : τ) :
    Agrees c (b.succeeded now) (succeeded c b.probes cells) := by
  unfold CircuitTables.succeeded
  cases state : b.state with
  | opened => exact absurd state admitted
  | closed =>
    obtain ⟨notOpened, notProbed⟩ := agrees.closed state
    rw [succeeded_closed state, notProbed, if_neg Bool.false_ne_true]
    refine ⟨agrees.limits, countIn_filter_self cells "failures", .closed, standing?_closed.mpr state,
      standingIn?_closed.mpr ⟨?_, ?_⟩⟩
    · rw [saysState_filter (by decide), notOpened]
    · rw [saysState_filter (by decide), notProbed]
  | halfOpen =>
    obtain ⟨probed, counted⟩ := agrees.halfOpen state
    rw [succeeded_halfOpen state, probed, if_pos rfl, ← agrees.limits]
    split
    · exact ⟨agrees.limits, rfl, .closed, rfl, rfl⟩
    · refine ⟨agrees.limits, ?_, .halfOpen (b.probes + 1), standing?_halfOpen.mpr ⟨state, rfl⟩,
        standingIn?_halfOpen.mpr ⟨?_, countIn_setCell_self cells "successes" _⟩⟩
      · rw [countIn_setCell _ (by decide)]
        exact agrees.failures
      · rw [saysState_setCell (by decide), probed]

/-- Both count a failure. -/
theorem Agrees.failed (agrees : Agrees c b cells) (admitted : b.state ≠ .opened)
    (legible : Clock.read? (Clock.write now) = some now) : Agrees c (b.failed now) (failed c now b.failures cells) := by
  have opens (limits : b.limits = c.limits) : Agrees c
      { b with failures := b.failures + 1, state := .opened, probes := 0, openedAt := some now }
      (openedTable now (setCell cells "failures" (.count (b.failures + 1)))) :=
    ⟨limits, by rw [failures_openedTable, countIn_setCell_self], .opened now, rfl, standingIn?_openedTable legible _⟩
  unfold CircuitTables.failed
  cases state : b.state with
  | opened => exact absurd state admitted
  | closed =>
    obtain ⟨notOpened, notProbed⟩ := agrees.closed state
    rw [failed_closed state, notProbed, Bool.false_or, ← agrees.limits]
    split
    · exact opens agrees.limits
    · refine ⟨agrees.limits, countIn_setCell_self cells "failures" _, .closed, standing?_closed.mpr state,
        standingIn?_closed.mpr ⟨?_, ?_⟩⟩
      · rw [saysState_setCell (by decide), notOpened]
      · rw [saysState_setCell (by decide), notProbed]
  | halfOpen =>
    rw [failed_halfOpen state, (agrees.halfOpen state).1, Bool.true_or, if_pos rfl]
    exact opens agrees.limits

/-- A breaker and the cache, when they agree about a circuit. -/
structure Twins (c : Circuit) (b : Breaker τ) (s : Server τ) : Prop where
  up : s.isDown = false
  agrees : ∃ cells, table? c s.slots = some cells ∧ Agrees c b cells

/-- Both note how a call ends. -/
theorem Twins.ended (up : s.isDown = false) (stored : cells? (prune s.slots now) c.key = .ok cells)
    (agrees : Agrees c b cells) (admitted : b.state ≠ .opened)
    (lasts : Clock.reached (Clock.after now c.lifetime) now = false) (legible : Clock.read? (Clock.write now) = some now)
    (success : Bool) : Twins c (b.finish now success) (note (Server.perform now) c now success s).2 := by
  cases success with
  | true =>
    have counted : saysState cells .halfOpen = true → countIn cells "successes" = .ok b.probes := by
      intro probed
      cases state : b.state with
      | opened => exact absurd state admitted
      | closed =>
        rw [(agrees.closed state).2] at probed
        cases probed
      | halfOpen => exact (agrees.halfOpen state).2
    obtain ⟨s', done, current⟩ := note_succeeded up stored counted
    rw [done]
    exact ⟨current.up, _, table?_eq_some.mpr current.stored, agrees.succeeded admitted now⟩
  | false =>
    obtain ⟨s', done, current⟩ := note_failed lasts up stored agrees.failures
    rw [done]
    exact ⟨current.up, _, table?_eq_some.mpr current.stored, agrees.failed admitted legible⟩

/-- A time that the table of a circuit outlasts, and that can be written down. -/
structure Tells (c : Circuit) (time : τ) : Prop where
  lasts : Clock.reached (Clock.after time c.lifetime) time = false
  legible : Clock.read? (Clock.write time) = some time

theorem Twins.visited (twins : Twins c b s) (starts : Tells c v.start) (ends : Tells c v.finish) (kept : Kept c v.start s)
    (meanwhile : v.finish ≠ v.start → Kept c v.finish (isOpen (Server.perform v.start) c v.start s).2) :
    (sharedVisit c v s).1 = (visit v b).1 ∧ Twins c (visit v b).2 (sharedVisit c v s).2 := by
  obtain ⟨up, cells, stored, agrees⟩ := twins
  obtain ⟨s', asks, current⟩ := isOpen_current starts.lasts up (table?_eq_some.mp (kept.trans stored))
  have both := agrees.asked v.start
  have visits : sharedVisit c v s = if (asked c v.start cells).1 then (false, s') else
      (true, (note (Server.perform v.finish) c v.finish v.success s').2) := by
    simp only [sharedVisit, bind, StateT.bind, asks]
    cases (CircuitTables.asked c v.start cells).1 <;> rfl
  rw [visits]
  unfold visit
  cases admitted : b.letThrough v.start with
  | none =>
    rw [admitted] at both
    dsimp only at both
    rw [both] at current ⊢
    exact ⟨rfl, current.up, cells, table?_eq_some.mpr current.stored, agrees⟩
  | some after =>
    rw [admitted] at both
    obtain ⟨letIn, agrees, admitted⟩ := both
    rw [letIn, if_neg Bool.false_ne_true]
    have still : cells? (prune s'.slots v.finish) c.key = .ok (asked c v.start cells).2 := by
      by_cases atOnce : v.finish = v.start
      · rw [atOnce, current.swept, current.stored]
      · rw [asks] at meanwhile
        exact table?_eq_some.mp ((meanwhile atOnce).trans (table?_eq_some.mpr current.stored))
    exact ⟨rfl, .ended current.up still agrees admitted ends.lasts ends.legible v.success⟩

theorem Twins.standing (twins : Twins c b s) : ∃ standing, standing? b = some standing ∧ sharedStanding? c s = some standing := by
  obtain ⟨_, cells, stored, agrees⟩ := twins
  obtain ⟨standing, own, shared⟩ := agrees.standing
  exact ⟨standing, own, by rw [sharedStanding?, stored]; exact shared⟩

/-- Breakers that agree do so after each call. -/
theorem Twins.traces (twins : Twins c b s) (told : ∀ v ∈ visits, Tells c v.start ∧ Tells c v.finish)
    (kept : KeptThroughout c s visits) :
    sharedTrace c s visits = trace b visits ∧ ∀ seen ∈ trace b visits, seen.2.isSome = true := by
  induction visits generalizing b s with
  | nil => exact ⟨rfl, by simp [trace]⟩
  | cons v rest ih =>
    obtain ⟨starts, ends⟩ := told v List.mem_cons_self
    obtain ⟨before, meanwhile, later⟩ := kept
    obtain ⟨same, twins⟩ := twins.visited starts ends before meanwhile
    obtain ⟨traces, seen⟩ := ih twins (fun v member => told v (List.mem_cons_of_mem _ member)) later
    obtain ⟨standing, own, shared⟩ := twins.standing
    refine ⟨?_, ?_⟩
    · simp only [sharedTrace, trace, same, own, shared, traces]
    · rw [trace, own]
      exact List.forall_mem_cons.mpr ⟨rfl, seen⟩

/-- A breaker in memory and one in the cache, both of them new and with the same limits, are one and the same to those who
call through them: as long as the cache can be reached and nothing is lost that it keeps of the circuit, they refuse the same
calls and are in the same state after each. -/
theorem breakers_are_twins (up : s.isDown = false) (fresh : table? c s.slots = some [])
    (told : ∀ v ∈ visits, Tells c v.start ∧ Tells c v.finish) (kept : KeptThroughout c s visits) :
    sharedTrace c s visits = trace { limits := c.limits } visits ∧
      ∀ seen ∈ trace { limits := c.limits } visits, seen.2.isSome = true :=
  Twins.traces ⟨up, [], fresh, rfl, rfl, .closed, rfl, rfl⟩ told kept

end

def paired : Circuit := ⟨"graph", ⟨2, 60, 2⟩⟩

/-- A circuit that opens twice and is closed again. A call is refused while it is open, and what is left of the first probe
does not count for the second. -/
def probedTwice : List (Visit Reading) :=
  [⟨0, 1, false⟩, ⟨2, 2, false⟩, ⟨30, 30, true⟩, ⟨62, 62.5, true⟩, ⟨63, 63, false⟩, ⟨130, 131, true⟩, ⟨140, 140, true⟩,
    ⟨150, 150, false⟩]

instance {c : Circuit} {time : Reading} : Decidable (Tells c time) :=
  decidable_of_iff (_ ∧ _) ⟨fun ⟨lasts, legible⟩ => ⟨lasts, legible⟩, fun tells => ⟨tells.lasts, tells.legible⟩⟩

instance keptThroughout (c : Circuit) : (s : Server Reading) → (visits : List (Visit Reading)) →
    Decidable (KeptThroughout c s visits)
  | _, [] => inferInstanceAs (Decidable True)
  | s, v :: rest =>
    have := keptThroughout c (sharedVisit c v s).2 rest
    inferInstanceAs (Decidable (table? _ _ = table? _ _ ∧ (_ → table? _ _ = table? _ _) ∧ _))

theorem probed_twice :
    ((({} : Server Reading).isDown = false ∧ table? paired ({} : Server Reading).slots = some [] ∧
      (∀ v ∈ probedTwice, Tells paired v.start ∧ Tells paired v.finish) ∧ KeptThroughout paired {} probedTwice) ∧
    sharedTrace paired {} probedTwice =
      [(true, some .closed), (true, some (.opened 2)), (false, some (.opened 2)), (true, some (.halfOpen 1)),
        (true, some (.opened 63)), (true, some (.halfOpen 1)), (true, some .closed), (true, some .closed)]) := by
  have told : ∀ v ∈ probedTwice, Tells paired v.start ∧ Tells paired v.finish := by decide +kernel
  have kept : KeptThroughout paired {} probedTwice := by decide +kernel
  have twins := breakers_are_twins (c := paired) (s := {}) rfl rfl told kept
  exact ⟨⟨rfl, rfl, told, kept⟩, twins.1⟩

end Chatflow.Proofs.TwinBreakers
