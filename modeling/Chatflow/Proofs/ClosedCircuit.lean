import Chatflow.Documents.Guard
import Chatflow.Proofs.CircuitTables

/-! Calls of the document database through its circuit breaker. As long as the shared cache never said that the circuit
is open, calls are let through, and calls that succeed do not make it say so. -/

namespace Chatflow.Proofs.ClosedCircuit
open Documents SharedBreaker Cache Cache.Server CircuitTables WorkLogic

variable {α β : Type} (setup : Setup) {slots : List (Slot Reading)} {o : Outside}

/-- No table of the database's circuit claims that it is open. -/
def Closed (slots : List (Slot Reading)) : Prop :=
  ∀ slot ∈ slots, slot.key = circuit.key → ∀ cells, slot.content = .table cells → saysState cells .opened = false

theorem Closed.filter (closed : Closed slots) (p : Slot Reading → Bool) : Closed (slots.filter p) :=
  fun slot member => closed slot (List.mem_filter.mp member).1

theorem Closed.cells (closed : Closed slots) {cells : List (String × Cell)}
    (found : cells? slots circuit.key = .ok cells) : saysState cells .opened = false := by
  unfold cells? at found
  split at found
  · cases found
    rfl
  next stored expires slot =>
    cases found
    have key := List.find?_some slot
    exact closed _ (List.mem_of_find?_eq_some slot) (eq_of_beq key) _ rfl
  · cases found

theorem Closed.storeCells (closed : Closed slots) {cells : List (String × Cell)}
    (closedYet : saysState cells .opened = false) : Closed (storeCells slots circuit.key cells) := by
  intro slot member own written content
  rcases List.mem_append.mp member with former | new
  · exact closed.filter _ slot former own written content
  · cases List.mem_singleton.mp new
    cases content
    exact closedYet

/-- The commands about the circuit that leave its state alone or forget it. -/
inductive Harmless : Cache.Command → Prop where
  | readTable : Harmless (.readTable circuit.key)
  | dropCell {name : String} (other : name ≠ "state") : Harmless (.dropCell circuit.key name)
  | incrementCell {name : String} (other : name ≠ "state") (step : Int) :
    Harmless (.incrementCell circuit.key name step)
  | delete : Harmless (.delete circuit.key)

theorem Closed.execute (closed : Closed slots) {now : Reading} {grantsLocks : Bool} {c : Cache.Command}
    (harmless : Harmless c) {reply : Cache.Reply} {after : List (Slot Reading)}
    (done : execute now grantsLocks slots c = .ok (reply, after)) : Closed after := by
  cases harmless with
  | delete =>
    cases done
    exact closed.filter _
  | readTable =>
    simp only [Cache.Server.execute] at done
    cases found : cells? slots circuit.key <;> rw [found] at done <;> cases done
    exact closed
  | dropCell other =>
    simp only [Cache.Server.execute] at done
    cases found : cells? slots circuit.key <;> rw [found] at done <;> cases done
    split
    · apply closed.storeCells
      rw [saysState_filter other]
      exact closed.cells found
    · exact closed
  | @incrementCell name other step =>
    simp only [Cache.Server.execute] at done
    cases found : cells? slots circuit.key with
    | error fault =>
      rw [found] at done
      cases done
    | ok cells =>
      cases counted : countIn cells name <;> simp only [found, counted, bind, Except.bind] at done <;> cases done
      apply closed.storeCells
      rw [saysState_setCell other]
      exact closed.cells found

/-- The cache as it is connected to the service. -/
abbrev connected (setup : Setup) : Link Outside := fun command outside =>
  ((Cache.Server.perform setup.reading command outside.cache).1,
    { outside with cache := (Cache.Server.perform setup.reading command outside.cache).2 })

theorem Closed.perform {cache : Cache.Server Reading} (closed : Closed cache.slots) {c : Cache.Command}
    (harmless : Harmless c) (now : Reading) : Closed (Cache.Server.perform now c cache).2.slots := by
  have pruned : Closed (prune cache.slots now) := closed.filter _
  simp only [Cache.Server.perform]
  split
  · exact pruned
  · split
    next done => exact pruned.execute harmless done
    · exact pruned

/-- Work about the circuit that touches nothing but the cache and does not open the circuit. Its answers fit `post`. -/
def KeepsClosed (work : ExceptT Fault (StateM Outside) α) (post : α → Prop) : Prop :=
  ∀ o, Closed o.cache.slots → ∃ cache, Closed cache.slots ∧ (work o).2 = { o with cache := cache } ∧
    ∀ a, (work o).1 = .ok a → post a

theorem KeepsClosed.bind {work : ExceptT Fault (StateM Outside) α} {next : α → ExceptT Fault (StateM Outside) β}
    {mid : α → Prop} {post : β → Prop} (first : KeepsClosed work mid) (last : ∀ a, mid a → KeepsClosed (next a) post) :
    KeepsClosed (work >>= next) post := by
  intro o closed
  obtain ⟨cache, still, same, answers⟩ := first o closed
  rw [bind_apply]
  rcases done : work o with ⟨fault | a, after⟩ <;> rw [done] at same answers <;> cases same
  · exact ⟨cache, still, rfl, fun _ impossible => by cases impossible⟩
  · exact last a (answers a rfl) _ still

theorem KeepsClosed.pure {a : α} {post : α → Prop} (fits : post a) : KeepsClosed (Pure.pure a) post := by
  intro o closed
  refine ⟨o.cache, closed, rfl, fun answer same => ?_⟩
  cases same
  exact fits

theorem KeepsClosed.lift {e : Except Fault α} {post : α → Prop} (fits : ∀ a, e = .ok a → post a) :
    KeepsClosed (ExceptT.mk (Pure.pure e)) post :=
  fun o closed => ⟨o.cache, closed, rfl, fits⟩

theorem KeepsClosed.command {c : Cache.Command} (harmless : Harmless c) :
    KeepsClosed (ExceptT.mk (connected setup c)) fun _ => True :=
  fun _ closed => ⟨_, closed.perform harmless setup.reading, rfl, fun _ _ => trivial⟩

theorem send_keepsClosed {c : Cache.Command} (harmless : Harmless c) :
    KeepsClosed (send (connected setup) c) fun _ => True :=
  (KeepsClosed.command setup harmless).bind fun _ _ => .pure trivial

theorem Closed.readTable {cache : Cache.Server Reading} (closed : Closed cache.slots) {now : Reading}
    {reply : Cache.Reply} (answered : (Cache.Server.perform now (.readTable circuit.key) cache).1 = .ok reply)
    {cells : List (String × Cell)} (table : reply.table? = .ok cells) : saysState cells .opened = false := by
  have pruned : Closed (prune cache.slots now) := closed.filter _
  simp only [Cache.Server.perform, Cache.Server.execute] at answered
  cases found : cells? (prune cache.slots now) circuit.key with
  | error fault =>
    rw [found] at answered
    split at answered <;> cases answered
  | ok read =>
    rw [found] at answered
    split at answered <;> cases answered
    cases table
    exact pruned.cells found

theorem readTable_keepsClosed :
    KeepsClosed (readTable (connected setup) circuit) fun cells => saysState cells .opened = false := by
  have answer : KeepsClosed (ExceptT.mk (connected setup (.readTable circuit.key))) fun reply =>
      ∀ cells, reply.table? = .ok cells → saysState cells .opened = false :=
    fun _ closed => ⟨_, closed.perform .readTable setup.reading, rfl, fun _ answered _ => closed.readTable answered⟩
  exact answer.bind fun _ closedYet => .lift closedYet

theorem checkOpen_keepsClosed :
    KeepsClosed (checkOpen (connected setup) circuit setup.reading) fun refused => refused = false := by
  unfold checkOpen
  refine (readTable_keepsClosed setup).bind fun cells closedYet => ?_
  rw [closedYet]
  exact .pure rfl

theorem noteSuccess_keepsClosed : KeepsClosed (noteSuccess (connected setup) circuit) fun _ => True := by
  unfold noteSuccess
  refine (readTable_keepsClosed setup).bind fun cells _ => ?_
  split
  · refine (KeepsClosed.command setup (.incrementCell (by decide) 1)).bind fun reply _ => ?_
    refine (@KeepsClosed.lift _ reply.count? (fun _ => True) fun _ _ => trivial).bind fun successes _ => ?_
    split
    · exact send_keepsClosed setup .delete
    · exact .pure trivial
  · exact send_keepsClosed setup (.dropCell (by decide))

theorem isOpen_closed (closed : Closed o.cache.slots) : ∃ cache, Closed cache.slots ∧
    isOpen (connected setup) circuit setup.reading o = (false, { o with cache := cache }) := by
  obtain ⟨cache, still, same, answers⟩ := checkOpen_keepsClosed setup o closed
  refine ⟨cache, still, ?_⟩
  rcases done : checkOpen (connected setup) circuit setup.reading o with ⟨fault | answer, after⟩ <;>
    rw [done] at same answers <;> cases same
  · simp only [isOpen, ExceptT.run, bind, StateT.bind, done]
    rfl
  · cases answers answer rfl
    simp only [isOpen, ExceptT.run, bind, StateT.bind, done]
    rfl

theorem note_closed (closed : Closed o.cache.slots) : ∃ cache, Closed cache.slots ∧
    note (connected setup) circuit setup.reading true o = ((), { o with cache := cache }) := by
  obtain ⟨cache, still, same, -⟩ := noteSuccess_keepsClosed setup o closed
  refine ⟨cache, still, ?_⟩
  change ((), (noteSuccess (connected setup) circuit o).2) = _
  rw [same]

/-- A call that succeeds goes through as if there were no breaker, but for what is noted in the cache. -/
theorem callVia_closed {work : StateM Outside (Except Fault α)} {a : α} {after : Outside}
    (closed : Closed o.cache.slots)
    (done : ∀ cache : Cache.Server Reading, work { o with cache := cache } = (.ok a, { after with cache := cache })) :
    ∃ cache, Closed cache.slots ∧
      callVia setup.link circuit setup.reading work o = (.ok a, { after with cache := cache }) := by
  cases hasCache : setup.hasCache with
  -- Without a cache there is nothing to keep the circuit in.
  | false =>
    refine ⟨o.cache, closed, ?_⟩
    simp only [Setup.link, hasCache, Bool.false_eq_true, if_false, callVia]
    exact done o.cache
  | true =>
    have link : setup.link = some (connected setup) := by simp only [Setup.link, hasCache, if_true]
    obtain ⟨asked, still, admitted⟩ := isOpen_closed setup closed
    obtain ⟨noted, yet, kept⟩ := note_closed setup (o := { after with cache := asked }) still
    refine ⟨noted, yet, ?_⟩
    rw [link]
    simp only [callVia, call, bind, StateT.bind, admitted, Bool.false_eq_true, if_false, done, Except.isOk,
      Except.toBool, kept]
    rfl

end Chatflow.Proofs.ClosedCircuit
