import Chatflow.Conversation.Lock
import Chatflow.Delegate
import Chatflow.Proofs.ClosedCircuit

/-! Views of the outside, and work that does not show in them. The document database is such a view: neither what workers
coordinate by nor what goes out to contacts, operators and providers shows in it. -/

namespace Chatflow.Proofs.OutsideWork
open Cache Conversation ClosedCircuit

variable {α β γ : Type} {setup : Setup} {view : Outside → γ}

/-- Work that does not show in a view of the outside, however it ends. -/
def Leaves (view : Outside → γ) (work : Outside → α × Outside) : Prop := ∀ o, view (work o).2 = view o

namespace Leaves

theorem pure (a : α) : Leaves view (Pure.pure a : StateM Outside α) := fun _ => rfl

theorem bind {work : StateM Outside α} {next : α → StateM Outside β} (first : Leaves view work)
    (rest : ∀ a, Leaves view (next a)) : Leaves view (work >>= next) :=
  fun o => (rest (work o).1 (work o).2).trans (first o)

theorem get : Leaves view (MonadState.get : StateM Outside Outside) := fun _ => rfl

theorem mapM {work : α → StateM Outside β} (each : ∀ a, Leaves view (work a)) (items : List α) :
    Leaves view (items.mapM work) := by
  induction items with
  | nil => exact .pure []
  | cons a rest ih =>
    rw [List.mapM_cons]
    exact (each a).bind fun b => ih.bind fun last => .pure (b :: last)

/-- What does not show in a view does not show in what can be told from it. -/
theorem through {δ : Type} {work : Outside → α × Outside} (leaves : Leaves view work) (g : γ → δ) :
    Leaves (fun o => g (view o)) work := fun o => congrArg g (leaves o)

/-- Work in two parts of which the first may fail. -/
theorem andThen {work : ExceptT Fault (StateM Outside) α} {next : α → ExceptT Fault (StateM Outside) β}
    (first : Leaves view work) (rest : ∀ a, Leaves view (next a)) : Leaves view (work >>= next) := by
  intro o
  rw [WorkLogic.bind_apply]
  have before := first o
  rcases done : work o with ⟨_ | a, middle⟩ <;> rw [done] at before
  · exact before
  · exact (rest a middle).trans before

end Leaves

theorem link_connected {link : Link Outside} (linked : setup.link = some link) : link = connected setup := by
  unfold Setup.link at linked
  split at linked <;> cases linked
  rfl

/-- The commands by which workers agree on who works for a contact. -/
inductive Locks : Cache.Command → Prop where
  | lock (name : String) (seconds patience : Amount) : Locks (.lock name seconds patience)
  | acquire (name : String) : Locks (.acquire name)
  | release (name : String) : Locks (.release name)

/-- A view of the outside that the holding of locks does not show in. -/
structure Lockless (setup : Setup) (view : Outside → γ) : Prop where
  lobby : ∀ o l, view { o with lobby := l } = view o
  locks : ∀ c, Locks c → Leaves view (connected setup c)

namespace Lockless
variable (lockless : Lockless setup view)
include lockless

theorem asks {c : Cache.Command} (locks : Locks c) {link : Link Outside} (linked : setup.link = some link) :
    Leaves view (link c) := by
  rw [link_connected linked]
  exact lockless.locks c locks

theorem enterLock (name : String) (seconds : Amount) (task : Nat) :
    Leaves view (Cache.enterLock setup.link Conversation.lobby name seconds task) := by
  have shared : Leaves view (acquireShared setup.link name seconds) := by
    unfold acquireShared
    cases linked : setup.link with
    | none => exact .pure false
    | some link =>
      refine (lockless.asks (.lock name seconds seconds) linked).bind fun prepared => ?_
      cases prepared with
      | error fault => exact .pure false
      | ok reply =>
        refine (lockless.asks (.acquire name) linked).bind fun answer => ?_
        split <;> exact .pure _
  refine shared.bind fun granted => ?_
  cases granted with
  | true => exact .pure Hold.shared
  | false => exact .bind (fun o => lockless.lobby o _) fun _ => .pure Hold.within

theorem leaveLock (name : String) (task : Nat) (hold : Hold) :
    Leaves view (Cache.leaveLock setup.link Conversation.lobby name task hold) := by
  cases hold with
  | within => exact fun o => lockless.lobby o _
  | shared =>
    unfold Cache.leaveLock releaseShared
    cases linked : setup.link with
    | none => exact .pure ()
    | some link => exact (lockless.asks (.release name) linked).bind fun _ => .pure ()

end Lockless

/-- The commands by which workers agree on who works for a contact, and on which deliveries have been seen. -/
inductive Coordinates : Cache.Command → Prop where
  | lock (name : String) (seconds patience : Amount) : Coordinates (.lock name seconds patience)
  | acquire (name : String) : Coordinates (.acquire name)
  | release (name : String) : Coordinates (.release name)
  | mark (delivery : String) (seconds : Amount) : Coordinates (.set (deliveryKey delivery) "1" seconds true)

theorem Locks.coordinates {c : Cache.Command} (locks : Locks c) : Coordinates c := by
  cases locks with
  | lock name seconds patience => exact .lock name seconds patience
  | acquire name => exact .acquire name
  | release name => exact .release name

/-- A view of the outside that the coordination of workers does not show in. -/
structure Apart (setup : Setup) (view : Outside → γ) : Prop where
  lobby : ∀ o l, view { o with lobby := l } = view o
  dedupeBreaker : ∀ o b, view { o with dedupeBreaker := b } = view o
  coordinates : ∀ c, Coordinates c → Leaves view (connected setup c)

namespace Apart
variable (apart : Apart setup view)
include apart

theorem lockless : Lockless setup view := ⟨apart.lobby, fun c locks => apart.coordinates c locks.coordinates⟩

theorem enterLock (name : String) (seconds : Amount) (task : Nat) :
    Leaves view (Cache.enterLock setup.link Conversation.lobby name seconds task) :=
  apart.lockless.enterLock name seconds task

theorem leaveLock (name : String) (task : Nat) (hold : Hold) :
    Leaves view (Cache.leaveLock setup.link Conversation.lobby name task hold) :=
  apart.lockless.leaveLock name task hold

theorem isDuplicate (delivery : String) (seconds : Amount) :
    Leaves view (Cache.isDuplicate setup.link Conversation.dedupeBreaker setup.reading delivery seconds) := by
  unfold Cache.isDuplicate
  cases linked : setup.link with
  | none => exact .pure false
  | some link =>
    have marked : Leaves view (link (.set (deliveryKey delivery) "1" seconds true)) := by
      rw [link_connected linked]
      exact apart.coordinates _ (.mark delivery seconds)
    refine .bind ?_ fun answer => ?_
    · unfold Breaker.call
      refine Leaves.get.bind fun o => ?_
      split
      · exact .pure _
      · refine .bind (fun o => apart.dedupeBreaker o _) fun _ => ?_
        refine marked.bind fun result => ?_
        exact .bind (fun o => apart.dedupeBreaker o _) fun _ => .pure result
    · split <;> exact .pure _

end Apart

theorem database_apart : Apart setup Outside.database := ⟨fun _ _ => rfl, fun _ _ => rfl, fun _ _ _ => rfl⟩

/-- The commands about a key of the cache, but for setting it anew. -/
inductive About (key : String) : Cache.Command → Prop where
  | increment : About key (.increment key)
  | expire (seconds : Amount) : About key (.expire key seconds)
  | readTable : About key (.readTable key)
  | writeTable (cells : List (String × Cell)) : About key (.writeTable key cells)
  | dropCell (name : String) : About key (.dropCell key name)
  | incrementCell (name : String) (step : Int) : About key (.incrementCell key name step)
  | delete : About key (.delete key)

/-- What is kept in the cache about a key does not show in a view. -/
def Conceals (setup : Setup) (view : Outside → γ) (key : String) : Prop :=
  ∀ c, About key c → Leaves view (connected setup c)

/-! Calls through shared breakers show only as far as the calls themselves do, where what is kept of the circuits does
not show. -/

section
variable {circuit : SharedBreaker.Circuit} (concealed : Conceals setup view circuit.key) {link : Link Outside}
  (linked : setup.link = some link)
include concealed linked

theorem askFor_leaves {c : Cache.Command} (about : About circuit.key c) : Leaves view (ExceptT.mk (link c)) := by
  rw [link_connected linked]
  exact concealed c about

theorem send_leaves {c : Cache.Command} (about : About circuit.key c) : Leaves view (SharedBreaker.send link c) :=
  (askFor_leaves concealed linked about).andThen fun _ _ => rfl

theorem readTable_leaves : Leaves view (SharedBreaker.readTable link circuit) :=
  (askFor_leaves concealed linked .readTable).andThen fun _ _ => rfl

theorem writeState_leaves (state : CircuitState) (cells : List (String × Cell)) :
    Leaves view (SharedBreaker.writeState link circuit state cells) :=
  (send_leaves concealed linked (.writeTable _)).andThen fun _ => send_leaves concealed linked (.expire _)

theorem isOpen_leaves : Leaves view (SharedBreaker.isOpen link circuit setup.reading) := by
  have check : Leaves view (SharedBreaker.checkOpen link circuit setup.reading) := by
    refine (readTable_leaves concealed linked).andThen fun cells => ?_
    split
    · split
      · exact fun _ => rfl
      · split
        · exact (writeState_leaves concealed linked _ _).andThen fun _ _ => rfl
        · exact fun _ => rfl
    · exact fun _ => rfl
  refine Leaves.bind check fun answer => ?_
  split <;> exact .pure _

theorem note_leaves (success : Bool) : Leaves view (SharedBreaker.note link circuit setup.reading success) := by
  refine Leaves.bind (β := Unit) ?_ fun _ => .pure ()
  cases success with
  | true =>
    refine (readTable_leaves concealed linked).andThen fun cells => ?_
    split
    · refine (askFor_leaves concealed linked (.incrementCell _ _)).andThen fun reply => ?_
      refine Leaves.andThen (fun _ => rfl) fun successes => ?_
      split
      · exact send_leaves concealed linked .delete
      · exact fun _ => rfl
    · exact send_leaves concealed linked (.dropCell _)
  | false =>
    refine (readTable_leaves concealed linked).andThen fun cells => ?_
    refine (askFor_leaves concealed linked (.incrementCell _ _)).andThen fun reply => ?_
    refine Leaves.andThen (fun _ => rfl) fun failures => ?_
    refine (send_leaves concealed linked (.expire _)).andThen fun _ => ?_
    split
    · exact writeState_leaves concealed linked _ _
    · exact fun _ => rfl

end

theorem callVia_leaves {circuit : SharedBreaker.Circuit} (concealed : Conceals setup view circuit.key)
    {work : StateM Outside (Except Fault α)} (leaves : Leaves view work) :
    Leaves view (SharedBreaker.callVia setup.link circuit setup.reading work) := by
  cases linked : setup.link with
  | none => exact leaves
  | some link =>
    refine (isOpen_leaves concealed linked).bind fun refused => ?_
    split
    · exact .pure _
    · exact leaves.bind fun result => (note_leaves concealed linked _).bind fun _ => .pure result

/-! What goes out to contacts, operators and providers. -/

/-- A view in which nothing shows of what goes out to contacts and operators. -/
structure Inner (setup : Setup) (view : Outside → γ) : Prop where
  circuits : ∀ circuit : SharedBreaker.Circuit, Conceals setup view circuit.key
  posts : ∀ o posts answers accepted,
    view { o with posts := posts, channelAnswers := answers, accepted := accepted } = view o
  letters : ∀ o letters answers, view { o with letters := letters, mailAnswers := answers } = view o
  alerts : ∀ o alerts, view { o with alerts := alerts } = view o
  pauses : ∀ o pauses, view { o with pauses := pauses } = view o

namespace Inner
variable (inner : Inner setup view)
include inner

theorem raiseAlert (severity error : String) (context : Fields) :
    Leaves view (Outside.raiseAlert setup severity error context) := by
  intro o
  change view (if setup.hasAlerting && setup.utcNow.isOk then _ else _) = _
  split
  · exact inner.alerts o _
  · rfl

theorem post (url : String) (body : Value) : Leaves view (Channel.post url body) := by
  refine Leaves.bind (fun o => inner.posts o _ _ _) fun _ => Leaves.get.bind fun o => ?_
  refine .bind (fun o => inner.posts o _ _ _) fun _ => ?_
  split
  · exact .bind (fun o => inner.posts o _ _ _) fun _ => Leaves.get.bind fun _ => .pure _
  all_goals exact .pure _

theorem postAgain (url : String) (body : Value) (attempt left : Nat) :
    Leaves view (Channel.postAgain setup setup.link url body attempt left) := by
  induction left generalizing attempt with
  | zero => exact .pure _
  | succ left ih =>
    refine (callVia_leaves (inner.circuits _) (inner.post url body)).bind fun result => ?_
    split
    · split
      · exact .pure _
      · exact .bind (fun o => inner.pauses o _) fun _ => ih _
    · exact .pure _

theorem send (message : Fields) (phone : Option String) : Leaves view (Channel.send setup message phone) := by
  have posted : ∀ url body, Leaves view (Channel.postPatiently setup url body) := by
    intro url body
    unfold Channel.postPatiently
    split
    · exact inner.postAgain url body _ _
    · exact .pure _
  have reported : ∀ recipient fault, Leaves view
      (Channel.reportFailure setup recipient fault >>= fun _ => (Pure.pure Value.null : StateM Outside Value)) :=
    fun recipient fault => (inner.raiseAlert _ _ _).bind fun _ => .pure _
  unfold Channel.send
  dsimp only
  split
  · exact .pure _
  · refine (posted _ _).bind fun result => ?_
    split
    · exact reported _ _
    · split
      · split
        · exact .pure _
        · exact reported _ _
      · split
        · split
          · exact (inner.raiseAlert _ _ _).bind fun _ => .pure _
          · exact .pure _
        · exact reported _ _

theorem deliverText (env : Envelope) (text : String) : Leaves view (Dispatch.deliverText setup env text) := by
  unfold Dispatch.deliverText
  split
  · exact (inner.send _ _).bind fun _ => .pure _
  · exact .pure _

theorem sendEmail (recipient subject body : String) :
    Leaves view (Notification.sendEmail setup recipient subject body) := by
  unfold Notification.sendEmail
  split
  · exact Leaves.get.bind fun _ => .bind (fun o => inner.letters o _ _) fun _ => .pure _
  · exact .pure _

theorem perform (a : Action) : Leaves view (Dispatch.perform setup a) := by
  unfold Dispatch.perform
  dsimp only
  split
  · exact inner.deliverText _ _
  · split
    · split
      · refine (inner.send _ _).bind fun id => ?_
        split
        · exact .pure _
        · exact inner.deliverText _ _
      · exact .pure _
    · exact inner.deliverText _ _
  · split
    · refine Leaves.bind ?_ fun id => ?_
      · unfold Channel.sendMedia
        split
        · exact inner.send _ _
        · exact .pure _
      · split
        · exact .pure _
        · exact (inner.deliverText _ _).bind fun _ => .pure _
    · exact .pure _
  · split
    · exact (inner.send _ _).bind fun _ => .pure _
    · exact .pure _
  · exact .pure _
  · exact inner.sendEmail _ _ _

theorem dispatchAll (actions : List Action) : Leaves view (Dispatch.dispatchAll setup actions) := by
  refine .mapM (fun a => .bind ?_ fun _ => inner.perform a) actions
  unfold Dispatch.delay
  split
  · exact fun o => inner.pauses o _
  · exact .pure _

theorem notifyHandoff (s : Session) (agent : Option Agent) (payload : Option Fields) (plain : Option String) :
    Leaves view (Notification.notifyHandoff setup s agent payload plain) := by
  unfold Notification.notifyHandoff
  dsimp only
  split
  · exact (inner.raiseAlert _ _ _).bind fun _ => .pure _
  · exact (inner.send _ _).bind fun _ => .pure _

end Inner

/-- A view in which nothing shows of what providers are asked for. -/
structure Unasked (view : Outside → γ) : Prop where
  inquiries : ∀ o inquiries gemini openai,
    view { o with inquiries := inquiries, geminiAnswers := gemini, openaiAnswers := openai } = view o
  breakers : ∀ o gemini openai, view { o with geminiBreaker := gemini, openaiBreaker := openai } = view o

namespace Unasked
variable (unasked : Unasked view)
include unasked

theorem askInTurn (system : String) (history message : Value) (providers : List Provider) :
    Leaves view (Completion.askInTurn setup system history message providers) := by
  have asked : ∀ p, Leaves view (Completion.ask setup p system history message) := by
    intro p
    unfold Completion.ask
    split
    · exact .pure _
    · refine Leaves.get.bind fun o => .bind (fun o => ?_) fun _ => .pure _
      cases p <;> exact unasked.inquiries o _ _ _
  have noted : ∀ p b o, view ((Completion.breaker p).write b o) = view o := by
    intro p b o
    cases p <;> exact unasked.breakers o _ _
  induction providers with
  | nil => exact .pure _
  | cons p rest ih =>
    refine Leaves.bind ?_ fun result => ?_
    · unfold Breaker.call
      refine Leaves.get.bind fun o => ?_
      split
      · exact .pure _
      · refine .bind (fun o => noted p _ o) fun _ => (asked p).bind fun result => ?_
        exact .bind (fun o => noted p _ o) fun _ => .pure result
    · split
      · split
        · exact ih
        · exact .pure _
      · exact ih

theorem complete (a : Agent) (sessionId : String) (message history : Value) (closing : Bool) :
    Leaves view (Completion.complete setup a sessionId message history closing) := by
  refine (unasked.askInTurn _ _ _ _).bind fun reply => ?_
  split <;> exact .pure _

end Unasked

/-- A view in which nothing shows of what goes out, what providers are asked for included. -/
structure Innermost (setup : Setup) (view : Outside → γ) : Prop extends Inner setup view, Unasked view

namespace Innermost
variable (innermost : Innermost setup view)
include innermost

theorem handleTurn (s : Session) (agent : Option Agent) (message : Value) :
    Leaves view (Delegate.handleTurn setup s agent message) := by
  unfold Delegate.handleTurn
  split
  · exact fun _ => rfl
  next a active =>
    refine Leaves.andThen (fun _ => rfl) fun stored => ?_
    refine Leaves.andThen ?_ fun completion => ?_
    · exact (innermost.complete _ _ _ _ _).bind fun _ => .pure _
    · split
      · exact fun _ => rfl
      · dsimp only
        split
        · exact fun _ => rfl
        · refine Leaves.andThen (fun _ => rfl) fun read => ?_
          refine Leaves.andThen ?_ fun _ _ => rfl
          exact (innermost.notifyHandoff _ _ _ _).bind fun _ => .pure _

end Innermost

/-- What is neither for contacts nor for operators: the database, and what providers were asked. -/
def inward (o : Outside) : Documents.Server × List Inquiry := (o.database, o.inquiries)

theorem inward_apart : Apart setup inward := ⟨fun _ _ => rfl, fun _ _ => rfl, fun _ _ _ => rfl⟩

theorem inward_inner : Inner setup inward :=
  ⟨fun _ _ _ _ => rfl, fun _ _ _ _ => rfl, fun _ _ _ => rfl, fun _ _ => rfl, fun _ _ => rfl⟩

/-- What goes out to contacts and operators, and the pauses in between. -/
def outward (o : Outside) : List Post × List Letter × List Alert × List Pause := (o.posts, o.letters, o.alerts, o.pauses)

theorem outward_unasked : Unasked outward := ⟨fun _ _ _ _ => rfl, fun _ _ _ => rfl⟩

theorem database_innermost : Innermost setup Outside.database where
  circuits _ _ _ _ := rfl
  posts _ _ _ _ := rfl
  letters _ _ _ := rfl
  alerts _ _ := rfl
  pauses _ _ := rfl
  inquiries _ _ _ _ := rfl
  breakers _ _ _ := rfl

end Chatflow.Proofs.OutsideWork
