import Chatflow.Proofs.CacheOutages
import Chatflow.Proofs.OutsideWork

/-! Calls of the document database, exactly. The database's breaker refuses a call if the shared cache says that the
circuit is open and not yet to be probed; otherwise the call is made. Either way it comes to an answer, which is a fallback
if it was refused or has failed. -/

namespace Chatflow.Proofs.GuardedCalls
open Cache Cache.Server Documents SharedBreaker CacheOutages CacheSlots CircuitTables ClosedCircuit OutsideWork WorkLogic

variable {α : Type} {setup : Setup} {o : Outside}

/-- Whether what is kept of the database's circuit has calls refused. -/
def refusedBy (now : Reading) (slots : List (Slot Reading)) : Bool :=
  match cells? (prune slots now) circuit.key with
  | .error _ => false
  | .ok cells => saysState cells .opened && match (openedAt? cells : Option Reading) with
    | none => false
    | some time => !Clock.passed time now circuit.limits.seconds

/-- Whether calls of the database are refused. A cache that cannot be reached has none refused. -/
def refuses (setup : Setup) (o : Outside) : Bool :=
  setup.hasCache && !o.cache.isDown && refusedBy setup.reading o.cache.slots

/-- Calls reach the database. -/
structure Reached (setup : Setup) (o : Outside) : Prop where
  up : o.database.isDown = false
  admitted : refuses setup o = false

theorem isOpen_answer (setup : Setup) (o : Outside) :
    (isOpen (connected setup) circuit setup.reading o).1 =
      (!o.cache.isDown && refusedBy setup.reading o.cache.slots) := by
  have read : (connected setup (.readTable circuit.key) o).1 = if o.cache.isDown then .error .cacheDown
      else (cells? (prune o.cache.slots setup.reading) circuit.key).map .table := by
    cases down : o.cache.isDown with
    | true => simp only [Cache.Server.perform, down, if_true]
    | false =>
      simp only [Cache.Server.perform, down, Bool.false_eq_true, if_false, execute]
      cases cells? (prune o.cache.slots setup.reading) circuit.key <;> rfl
  rw [Bool.eq_iff_iff, isOpen_iff_refuses, Refuses, read, refusedBy]
  cases o.cache.isDown with
  | true => simp
  | false =>
    cases cells? (prune o.cache.slots setup.reading) circuit.key with
    | error fault => simp [Except.map]
    | ok cells =>
      cases told : (openedAt? cells : Option Reading) <;> simp [Except.map, told, saysState, CircuitState.name]

/-- The outside without the cache. -/
def uncached (o : Outside) : Outside := { o with cache := {} }

theorem eq_of_uncached {after : Outside} (same : uncached after = uncached o) :
    after = { o with cache := after.cache } :=
  congrArg (fun bare : Outside => { bare with cache := after.cache }) same

/-- The question whether calls are refused is answered by what is kept of the circuit, and touches only the cache. -/
theorem isOpen_apply (cached : setup.hasCache = true) (o : Outside) : ∃ cache,
    isOpen (connected setup) circuit setup.reading o = (refuses setup o, { o with cache := cache }) := by
  have linked : setup.link = some (connected setup) := by simp only [Setup.link, cached, if_true]
  refine ⟨_, Prod.ext ?_ (eq_of_uncached (isOpen_leaves (fun _ _ _ => rfl) linked o))⟩
  rw [isOpen_answer, refuses, cached, Bool.true_and]

theorem note_apply (cached : setup.hasCache = true) (success : Bool) (o : Outside) : ∃ cache,
    note (connected setup) circuit setup.reading success o = ((), { o with cache := cache }) := by
  have linked : setup.link = some (connected setup) := by simp only [Setup.link, cached, if_true]
  exact ⟨_, Prod.ext rfl (eq_of_uncached (note_leaves (fun _ _ _ => rfl) linked success o))⟩

theorem callVia_cached (cached : setup.hasCache = true) (work : StateM Outside (Except Fault α)) :
    callVia setup.link circuit setup.reading work =
      SharedBreaker.call (connected setup) circuit setup.reading work := by
  simp only [Setup.link, cached, if_true, callVia]

theorem callVia_refused (refused : refuses setup o = true) (work : StateM Outside (Except Fault α)) :
    ∃ cache, callVia setup.link circuit setup.reading work o =
      (.error (.circuitOpen circuit.service), { o with cache := cache }) := by
  have cached : setup.hasCache = true := by
    simp only [refuses, Bool.and_eq_true] at refused
    exact refused.1.1
  obtain ⟨cache, asked⟩ := isOpen_apply cached o
  refine ⟨cache, ?_⟩
  rw [callVia_cached cached]
  simp only [SharedBreaker.call, bind, StateT.bind, asked, refused, if_true]
  rfl

/-- A call that is let through is made, and then counted in the cache. -/
theorem callVia_admitted (admitted : refuses setup o = false) {work : StateM Outside (Except Fault α)}
    {result : Except Fault α} {after : Outside}
    (done : ∀ cache : Cache.Server Reading, work { o with cache := cache } = (result, { after with cache := cache })) :
    ∃ cache, callVia setup.link circuit setup.reading work o = (result, { after with cache := cache }) := by
  cases cached : setup.hasCache with
  | false =>
    refine ⟨o.cache, ?_⟩
    simp only [Setup.link, cached, Bool.false_eq_true, if_false, callVia]
    exact done o.cache
  | true =>
    obtain ⟨cache, asked⟩ := isOpen_apply cached o
    obtain ⟨last, noted⟩ := note_apply cached result.isOk { after with cache := cache }
    refine ⟨last, ?_⟩
    rw [callVia_cached cached]
    simp only [SharedBreaker.call, bind, StateT.bind, asked, admitted, Bool.false_eq_true, if_false, done, noted]
    rfl

/-- A call of the database that is refused is answered with the fallback. -/
theorem guarded_refused (refused : refuses setup o = true) (c : Except Fault Documents.Command)
    (read : Documents.Reply → α) (fallback : α) :
    ∃ cache, guarded setup c read fallback true o = (fallback, { o with cache := cache }) := by
  obtain ⟨cache, called⟩ := callVia_refused refused (attempt c)
  refine ⟨cache, ?_⟩
  simp only [guarded, if_true, bind, StateT.bind, called]
  rfl

/-- What a command of the database comes to for those who ask through the breaker. -/
def answered (read : Documents.Reply → α) (fallback : α) : Except Fault Documents.Reply → α
  | .ok reply => read reply
  | .error _ => fallback

/-- A call of the database that is let through is carried out. -/
theorem guarded_admitted (admitted : refuses setup o = false) (c : Documents.Command) (read : Documents.Reply → α)
    (fallback : α) : ∃ cache, guarded setup (.ok c) read fallback true o =
      (answered read fallback (o.database.perform c).1,
        { o with database := (o.database.perform c).2, cache := cache }) := by
  have done : ∀ cache : Cache.Server Reading, attempt (.ok c) { o with cache := cache } =
      ((o.database.perform c).1, { { o with database := (o.database.perform c).2 } with cache := cache }) := fun _ => rfl
  obtain ⟨cache, called⟩ := callVia_admitted admitted done
  refine ⟨cache, ?_⟩
  simp only [guarded, if_true, bind, StateT.bind, called]
  cases (o.database.perform c).1 <;> rfl

/-! Documents that are asked for by the value of one of their fields. -/

theorem passes_equals (name : String) (v : Value) (document : Fields) :
    Filter.passes document [(name, .equals v)] = .ok ((fieldOf document name).same v) := by
  simp only [Filter.passes, Test.passes, bind, Except.bind]
  cases (fieldOf document name).same v <;> rfl

section
variable {filter : Filter} {p : Fields → Bool} (passes : ∀ document, Filter.passes document filter = .ok (p document))
include passes

theorem select_eq_filter (documents : List Fields) : select filter documents = .ok (documents.filter p) := by
  induction documents with
  | nil => rfl
  | cons document rest ih =>
    rw [select, passes, ih, List.filter_cons]
    cases p document <;> rfl

theorem find_reached (reached : Reached setup o) (name : String) :
    (guarded setup (.ok (.find name filter none none)) Documents.Reply.documents? [] true o).1 =
      (documentsOf o.database.collections name).filter p := by
  obtain ⟨cache, called⟩ := guarded_admitted reached.admitted (.find name filter none none) Documents.Reply.documents? []
  rw [called]
  simp only [Documents.Server.perform, reached.up, Bool.false_and, Bool.false_eq_true, if_false,
    Documents.Server.execute, select_eq_filter passes, bind, Except.bind]
  rfl

theorem findOne_reached (reached : Reached setup o) (name : String) :
    (guarded setup (.ok (.findOne name filter none)) (fun reply => reply.documents?.head?) none true o).1 =
      (documentsOf o.database.collections name).find? p := by
  obtain ⟨cache, called⟩ := guarded_admitted reached.admitted (.findOne name filter none)
    (fun reply => reply.documents?.head?) none
  rw [called, ← List.head?_filter]
  simp only [Documents.Server.perform, reached.up, Bool.false_and, Bool.false_eq_true, if_false,
    Documents.Server.execute, select_eq_filter passes, bind, Except.bind]
  cases (documentsOf o.database.collections name).filter p <;> rfl

/-- To delete all documents that pass a filter is to keep the others. -/
theorem revise_deletes (documents : List Fields) : revise filter true (fun _ => none) documents =
    .ok (documents.countP p, documents.filter fun document => !p document) := by
  induction documents with
  | nil => rfl
  | cons document rest ih =>
    rw [revise, passes]
    cases meant : p document <;> simp [bind, Except.bind, pure, Except.pure, ih, meant]

end

/-! What workers agree on through the cache does not change what is kept of the circuit. -/

theorem deliveryKey_ne (delivery : String) : deliveryKey delivery ≠ circuit.key := by
  intro same
  have first := congrArg (fun key : String => key.toList.head?) same
  simp [deliveryKey, circuit, Circuit.key] at first

theorem refusedBy_perform {c : Cache.Command} (coordinates : Coordinates c) (now : Reading)
    (cache : Cache.Server Reading) :
    (Cache.Server.perform now c cache).2.isDown = cache.isDown ∧
      refusedBy now (Cache.Server.perform now c cache).2.slots = refusedBy now cache.slots := by
  have pruned : refusedBy now (prune cache.slots now) = refusedBy now cache.slots := by
    unfold refusedBy
    rw [prune_prune]
  unfold Cache.Server.perform
  dsimp only
  split
  · exact ⟨rfl, pruned⟩
  · cases coordinates with
    | lock | acquire | release => exact ⟨rfl, pruned⟩
    | mark delivery seconds =>
      cases seen : (slot? (prune cache.slots now) (deliveryKey delivery)).isSome with
      | true =>
        simp only [execute, seen, Bool.and_true, if_true, true_and]
        exact pruned
      | false =>
        simp only [execute, seen, Bool.and_false, Bool.false_eq_true, if_false, true_and]
        refine Eq.trans ?_ pruned
        unfold refusedBy cells?
        rw [slot?_prune_store (deliveryKey_ne delivery)]

theorem refuses_apart : Apart setup (refuses setup) where
  lobby _ _ := rfl
  dedupeBreaker _ _ := rfl
  coordinates c coordinates o := by
    obtain ⟨down, kept⟩ := refusedBy_perform coordinates setup.reading o.cache
    unfold refuses
    dsimp only [connected]
    rw [down, kept]

/-- A setup with a database, and without a cache that could have calls refused. -/
def onDatabase : Setup := { now := ⟨5, 0⟩, settings := { zone := "UTC" }, hasDatabase := true }

theorem reached_onDatabase (up : o.database.isDown = false) : Reached onDatabase o := ⟨up, rfl⟩

end Chatflow.Proofs.GuardedCalls
