import Chatflow.Cache.RateLimit
import Chatflow.Conversation.Request
import Chatflow.Proofs.GuardedCalls

/-! Work after which everything that lasts is as it was: the sessions, wherever they are stored, the flows on offer, and the
deliveries that are remembered. Whatever is looked up is of this kind, and so is all that goes out. -/

namespace Chatflow.Proofs.IdleWork
open Cache Cache.Server Conversation Documents OutsideWork CacheSlots CircuitTables ClosedCircuit GuardedCalls WorkLogic

variable {α β : Type} {setup : Setup} {w after : World}

/-! What the cache remembers of deliveries. -/

/-- What a key holds in the cache, as long as its time is not up. -/
def live (now : Reading) (slots : List (Slot Reading)) (key : String) : List (Slot Reading) :=
  (prune slots now).filter fun slot => slot.key == key

theorem live_prune (now : Reading) (slots : List (Slot Reading)) (key : String) :
    live now (prune slots now) key = live now slots key := by
  unfold live
  rw [prune_prune]

theorem filter_prune (slots : List (Slot Reading)) (now : Reading) (p : Slot Reading → Bool) :
    (prune slots now).filter p = prune (slots.filter p) now := by
  unfold prune
  rw [List.filter_filter, List.filter_filter]
  simp only [Bool.and_comm]

theorem filter_drop {slots : List (Slot Reading)} {key other : String} (apart : key ≠ other) :
    (drop slots key).filter (fun slot => slot.key == other) = slots.filter fun slot => slot.key == other := by
  unfold drop
  rw [List.filter_filter]
  apply List.filter_congr
  intro slot _
  by_cases meant : slot.key = other
  · simp [meant, apart.symm]
  · simp [meant]

theorem filter_store {slots : List (Slot Reading)} {s : Slot Reading} {other : String} (apart : s.key ≠ other) :
    (store slots s).filter (fun slot => slot.key == other) = slots.filter fun slot => slot.key == other := by
  unfold store
  rw [List.filter_append, filter_drop apart]
  simp [apart]

theorem filter_expire {slots : List (Slot Reading)} {key other : String} (apart : key ≠ other) (time : Reading) :
    (slots.map fun s => if s.key == key then { s with expires := some time } else s).filter
      (fun slot => slot.key == other) = slots.filter fun slot => slot.key == other := by
  induction slots with
  | nil => rfl
  | cons slot rest ih =>
    rw [List.map_cons, List.filter_cons, List.filter_cons, ih]
    by_cases meant : slot.key = key
    · simp [meant, apart]
    · simp [meant]

/-- A command about a key leaves alone what the others hold. -/
theorem execute_about {key other : String} (apart : key ≠ other) {c : Cache.Command} (about : About key c) {now : Reading}
    {grantsLocks : Bool} {slots left : List (Slot Reading)} {reply : Cache.Reply}
    (done : execute now grantsLocks slots c = .ok (reply, left)) :
    left.filter (fun slot => slot.key == other) = slots.filter fun slot => slot.key == other := by
  have stored : ∀ cells, (storeCells slots key cells).filter (fun slot => slot.key == other) =
      slots.filter fun slot => slot.key == other := fun cells => filter_store apart
  cases about with
  | increment =>
    simp only [execute] at done
    split at done
    · cases done
      exact filter_store apart
    · cases done
      exact filter_store apart
    · cases done
  | expire seconds =>
    cases done
    exact filter_expire apart _
  | readTable =>
    simp only [execute] at done
    cases found : cells? slots key <;> rw [found] at done <;> cases done
    rfl
  | writeTable cells =>
    simp only [execute] at done
    cases found : cells? slots key <;> rw [found] at done <;> cases done
    exact stored _
  | dropCell name =>
    simp only [execute] at done
    cases found : cells? slots key <;> rw [found] at done <;> cases done
    split
    · exact stored _
    · rfl
  | incrementCell name step =>
    simp only [execute] at done
    cases found : cells? slots key with
    | error fault =>
      rw [found] at done
      cases done
    | ok cells =>
      cases counted : countIn cells name <;> simp only [found, counted, bind, Except.bind] at done <;> cases done
      exact stored _
  | delete =>
    cases done
    exact filter_drop apart

/-- Commands that leave alone what a key holds. -/
inductive Spares (other : String) : Cache.Command → Prop where
  | about {key c} (about : About key c) (apart : key ≠ other) : Spares other c
  | locks {c} (locks : Locks c) : Spares other c
  | ping : Spares other .ping

theorem live_perform {other : String} {c : Cache.Command} (spares : Spares other c) (now : Reading)
    (cache : Cache.Server Reading) : live now (Cache.Server.perform now c cache).2.slots other = live now cache.slots other := by
  have kept : ∀ {reply left}, execute now cache.grantsLocks (prune cache.slots now) c = .ok (reply, left) →
      left.filter (fun slot => slot.key == other) = (prune cache.slots now).filter fun slot => slot.key == other := by
    intro reply left done
    cases spares with
    | about about apart => exact execute_about apart about done
    | locks locks => cases locks <;> cases done <;> rfl
    | ping => cases done; rfl
  unfold Cache.Server.perform
  dsimp only
  split
  · exact live_prune now cache.slots other
  · split
    next reply left done =>
      unfold live
      rw [filter_prune, kept done, ← filter_prune, prune_prune]
    · exact live_prune now cache.slots other

theorem head?_append {text : String} {c : Char} {rest : List Char} (spelt : text.toList = c :: rest) (more : String) :
    (text ++ more).toList.head? = some c := by
  rw [String.toList_append, spelt]
  rfl

theorem circuitKey_ne (c : SharedBreaker.Circuit) (delivery : String) : c.key ≠ deliveryKey delivery := by
  intro same
  have marked : (deliveryKey delivery).toList.head? = some 'p' := head?_append rfl delivery
  have first : c.key.toList.head? = some 'c' := head?_append rfl c.service
  rw [same, marked] at first
  cases first

theorem subjectKey_ne (s : RateLimit.Subject) (delivery : String) : s.key ≠ deliveryKey delivery := by
  intro same
  have marked : (deliveryKey delivery).toList.head? = some 'p' := head?_append rfl delivery
  have first : s.key.toList.head? = some 'r' := by
    cases s with
    | address a => exact head?_append rfl a
    | peer host => exact head?_append rfl host
  rw [same, marked] at first
  cases first

/-! What of the outside lasts. -/

/-- The documents in the database, and what is known of deliveries: by the cache, of which it matters whether it can be
reached, and by the breaker that guards it. -/
structure Standing where
  collections : Collections
  cacheDown : Bool
  remembered : String → List (Slot Reading)
  dedupeBreaker : Breaker Reading

def standing (setup : Setup) (o : Outside) : Standing :=
  ⟨o.database.collections, o.cache.isDown, fun delivery => live setup.reading o.cache.slots (deliveryKey delivery),
    o.dedupeBreaker⟩

theorem spares_leaves {c : Cache.Command} (spares : ∀ delivery, Spares (deliveryKey delivery) c) :
    Leaves (standing setup) (connected setup c) := by
  intro o
  have down := perform_isDown setup.reading c o.cache
  have remembered : ∀ delivery, live setup.reading _ (deliveryKey delivery) = _ :=
    fun delivery => live_perform (spares delivery) setup.reading o.cache
  simp only [standing, down, remembered]

theorem standing_conceals {key : String} (apart : ∀ delivery, key ≠ deliveryKey delivery) :
    Conceals setup (standing setup) key :=
  fun _ about => spares_leaves fun delivery => .about about (apart delivery)

theorem standing_lockless : Lockless setup (standing setup) :=
  ⟨fun _ _ => rfl, fun _ locks => spares_leaves fun _ => .locks locks⟩

theorem standing_innermost : Innermost setup (standing setup) where
  circuits circuit := standing_conceals (circuitKey_ne circuit)
  posts _ _ _ _ := rfl
  letters _ _ _ := rfl
  alerts _ _ := rfl
  pauses _ _ := rfl
  inquiries _ _ _ _ := rfl
  breakers _ _ _ := rfl

/-- Hits are counted in the cache under keys of their own. -/
theorem hit_leaves (subject : RateLimit.Subject) (quota : RateLimit.Quota) :
    Leaves (standing setup) (RateLimit.hit setup.link subject quota) := by
  unfold RateLimit.hit
  cases linked : setup.link with
  | none => exact .pure true
  | some link =>
    have asks : ∀ c, About subject.key c → Leaves (standing setup) (ExceptT.mk (link c)) := by
      intro c about
      rw [link_connected linked]
      exact standing_conceals (subjectKey_ne subject) c about
    have counted : Leaves (standing setup) (RateLimit.count link subject.key quota.seconds) := by
      refine (asks _ .increment).andThen fun reply => ?_
      refine Leaves.andThen (fun _ => rfl) fun n => ?_
      dsimp only
      split
      · exact (asks _ (.expire _)).andThen fun _ _ => rfl
      · exact fun _ => rfl
    refine Leaves.bind counted fun result => ?_
    split <;> exact .pure _

def isQuery : Documents.Command → Bool
  | .insert .. | .delete .. | .update .. => false
  | _ => true

theorem query_leaves {c : Documents.Command} (query : isQuery c = true) : Leaves (standing setup) (command c) := by
  intro o
  have unchanged : ∀ {reply collections}, Documents.Server.execute o.database.collections c = .ok (reply, collections) →
      collections = o.database.collections := by
    intro reply collections done
    cases c with
    | insert | delete | update => cases query
    | index | ping | close => cases done; rfl
    | findOne name filter order | find name filter order limit =>
      simp only [Documents.Server.execute, bind, Except.bind] at done
      split at done
      · cases done
      · split at done <;> cases done
        rfl
    | count name filter limit =>
      simp only [Documents.Server.execute, bind, Except.bind] at done
      split at done <;> cases done
      rfl
  simp only [standing, command, Documents.Server.perform]
  split
  · rfl
  · split
    next done => rw [unchanged done]
    · rfl

/-! Worlds between which nothing that lasts has changed, and work that leads from one to the other. -/

/-- A number may have been taken for a session that is read from the database without one. -/
structure Unmoved (setup : Setup) (w after : World) : Prop where
  table : after.table = w.table
  catalogue : after.catalogue = w.catalogue
  foreign : after.foreign = w.foreign
  nextSession : setup.hasDatabase = false → after.nextSession = w.nextSession
  counted : w.nextSession ≤ after.nextSession
  standing : standing setup after.outside = standing setup w.outside

theorem Unmoved.refl (w : World) : Unmoved setup w w := ⟨rfl, rfl, rfl, fun _ => rfl, Nat.le_refl _, rfl⟩

theorem Unmoved.trans {middle : World} (first : Unmoved setup w middle) (last : Unmoved setup middle after) :
    Unmoved setup w after where
  table := last.table.trans first.table
  catalogue := last.catalogue.trans first.catalogue
  foreign := last.foreign.trans first.foreign
  nextSession inProcess := (last.nextSession inProcess).trans (first.nextSession inProcess)
  counted := Nat.le_trans first.counted last.counted
  standing := last.standing.trans first.standing

theorem Unmoved.beside (unmoved : Unmoved setup w after) (inProcess : setup.hasDatabase = false) : Beside w after :=
  ⟨unmoved.table, unmoved.catalogue, unmoved.nextSession inProcess, unmoved.foreign⟩

def Idle (setup : Setup) (work : Work α) : Prop := ∀ w, Unmoved setup w (work w).2

namespace Idle

theorem bind {work : Work α} {next : α → Work β} (first : Idle setup work) (rest : ∀ a, Idle setup (next a)) :
    Idle setup (work >>= next) := by
  intro w
  rw [bind_apply]
  have before := first w
  rcases done : work w with ⟨_ | a, middle⟩ <;> rw [done] at before
  · exact before
  · exact before.trans (rest a middle)

theorem pure (a : α) : Idle setup (Pure.pure a) := fun w => .refl w

theorem look (f : World → α) : Idle setup (Work.look f) := fun w => .refl w

theorem check (e : Except Fault α) : Idle setup (Work.check e) := fun w => .refl w

theorem fail (fault : Fault) : Idle setup (Work.fail fault : Work α) := fun w => .refl w

theorem running (run : List Float → Except Fault α × List Float) : Idle setup (running run) :=
  fun _ => ⟨rfl, rfl, rfl, fun _ => rfl, Nat.le_refl _, rfl⟩

theorem onOutside {work : StateM Outside α} (leaves : Leaves (standing setup) work) : Idle setup (Work.onOutside work) :=
  fun w => ⟨rfl, rfl, rfl, fun _ => rfl, Nat.le_refl _, leaves w.outside⟩

theorem tryOutside {work : StateM Outside (Except Fault α)} (leaves : Leaves (standing setup) work) :
    Idle setup (Work.tryOutside work) :=
  fun w => ⟨rfl, rfl, rfl, fun _ => rfl, Nat.le_refl _, leaves w.outside⟩

theorem mapM {work : α → Work β} (each : ∀ a, Idle setup (work a)) (items : List α) : Idle setup (items.mapM work) := by
  induction items with
  | nil => exact .pure []
  | cons a rest ih =>
    rw [List.mapM_cons]
    exact (each a).bind fun b => ih.bind fun last => .pure (b :: last)

theorem filterM {test : α → Work Bool} (each : ∀ a, Idle setup (test a)) (items : List α) :
    Idle setup (items.filterM test) := by
  have kept : ∀ items taken, Idle setup (List.filterAuxM test items taken) := by
    intro items
    induction items with
    | nil => exact fun taken => pure taken
    | cons a rest ih => exact fun taken => (each a).bind fun _ => ih _
  exact (kept items []).bind fun taken => pure taken.reverse

theorem guarded {c : Except Fault Documents.Command} (query : ∀ named, c = .ok named → isQuery named = true)
    (read : Documents.Reply → α) (fallback : α) :
    Idle setup (Work.onOutside (Documents.guarded setup c read fallback)) := by
  have attempted : Leaves (standing setup) (attempt c) := by
    cases c with
    | ok named => exact query_leaves (query named rfl)
    | error fault => exact .pure _
  apply onOutside
  exact (callVia_leaves (standing_innermost.circuits circuit) attempted).bind fun result => .pure _

end Idle

/-! What is looked up, in either store. -/

section
variable (stored : setup.hasDatabase = true)
include stored

theorem freshId_idle : Idle setup Work.freshId := by
  intro w
  refine ⟨rfl, rfl, rfl, fun inProcess => ?_, Nat.le_succ _, rfl⟩
  rw [stored] at inProcess
  cases inProcess

theorem ofDocument_idle (document : Fields) : Idle setup (Sessions.ofDocument setup document) := by
  have read : ∀ id, Idle setup (do
      let s ← Work.check (Session.read id setup.now.toUtc document).toExcept
      return some s) := fun id => (Idle.check _).bind fun s => .pure _
  unfold Sessions.ofDocument
  split
  · exact .pure _
  · dsimp only
    split
    · exact read ""
    · exact (freshId_idle stored).bind read

theorem findOne_idle (filter : Filter) (order : Option Order) : Idle setup (Sessions.findOne setup filter order) := by
  apply (Idle.guarded (fun _ same => by cases same; rfl) _ _).bind
  intro documents
  cases documents with
  | nil => exact .pure none
  | cons document rest => exact ofDocument_idle stored document

end

theorem find_idle (address : String) : Idle setup (Store.find setup address) := by
  unfold Store.find
  split
  next stored => exact findOne_idle stored _ _
  · exact .look _

theorem findForFlow_idle (key : SessionKey) : Idle setup (Store.findForFlow setup key) := by
  unfold Store.findForFlow
  split
  next stored => exact findOne_idle stored _ _
  · exact .look _

theorem get_idle (id : String) : Idle setup (Store.get setup id) := by
  unfold Store.get
  split
  next stored => exact findOne_idle stored _ _
  · exact .look _

theorem has_idle (key : SessionKey) : Idle setup (Store.has setup key) := by
  unfold Store.has
  split
  · exact (Idle.guarded (fun _ same => by cases same; rfl) _ _).bind fun n => .pure _
  · exact .look _

theorem due_idle (now : Instant) (limit : Int) : Idle setup (Store.due setup now limit) := by
  unfold Store.due
  split
  next stored =>
    apply (Idle.guarded (fun _ same => by cases same; rfl) _ _).bind
    intro documents
    exact (Idle.mapM (ofDocument_idle stored) documents).bind fun read => .pure _
  · exact .look _

theorem active_idle : Idle setup (Offer.active setup) := by
  unfold Offer.active
  split
  · apply (Idle.guarded (fun _ same => by cases same; rfl) _ _).bind
    intro documents
    exact (Idle.mapM (fun _ => .check _) documents).bind fun read => .pure _
  · exact .look _

theorem flow?_idle (id : String) : Idle setup (Offer.flow? setup id) := by
  unfold Offer.flow?
  split
  · apply (Idle.guarded (fun _ same => by cases same; rfl) _ _).bind
    intro found
    split
    · exact .check _
    · exact .pure none
  · exact .look _

theorem agent?_idle (id : String) : Idle setup (Offer.agent? setup id) := by
  unfold Offer.agent?
  split
  · apply (Idle.guarded (fun _ same => by cases same; rfl) _ _).bind
    intro found
    split
    · split
      · exact .pure none
      · exact (Idle.check _).bind fun a => .pure _
    · exact .pure none
  · exact .look _

theorem chainedFlow?_idle (r : Interpreter.RunResult) : Idle setup (chainedFlow? setup r) := by
  unfold chainedFlow?
  split
  · exact (flow?_idle _).bind fun _ => .pure _
  · exact .pure _

theorem priorFlows_idle (address : String) (flows : List Flow) : Idle setup (priorFlows setup address flows) :=
  (Idle.filterM (fun _ => has_idle _) _).bind fun _ => .pure _

theorem waitingIn?_idle (s : Session) : Idle setup (waitingIn? setup s) := by
  apply (flow?_idle _).bind
  intro found
  cases found <;> exact .pure _

theorem ownerOf_idle (s : Session) : Idle setup (ownerOf setup s) := by
  unfold ownerOf
  split
  · exact agent?_idle _
  · exact .pure none

theorem runReply_idle (f : Flow) (s : Session) (e : Event) : Idle setup (runReply setup f s e) := by
  apply (Idle.check _).bind
  intro resolution
  split
  · exact .pure _
  · apply (Idle.check _).bind
    intro options
    exact (Idle.check _).bind fun now => (Idle.running _).bind fun r => .pure _

theorem deliver_idle (o : Outcome) : Idle setup (deliver setup o) := by
  unfold deliver
  dsimp only
  split
  · exact fun _ => ⟨rfl, rfl, rfl, fun _ => rfl, Nat.le_refl _, rfl⟩
  · exact (Idle.onOutside (standing_innermost.dispatchAll o.actions)).bind fun _ => .pure _

end Chatflow.Proofs.IdleWork
