import Chatflow.Proofs.BreakerTraffic
import Chatflow.Proofs.LastingRequests
import Chatflow.Proofs.Readings

/-! Deliveries that come more than once. Each is marked in the cache under the address and the id it came with before any
work on it begins, and the mark stays until its time is up, however that work ends and whatever else is asked of the
service. -/

namespace Chatflow.Proofs.RepeatedDeliveries
open Cache Cache.Server ClosedCircuit Conversation Documents OutsideWork IdleWork LastingInvariants LastingRequests
  ReachableStates Readings WorkLogic

variable {α : Type} {setup : Setup} {inv : World → Prop} {w after : World} {now later : Reading} {ttl : Int}

/-! What is known of deliveries, which nothing touches but the deliveries themselves. -/

/-- Whether the cache can be reached, what it holds of each delivery, and the breaker that guards it. -/
def memory (setup : Setup) (o : Outside) : Bool × (String → List (Slot Reading)) × Breaker Reading :=
  let standing := standing setup o
  (standing.cacheDown, standing.remembered, standing.dedupeBreaker)

/-- An invariant that is told from what is known of deliveries. -/
def Recollects (setup : Setup) (inv : World → Prop) : Prop :=
  ∀ {w after : World}, memory setup after.outside = memory setup w.outside → inv w → inv after

theorem guarded_leaves (c : Except Fault Documents.Command) (read : Documents.Reply → α) (fallback : α) :
    Leaves (memory setup) (guarded setup c read fallback) := by
  have concealed : Conceals setup (memory setup) circuit.key := by
    intro c about
    exact (standing_conceals (circuitKey_ne circuit) c about).through fun standing =>
      (standing.cacheDown, standing.remembered, standing.dedupeBreaker)
  have attempted : Leaves (memory setup) (attempt c) := by
    cases c with
    | ok named => exact fun _ => rfl
    | error fault => exact .pure _
  exact (callVia_leaves concealed attempted).bind fun result => .pure _

section
variable (recollects : Recollects setup inv)
include recollects

theorem Recollects.within {work : Work α} (within : ∀ w, (work w).2.outside = w.outside) : Preserves inv work :=
  fun w holds _ => ⟨recollects (by rw [within]) holds, fun _ _ => trivial⟩

theorem Recollects.beginsWithin {β : Type} {work : Work α} {next : α → Work β} (within : ∀ w, (work w).2.outside = w.outside)
    (rest : ∀ a, Preserves inv (next a)) : Preserves inv (work >>= next) :=
  (recollects.within within).bind rest

theorem Recollects.leaves {work : StateM Outside α} (leaves : Leaves (memory setup) work) :
    Preserves inv (Work.onOutside work) :=
  fun w holds _ => ⟨recollects (leaves w.outside) holds, fun _ _ => trivial⟩

theorem Recollects.commanded (c : Documents.Command) : Preserves inv (Work.tryOutside (command c)) := by
  intro w holds _
  have same : memory setup (Work.tryOutside (command c) w).2.outside = memory setup w.outside := rfl
  exact ⟨recollects same holds, fun _ _ => trivial⟩

theorem Recollects.unmoved (unmoved : Unmoved setup w after) (holds : inv w) : inv after := by
  refine recollects ?_ holds
  unfold memory
  rw [unmoved.standing]

theorem create_recollects (key : SessionKey) (vars : Fields) (deviceId : Option String) :
    Preserves inv (Store.create setup key vars deviceId) := by
  unfold Store.create
  split
  · apply recollects.beginsWithin fun _ => rfl
    intro id
    apply recollects.beginsWithin fun _ => rfl
    intro now
    apply (recollects.commanded _).bind
    intro _
    exact (recollects.commanded _).bind fun _ => .done
  · apply recollects.beginsWithin fun _ => rfl
    intro id
    apply recollects.beginsWithin fun _ => rfl
    intro now
    exact recollects.beginsWithin (fun _ => rfl) fun _ => .done

theorem swap_recollects (id : String) (expected : Option String) (c : Change) :
    Preserves inv (Store.swap setup id expected c) := by
  unfold Store.swap
  split
  · apply recollects.beginsWithin fun _ => rfl
    intro now
    exact (recollects.leaves (guarded_leaves _ _ _)).bind fun n => .done
  · have interfered : Preserves inv (Store.interfere setup id) := by
      unfold Store.interfere
      apply recollects.beginsWithin fun _ => rfl
      intro write
      apply recollects.beginsWithin fun _ => rfl
      intro _
      cases write with
      | none => exact .done
      | some write =>
        exact recollects.beginsWithin (fun _ => rfl) fun now => recollects.within fun _ => rfl
    apply interfered.bind
    intro _
    apply recollects.beginsWithin fun _ => rfl
    intro stands
    split
    · exact .done
    · exact recollects.beginsWithin (fun _ => rfl) fun now => recollects.within fun _ => rfl

theorem abandonAll_recollects (address : String) : Preserves inv (Store.abandonAll setup address) := by
  unfold Store.abandonAll
  split
  · exact recollects.leaves (guarded_leaves _ _ _)
  · apply recollects.beginsWithin fun _ => rfl
    intro opened
    split
    · exact recollects.beginsWithin (fun _ => rfl) fun now => recollects.within fun _ => rfl
    · exact .done

theorem reset_recollects (address : String) : Preserves inv (Store.reset setup address) := by
  unfold Store.reset
  split
  · exact recollects.leaves (guarded_leaves _ _ _)
  · exact recollects.within fun _ => rfl

theorem Recollects.finds {work : Work (Option Session)} (idle : Idle setup work) :
    Finds (Named (fun _ => True) fun _ => True) inv work :=
  fun w holds _ => ⟨recollects.unmoved (idle w) holds, fun _ _ _ _ => ⟨trivial, trivial⟩⟩

theorem Recollects.tolerant : Tolerant setup (fun _ => True) (fun _ => True) inv where
  unmoved := recollects.unmoved
  create key vars deviceId _ := (create_recollects recollects key vars deviceId).weaken (fun _ _ _ => trivial)
    fun _ _ _ _ => trivial
  swap id _ expected change _ := swap_recollects recollects id expected change
  get id _ := recollects.finds (get_idle id)

theorem Recollects.served (contact : String) (resets : Prop) :
    Served setup (Named (fun _ => True) fun _ => True) inv contact resets :=
  ⟨recollects.finds (find_idle contact), abandonAll_recollects recollects contact,
    fun _ => reset_recollects recollects contact⟩

theorem Recollects.abiding (seen : ∀ e, Preserves inv (wasSeen setup e)) :
    Abiding setup (fun _ => True) (fun _ _ => True) (Named (fun _ => True) fun _ => True) inv where
  lasting := recollects.tolerant.lasting
  seen := seen
  find contact := recollects.finds (find_idle contact)
  findForFlow key := recollects.finds (findForFlow_idle key)
  abandonAll := abandonAll_recollects recollects
  reset := reset_recollects recollects
  addressed _ _ := trivial

end

/-! Marks of deliveries in the cache. -/

section
variable {slots : List (Slot Reading)} {slot mark : Slot Reading} {key : String}

theorem mem_live : slot ∈ live now slots key ↔
    slot ∈ slots ∧ slot.key = key ∧ ∀ time, slot.expires = some time → Clock.reached time now = false := by
  unfold live prune
  cases kept : slot.expires <;> simp [List.mem_filter, kept]

theorem live_later {time : Reading} (held : slot ∈ live now slots key) (expires : slot.expires = some time)
    (lasts : Clock.reached time later = false) : slot ∈ live later slots key := by
  obtain ⟨stored, named, _⟩ := mem_live.mp held
  refine mem_live.mpr ⟨stored, named, fun other same => ?_⟩
  rw [expires] at same
  cases same
  exact lasts

/-- What is left when something is marked, unless it is marked already. -/
def marked (now : Reading) (slots : List (Slot Reading)) (mark : Slot Reading) : List (Slot Reading) :=
  if (slot? (prune slots now) mark.key).isSome then prune slots now else store (prune slots now) mark

theorem live_marked (held : slot ∈ live now slots key) : slot ∈ live now (marked now slots mark) key := by
  rw [← live_prune] at held
  unfold marked
  split
  · exact held
  next fresh =>
    obtain ⟨stored, named, lasts⟩ := mem_live.mp held
    refine mem_live.mpr ⟨List.mem_append_left _ (List.mem_filter.mpr ⟨stored, ?_⟩), named, lasts⟩
    have absent : slot? (prune slots now) mark.key = none := by simpa using fresh
    simpa [slot?] using List.find?_eq_none.mp absent slot stored

theorem own_marked {time : Reading} (fresh : (slot? (prune slots now) mark.key).isSome = false)
    (expires : mark.expires = some time) (lasts : Clock.reached time now = false) :
    mark ∈ live now (marked now slots mark) mark.key := by
  unfold marked
  rw [fresh]
  refine mem_live.mpr ⟨List.mem_append_right _ (List.mem_singleton_self mark), rfl, fun other same => ?_⟩
  rw [expires] at same
  cases same
  exact lasts

theorem isSome_of_live (held : slot ∈ live now slots key) : (slot? (prune slots now) key).isSome = true := by
  rw [← live_prune] at held
  obtain ⟨stored, named, _⟩ := mem_live.mp held
  unfold slot?
  rw [List.find?_isSome]
  exact ⟨slot, stored, beq_iff_eq.mpr named⟩

end

/-- The cache can be reached, and the breaker lets questions through. -/
structure Working (w : World) : Prop where
  up : w.outside.cache.isDown = false
  admits : w.outside.dedupeBreaker.state ≠ .opened

theorem succeeded_admits {b : Breaker Reading} (admits : b.state ≠ .opened) (now : Reading) :
    (b.succeeded now).state ≠ .opened := by
  unfold Breaker.succeeded
  split
  · dsimp only
    split
    · rw [BreakerTraffic.enter_state]
      decide
    · exact admits
  · exact admits

theorem call_admitted {o : Outside} (admits : o.dedupeBreaker.state ≠ .opened) (service : String) (now : Reading)
    (work : StateM Outside (Except Fault α)) :
    Breaker.call dedupeBreaker service now work o =
      ((work o).1, { (work o).2 with dedupeBreaker := (work o).2.dedupeBreaker.finish now (work o).1.isOk }) := by
  have admitted : o.dedupeBreaker.letThrough now = some o.dedupeBreaker := if_pos admits
  simp only [Breaker.call, bind, StateT.bind, get, getThe, MonadStateOf.get, StateT.get, pure, dedupeBreaker, admitted]
  rfl

def markOf (setup : Setup) (delivery : String) : Slot Reading :=
  ⟨deliveryKey delivery, .text "1", some (Clock.after setup.reading (.whole setup.settings.dedupeSeconds))⟩

theorem perform_mark {cache : Cache.Server Reading} (up : cache.isDown = false) (delivery : String) (seconds : Amount) :
    Cache.Server.perform now (.set (deliveryKey delivery) "1" seconds true) cache =
      (.ok (.flag !(slot? (prune cache.slots now) (deliveryKey delivery)).isSome),
        { cache with
          slots := marked now cache.slots ⟨deliveryKey delivery, .text "1", some (Clock.after now seconds)⟩
          record := cache.record ++ [.set (deliveryKey delivery) "1" seconds true] }) := by
  unfold Cache.Server.perform marked
  dsimp only
  rw [up]
  simp only [execute, Bool.true_and, Bool.false_eq_true, if_false]
  cases (slot? (prune cache.slots now) (deliveryKey delivery)).isSome <;> rfl

/-- A delivery was seen before if it is still marked. Otherwise it is marked now. -/
theorem wasSeen_apply (cached : setup.hasCache = true) (working : Working w) {e : Event} {id : String}
    (named : filled? e.messageId = some id) : ∃ cache breaker,
    wasSeen setup e w =
      (.ok (slot? (prune w.outside.cache.slots setup.reading) (deliveryKey (e.address ++ ":" ++ id))).isSome,
        { w with outside := { w.outside with cache := cache, dedupeBreaker := breaker } }) ∧
    cache.isDown = false ∧ breaker.state ≠ .opened ∧
    cache.slots = marked setup.reading w.outside.cache.slots (markOf setup (e.address ++ ":" ++ id)) := by
  have linked : setup.link = some (connected setup) := by
    unfold Setup.link
    rw [if_pos cached]
  let delivery := e.address ++ ":" ++ id
  let left : Cache.Server Reading := { w.outside.cache with
    slots := marked setup.reading w.outside.cache.slots (markOf setup delivery)
    record := w.outside.cache.record ++
      [.set (deliveryKey delivery) "1" (.whole setup.settings.dedupeSeconds) true] }
  refine ⟨left, w.outside.dedupeBreaker.succeeded setup.reading, ?_, working.up, succeeded_admits working.admits _, rfl⟩
  unfold wasSeen
  rw [named]
  dsimp only
  unfold Work.onOutside isDuplicate
  rw [linked]
  simp only [bind, StateT.bind, call_admitted working.admits, perform_mark working.up]
  rw [Bool.not_not]
  rfl

/-! What is promised of deliveries: that each is remembered until some time. -/

/-- The cache works, and all deliveries are marked in it that are promised to be remembered for longer. -/
structure Remembers (promised : String → Reading → Prop) (now : Reading) (w : World) : Prop where
  working : Working w
  marks : ∀ delivery time, promised delivery time → Clock.reached time now = false →
    ∃ slot ∈ live now w.outside.cache.slots (deliveryKey delivery), slot.expires = some time

section
variable {promised : String → Reading → Prop}

theorem remembers_recollects : Recollects setup (Remembers promised setup.reading) := by
  intro w after same remembers
  have up : after.outside.cache.isDown = w.outside.cache.isDown := congrArg Prod.fst same
  have breaker : after.outside.dedupeBreaker = w.outside.dedupeBreaker := congrArg (fun memory => memory.2.2) same
  refine ⟨⟨up.trans remembers.working.up, by rw [breaker]; exact remembers.working.admits⟩, ?_⟩
  intro delivery time promise lasts
  have kept : live setup.reading after.outside.cache.slots (deliveryKey delivery) =
      live setup.reading w.outside.cache.slots (deliveryKey delivery) :=
    congrFun (congrArg (fun memory => memory.2.1) same) delivery
  rw [kept]
  exact remembers.marks delivery time promise lasts

theorem Remembers.onward (remembers : Remembers promised now w) (ordered : now ≤ later) : Remembers promised later w := by
  refine ⟨remembers.working, fun delivery time promise lasts => ?_⟩
  have lasted : Clock.reached time now = false := by
    apply Bool.eq_false_iff.mpr
    intro expired
    rw [reached_mono expired ordered] at lasts
    cases lasts
  obtain ⟨slot, held, expires⟩ := remembers.marks delivery time promise lasted
  exact ⟨slot, live_later held expires lasts, expires⟩

theorem wasSeen_unnamed {e : Event} (unnamed : filled? e.messageId = none) (w : World) :
    wasSeen setup e w = (.ok false, w) := by
  unfold wasSeen
  rw [unnamed]
  rfl

theorem wasSeen_remembers (cached : setup.hasCache = true) (e : Event) :
    Preserves (Remembers promised setup.reading) (wasSeen setup e) := by
  intro w remembers _
  refine ⟨?_, fun _ _ => trivial⟩
  cases named : filled? e.messageId with
  | none =>
    rw [wasSeen_unnamed named]
    exact remembers
  | some id =>
    obtain ⟨cache, breaker, looked, up, admits, slots⟩ := wasSeen_apply cached remembers.working named
    rw [looked]
    refine ⟨⟨up, admits⟩, fun delivery time promise lasts => ?_⟩
    obtain ⟨slot, held, expires⟩ := remembers.marks delivery time promise lasts
    refine ⟨slot, ?_, expires⟩
    rw [slots]
    exact live_marked held

/-- Whatever is asked of the service, what is promised of earlier deliveries is kept. -/
theorem remembers_abiding (cached : setup.hasCache = true) :
    Abiding setup (fun _ => True) (fun _ _ => True) (Named (fun _ => True) fun _ => True)
      (Remembers promised setup.reading) :=
  remembers_recollects.abiding (wasSeen_remembers cached)

end

/-! Deliveries one after another. -/

/-- A delivery, and the world it came to. -/
structure Delivery where
  setup : Setup
  raw : Event
  before : World

namespace Delivery
variable {a b d : Delivery}

def left (d : Delivery) : World := (handleEvent d.setup d.raw d.before).2

/-- What is worked on, under the address as it is stored. -/
def event (d : Delivery) : Event := { d.raw with address := Phone.normalize d.raw.address }

/-- What the delivery is remembered by, if it came with an id. -/
def mark? (d : Delivery) : Option String := (filled? d.raw.messageId).map fun id => d.event.address ++ ":" ++ id

def expiry (d : Delivery) : Reading := Clock.after d.setup.reading (.whole d.setup.settings.dedupeSeconds)

/-- It is not held for one that was seen before. -/
def GotPast (d : Delivery) : Prop :=
  d.event.address ≠ "" ∧ (wasSeen d.setup d.event d.before).1 = .ok false

/-- It is answered to be a duplicate, and nothing but the cache and its breaker may be touched. -/
def Rejected (d : Delivery) : Prop := ∃ cache breaker, handleEvent d.setup d.raw d.before = (.ok ⟨.duplicate, [], []⟩,
  { d.before with outside := { d.before.outside with cache := cache, dedupeBreaker := breaker } })

/-- Two deliveries of one message of one contact, however the address is written. -/
def Repeats (a b : Delivery) : Prop :=
  a.event.address = b.event.address ∧ ∃ id, filled? a.raw.messageId = some id ∧ filled? b.raw.messageId = some id

/-- The second comes no sooner than deliveries are remembered for after the first. -/
def Apart (a b : Delivery) : Prop := Clock.reached a.expiry b.setup.reading = true

theorem Repeats.marks (repeats : a.Repeats b) : ∃ mark, a.mark? = some mark ∧ b.mark? = some mark := by
  obtain ⟨address, id, first, second⟩ := repeats
  refine ⟨a.event.address ++ ":" ++ id, ?_, ?_⟩
  · rw [mark?, first]
    rfl
  · rw [mark?, second, address]
    rfl

theorem handled (addressed : d.event.address ≠ "") : handleEvent d.setup d.raw d.before =
    (wasSeen d.setup d.event >>= fun seen =>
      if seen then pure ⟨.duplicate, [], []⟩ else handleNew d.setup d.event) d.before := by
  have named : ¬ Phone.normalize d.raw.address = "" := addressed
  unfold handleEvent
  rw [if_neg named, handleFor_eq]
  rfl

theorem looked (cached : d.setup.hasCache = true) (working : Working d.before) {mark : String}
    (named : d.mark? = some mark) : ∃ cache breaker,
    wasSeen d.setup d.event d.before =
      (.ok (slot? (prune d.before.outside.cache.slots d.setup.reading) (deliveryKey mark)).isSome,
        { d.before with outside := { d.before.outside with cache := cache, dedupeBreaker := breaker } }) ∧
    cache.isDown = false ∧ breaker.state ≠ .opened ∧
    cache.slots = marked d.setup.reading d.before.outside.cache.slots (markOf d.setup mark) := by
  obtain ⟨id, found, rfl⟩ := Option.map_eq_some_iff.mp named
  exact wasSeen_apply cached working found

theorem gotPast_or_rejected (cached : d.setup.hasCache = true) (working : Working d.before)
    (addressed : d.event.address ≠ "") : d.GotPast ∨ d.Rejected := by
  cases named : d.mark? with
  | none =>
    have unnamed : filled? d.event.messageId = none := Option.map_eq_none_iff.mp named
    exact Or.inl ⟨addressed, by rw [wasSeen_unnamed unnamed]⟩
  | some mark =>
    obtain ⟨cache, breaker, looked, _⟩ := looked cached working named
    cases seen : (slot? (prune d.before.outside.cache.slots d.setup.reading) (deliveryKey mark)).isSome with
    | false => exact Or.inl ⟨addressed, by rw [looked, seen]⟩
    | true =>
      refine Or.inr ⟨cache, breaker, ?_⟩
      rw [handled addressed, bind_apply, looked, seen]
      rfl

/-- One that got past is remembered, whatever becomes of it. -/
theorem GotPast.remembered (past : d.GotPast) (cached : d.setup.hasCache = true) (working : Working d.before)
    {mark : String} (named : d.mark? = some mark) :
    Remembers (fun delivery time => delivery = mark ∧ time = d.expiry) d.setup.reading d.left := by
  obtain ⟨addressed, unseen⟩ := past
  obtain ⟨cache, breaker, looked, up, admits, slots⟩ := looked cached working named
  rw [looked] at unseen
  have fresh := Except.ok.inj unseen
  rw [left, handled addressed, bind_apply, looked, fresh]
  -- The mark is there before any work on the delivery begins, and no such work touches it.
  refine (handleNew_lasts remembers_recollects.tolerant.lasting trivial (remembers_recollects.served _ _) _ ?_ trivial).1
  refine ⟨⟨up, admits⟩, ?_⟩
  rintro _ _ ⟨rfl, rfl⟩ lasts
  rw [slots]
  exact ⟨markOf d.setup _, own_marked fresh rfl lasts, rfl⟩

end Delivery

/-- Deliveries in the order they came in, with the present reading of the clock and the world they leave behind. In between
the service may be asked for anything, by other deliveries too, and anything else may change but for marks. The cache
works, and no delivery comes before the one it follows. -/
inductive History : List Delivery → Reading → World → Prop where
  | begun {now : Reading} {w : World} (working : Working w) : History [] now w
  | delivered {ds : List Delivery} {now : Reading} {d : Delivery} (history : History ds now d.before)
      (cached : d.setup.hasCache = true) (ordered : now ≤ d.setup.reading) :
      History (ds ++ [d]) d.setup.reading d.left
  | asked {ds : List Delivery} {now : Reading} {w : World} (history : History ds now w) {setup : Setup}
      (cached : setup.hasCache = true) (ordered : now ≤ setup.reading) (a : Asking) : History ds setup.reading (a.leave setup w)
  | beside {ds : List Delivery} {now : Reading} {w after : World} (history : History ds now w) (working : Working after)
      (kept : ∀ delivery, ∀ slot ∈ live now w.outside.cache.slots (deliveryKey delivery),
        slot ∈ live now after.outside.cache.slots (deliveryKey delivery)) : History ds now after

/-- What is promised of the deliveries that got past. -/
def Promised (ds : List Delivery) (delivery : String) (time : Reading) : Prop :=
  ∃ d ∈ ds, d.GotPast ∧ d.mark? = some delivery ∧ d.expiry = time

namespace History
variable {ds : List Delivery}

theorem remembers (history : History ds now w) : Remembers (Promised ds) now w := by
  induction history with
  | begun working =>
    refine ⟨working, ?_⟩
    rintro delivery time ⟨d, impossible, _⟩
    cases impossible
  | @delivered ds now d history cached ordered before =>
    have present := before.onward ordered
    have former := ((remembers_abiding cached).handleEvent d.raw d.before present trivial).1
    refine ⟨former.working, ?_⟩
    rintro delivery time ⟨other, member, past, named, rfl⟩ lasts
    rcases List.mem_append.mp member with earlier | last
    · exact former.marks delivery other.expiry ⟨other, earlier, past, named, rfl⟩ lasts
    · rw [List.mem_singleton.mp last] at past named lasts ⊢
      exact (past.remembered cached present.working named).marks delivery _ ⟨rfl, rfl⟩ lasts
  | asked history cached ordered a before =>
    exact (remembers_abiding cached).asking (fun _ _ => trivial) (before.onward ordered)
  | beside history working kept before =>
    refine ⟨working, fun delivery time promise lasts => ?_⟩
    obtain ⟨slot, held, expires⟩ := before.marks delivery time promise lasts
    exact ⟨slot, kept delivery slot held, expires⟩

theorem apart (history : History ds now w) :
    ds.Pairwise fun a b => a.Repeats b → a.GotPast → b.GotPast → a.Apart b := by
  induction history with
  | begun => exact .nil
  | @delivered ds now d history cached ordered before =>
    refine List.pairwise_append.mpr ⟨before, List.pairwise_singleton _ _, ?_⟩
    intro a member b last repeats first second
    cases List.mem_singleton.mp last
    have present := history.remembers.onward ordered
    obtain ⟨mark, own, named⟩ := repeats.marks
    -- As long as the time of the first is not up its mark is found, and the second does not get past.
    apply Bool.of_not_eq_false
    intro lasts
    obtain ⟨slot, held, _⟩ := present.marks mark a.expiry ⟨a, member, first, own, rfl⟩ lasts
    obtain ⟨cache, breaker, looked, _⟩ := Delivery.looked cached present.working named
    have unseen := second.2
    rw [looked] at unseen
    have fresh := Except.ok.inj unseen
    rw [isSome_of_live held] at fresh
    cases fresh
  | asked _ _ _ _ before | beside _ _ _ before => exact before

theorem answered (history : History ds now w) : ∀ d ∈ ds, d.event.address ≠ "" → d.GotPast ∨ d.Rejected := by
  induction history with
  | begun => exact fun _ impossible => by cases impossible
  | @delivered ds now d history cached ordered before =>
    intro other member addressed
    rcases List.mem_append.mp member with earlier | last
    · exact before other earlier addressed
    · cases List.mem_singleton.mp last
      exact Delivery.gotPast_or_rejected cached history.remembers.working addressed
  | asked _ _ _ _ before | beside _ _ _ before => exact before

end History

/-- Of the deliveries of one message of one contact any two that get past come no sooner after each other than deliveries
are remembered for. All other deliveries are answered to be duplicates, and nothing is stored, asked for or sent. -/
theorem repeated_deliveries_rejected {ds : List Delivery} (history : History ds now w) :
    (ds.Pairwise fun a b => a.Repeats b → a.GotPast → b.GotPast → a.Apart b) ∧
    ∀ d ∈ ds, d.event.address ≠ "" → d.GotPast ∨ d.Rejected :=
  ⟨history.apart, history.answered⟩

def greetingFrom (address : String) : Event := { address := address, text := "Hi", messageId := some "wamid.1" }

def cachedAt (now : Instant) : Setup := { now := now, settings := { zone := "UTC" }, hasCache := true }

def firstDelivery : Delivery := ⟨cachedAt ⟨5, 0⟩, greetingFrom "5215512345678", {}⟩

def secondDelivery : Delivery :=
  ⟨cachedAt ⟨9, 0⟩, greetingFrom "+52 1 (55) 1234-5678", firstDelivery.left⟩

theorem second_delivery_rejected :
    firstDelivery.Repeats secondDelivery ∧ firstDelivery.GotPast ∧ secondDelivery.Rejected := by
  have repeats : firstDelivery.Repeats secondDelivery := ⟨by decide, "wamid.1", rfl, rfl⟩
  have past : firstDelivery.GotPast := ⟨by decide, rfl⟩
  have soon : ¬ firstDelivery.Apart secondDelivery := by
    unfold Delivery.Apart
    decide +kernel
  have started : History [] firstDelivery.setup.reading firstDelivery.before := .begun ⟨rfl, by decide⟩
  have once : History [firstDelivery] firstDelivery.setup.reading secondDelivery.before :=
    started.delivered rfl (by decide +kernel)
  have twice : History [firstDelivery, secondDelivery] secondDelivery.setup.reading secondDelivery.left :=
    once.delivered rfl (by decide +kernel)
  obtain ⟨apart, answered⟩ := repeated_deliveries_rejected twice
  refine ⟨repeats, past, ?_⟩
  rcases answered secondDelivery (List.mem_cons_of_mem _ (List.mem_singleton_self _)) (by decide) with again | rejected
  · exact absurd (List.rel_of_pairwise_cons apart (List.mem_singleton_self _) repeats past again) soon
  · exact rejected

end Chatflow.Proofs.RepeatedDeliveries
