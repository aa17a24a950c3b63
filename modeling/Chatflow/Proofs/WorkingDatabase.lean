import Chatflow.Proofs.ClosedCircuit
import Chatflow.Proofs.SessionDocuments
import Mathlib.Data.List.Basic

/-! The sessions in a document database that works: what each operation answers, and what it leaves, said of the
sessions whose documents are stored. -/

namespace Chatflow.Proofs.WorkingDatabase
open Documents Documents.Sessions SessionTable ClosedCircuit SessionDocuments WorkLogic

variable {α β : Type} (setup : Setup) {stored found left : List Session} {filter : Filter} {p : Session → Bool}
  {w : World} {next later : Nat}

section
variable (passes : ∀ s, Filter.passes (toDocument s) filter = .ok (p s))
include passes

theorem select_documents (stored : List Session) :
    select filter (stored.map toDocument) = .ok ((stored.filter p).map toDocument) := by
  induction stored with
  | nil => rfl
  | cons s rest ih =>
    rw [List.map_cons, select, passes, ih, List.filter_cons]
    cases p s <;> rfl

/-- To revise documents is to revise sessions. To revise the first one only makes no difference if no two are meant. -/
theorem revise_documents {many : Bool} {f : Fields → Option Fields} {g : Session → Option Session}
    (revised : ∀ s, f (toDocument s) = (g s).map toDocument)
    (enough : many = true ∨ stored.Pairwise fun a b => p a = true → p b = false) :
    revise filter many f (stored.map toDocument) =
      .ok (stored.countP p, (stored.filterMap fun s => if p s then g s else some s).map toDocument) := by
  induction stored with
  | nil => rfl
  | cons s rest ih =>
    have ih := ih (enough.imp id fun apart => (List.pairwise_cons.mp apart).2)
    rw [List.map_cons, revise, passes]
    cases meant : p s with
    | false =>
      simp only [bind, Except.bind, pure, Except.pure, ih, Bool.false_eq_true, if_false, List.filterMap_cons, meant,
        List.map_cons, List.countP_cons, Nat.add_zero]
    | true =>
      cases many with
      | true =>
        simp only [bind, Except.bind, pure, Except.pure, ih, if_true, revised, List.countP_cons, meant, List.filterMap_cons]
        cases g s <;> rfl
      | false =>
        -- The rest is not looked at any more, and would stay as it is if it were.
        have none : ∀ other ∈ rest, p other = false := fun other member =>
          (List.pairwise_cons.mp (enough.resolve_left (by decide))).1 other member meant
        have count : rest.countP p = 0 := List.countP_eq_zero.mpr fun other member => by simp [none other member]
        have same : (rest.filterMap fun s => if p s then g s else some s) = rest := by
          rw [← @List.filterMap_some _ rest, List.filterMap_filterMap]
          exact List.filterMap_congr fun other member => by simp [none other member]
        simp only [bind, Except.bind, pure, Except.pure, if_true, Bool.false_eq_true, if_false, revised,
          List.countP_cons, meant, List.filterMap_cons, count, same]
        cases g s <;> rfl

end

theorem mapM_eq_map {ε : Type} {f : α → Except ε β} {g : α → β} {items : List α}
    (each : ∀ a ∈ items, f a = .ok (g a)) : items.mapM f = .ok (items.map g) := by
  induction items with
  | nil => rfl
  | cons a rest ih =>
    rw [List.mapM_cons, each a List.mem_cons_self, ih fun b member => each b (List.mem_cons_of_mem _ member)]
    rfl

/-- Documents with a moment in a field are put in order as the sessions are by that moment. -/
theorem sort_documents {order : Order} {time : Session → Int}
    (moments : ∀ s ∈ found, SortKey.ofValue? (fieldOf (toDocument s) order.field) = some (.moment (time s))) :
    sort order (found.map toDocument) = .ok ((found.mergeSort fun a b =>
      if order.descending then time b ≤ time a else time a ≤ time b).map toDocument) := by
  unfold sort
  split
  -- Fewer than two documents are not looked into, but are in order already.
  next short =>
    have same : (found.mergeSort fun a b =>
        if order.descending then time b ≤ time a else time a ≤ time b) = found := by
      apply List.mergeSort_of_pairwise
      rw [List.length_map] at short
      cases found with
      | nil => exact .nil
      | cons s rest =>
        cases List.eq_nil_of_length_eq_zero (Nat.lt_one_iff.mp (Nat.lt_of_succ_lt_succ short))
        exact List.pairwise_singleton _ s
    rw [same]
    rfl
  next long =>
    let key (s : Session) : SortKey × Fields := (.moment (time s), toDocument s)
    have sorted : (found.map key).mergeSort (fun a b =>
        if order.descending then b.1.atMost a.1 else a.1.atMost b.1) = (found.mergeSort fun a b =>
          if order.descending then time b ≤ time a else time a ≤ time b).map key := by
      refine (List.map_mergeSort fun a _ b _ => ?_).symm
      cases order.descending <;> simp [key, SortKey.atMost]
    have comparable : ((found.map key).map (·.1)).all fun a => ((found.map key).map (·.1)).all a.comparable := by
      simp [key, SortKey.comparable]
    rw [List.mapM_map, mapM_eq_map (g := key) fun s member => by simp only [Function.comp_apply, moments s member, key]]
    simp only [bind, Except.bind, comparable, if_true, sorted]
    rw [List.map_map]
    rfl

theorem documentsOf_setDocuments (name : String) (documents : List Fields) (collections : Collections) :
    documentsOf (setDocuments name documents collections) name = documents := by
  induction collections with
  | nil => simp [setDocuments, documentsOf]
  | cons first rest ih =>
    by_cases own : first.1 = name
    · simp [setDocuments, documentsOf, own]
    · simpa [setDocuments, documentsOf, own] using ih

/-- The database can be reached, and its circuit was never opened. -/
structure Working (o : Outside) : Prop where
  up : o.database.isDown = false
  closed : Closed o.cache.slots

/-- A database at work which holds the documents of these sessions, and the number that the next session is given. -/
structure Holds (stored : List Session) (next : Nat) (w : World) : Prop where
  working : Working w.outside
  documents : documentsOf w.outside.database.collections collection = stored.map toDocument
  plain : ∀ s ∈ stored, s.loose = []
  counter : w.nextSession = next

/-- Work that comes to an answer and leaves the database at work, holding these sessions. -/
def Answers (work : Work α) (w : World) (a : α) (left : List Session) (later : Nat) : Prop :=
  ∃ after, work w = (.ok a, after) ∧ Holds left later after

theorem Answers.bind {work : Work α} {rest : α → Work β} {a : α} {b : β} {middle : List Session} {between : Nat}
    (first : Answers work w a middle between)
    (last : ∀ after, Holds middle between after → Answers (rest a) after b left later) :
    Answers (work >>= rest) w b left later := by
  obtain ⟨after, done, holds⟩ := first
  obtain ⟨final, ended, held⟩ := last after holds
  exact ⟨final, by rw [bind_apply, done]; exact ended, held⟩

theorem Answers.map {work : Work α} {a : α} (answers : Answers work w a left later) (f : α → β) :
    Answers (do return f (← work)) w (f a) left later := by
  obtain ⟨after, done, holds⟩ := answers
  exact ⟨after, by rw [bind_apply, done]; rfl, holds⟩

theorem Holds.pure {a : α} (holds : Holds stored next w) : Answers (Pure.pure a : Work α) w a stored next :=
  ⟨w, rfl, holds⟩

section
variable {c : Documents.Command} {reply : Documents.Reply} {collections : Collections}

/-- The outside once a command has been carried out. -/
def carriedOut (c : Documents.Command) (collections : Collections) (o : Outside) : Outside :=
  { o with database := { o.database with collections := collections, record := o.database.record ++ [c] } }

theorem command_done {o : Outside} (up : o.database.isDown = false)
    (done : Server.execute o.database.collections c = .ok (reply, collections)) :
    command c o = (.ok reply, carriedOut c collections o) := by
  simp only [command, Server.perform, carriedOut, up, Bool.false_and, Bool.false_eq_true, if_false, done]

variable (holds : Holds stored next w) (done : Server.execute w.outside.database.collections c = .ok (reply, collections))
  (documents : documentsOf collections collection = left.map toDocument) (plain : ∀ s ∈ left, s.loose = [])
include holds done documents plain

theorem Holds.command : Answers (Work.tryOutside (command c)) w reply left next := by
  refine ⟨{ w with outside := carriedOut c collections w.outside }, ?_, ?_⟩
  · simp only [Work.tryOutside, command_done holds.working.up done]
  · exact ⟨⟨holds.working.up, holds.working.closed⟩, documents, plain, holds.counter⟩

theorem Holds.guarded (setup : Setup) (read : Documents.Reply → α) (fallback : α) :
    Answers (Work.onOutside (Documents.guarded setup (.ok c) read fallback)) w (read reply) left next := by
  have through (cache : Cache.Server Reading) : attempt (.ok c) { w.outside with cache := cache } =
      (.ok reply, { carriedOut c collections w.outside with cache := cache }) :=
    command_done (o := { w.outside with cache := cache }) holds.working.up done
  obtain ⟨cache, closed, called⟩ := callVia_closed setup holds.working.closed through
  refine ⟨{ w with outside := { carriedOut c collections w.outside with cache := cache } }, ?_, ?_⟩
  · simp only [Work.onOutside, Documents.guarded, if_true, bind, StateT.bind, called]
    rfl
  · exact ⟨⟨holds.working.up, closed⟩, documents, plain, holds.counter⟩

end

theorem findOne_answers (holds : Holds stored next w) (passes : ∀ s, Filter.passes (toDocument s) filter = .ok (p s))
    {order : Option Order} (sorted : sortBy order ((stored.filter p).map toDocument) = .ok (found.map toDocument))
    (plain : ∀ s ∈ found, s.loose = []) : Answers (findOne setup filter order) w found.head? stored next := by
  have done : Server.execute w.outside.database.collections (.findOne collection filter order) =
      .ok (.documents (found.map toDocument).head?.toList, w.outside.database.collections) := by
    simp only [Server.execute, holds.documents, select_documents passes, bind, Except.bind, sorted]
    rfl
  apply (holds.guarded done holds.documents holds.plain setup Reply.documents? []).bind
  intro after held
  cases found with
  | nil => exact held.pure
  | cons s rest => exact ⟨after, ofDocument_toDocument setup (plain s List.mem_cons_self) after, held⟩

/-- What is found without an order is the first session that is looked for. -/
theorem findFirst_answers (holds : Holds stored next w)
    (passes : ∀ s, Filter.passes (toDocument s) filter = .ok (p s)) :
    Answers (findOne setup filter) w (stored.find? p) stored next := by
  rw [← List.head?_filter]
  exact findOne_answers setup holds passes rfl fun s member => holds.plain s (List.mem_filter.mp member).1

theorem get_answers (holds : Holds stored next w) (id : String) :
    Answers (get setup (.str id)) w (stored.find? fun s => s.id == id) stored next :=
  findFirst_answers setup holds fun _ => passes_ofId id

theorem findForFlow_answers (holds : Holds stored next w) (key : SessionKey) :
    Answers (findForFlow setup (.str key.address) (.str key.flowId)) w (stored.find? fun s => s.key == key) stored
      next :=
  findFirst_answers setup holds fun _ => passes_ofKey key

theorem find_answers (holds : Holds stored next w) (address : String) :
    Answers (find setup (.str address)) w
      ((stored.filter fun s => s.address == address && s.isActive).mergeSort fun a b =>
        b.updatedAt.micros ≤ a.updatedAt.micros).head? stored next := by
  apply findOne_answers setup holds fun _ => passes_active address
  · exact @sort_documents _ _ (fun s => s.updatedAt.micros) fun _ _ => rfl
  · intro s member
    exact holds.plain s (List.mem_filter.mp (List.mem_mergeSort.mp member)).1

theorem has_answers (holds : Holds stored next w) (key : SessionKey) :
    Answers (has setup (.str key.address) (.str key.flowId)) w (stored.any fun s => s.key == key) stored next := by
  have passes : ∀ s, Filter.passes (toDocument s) _ = .ok _ := fun _ => passes_ofKey key
  have done : Server.execute w.outside.database.collections
      (.count collection (ofKey (.str key.address) (.str key.flowId)) 1) =
        .ok (.count ((stored.filter fun s => s.key == key).take 1).length, w.outside.database.collections) := by
    simp only [Server.execute, holds.documents, select_documents passes, bind, Except.bind, Int.one_ne_zero, if_false,
      List.length_take, List.length_map]
    rfl
  apply (holds.guarded done holds.documents holds.plain setup Reply.count? 0).bind
  intro after held
  have present : (stored.any fun s => s.key == key) =
      decide (((stored.filter fun s => s.key == key).take 1).length ≠ 0) := by
    rw [Bool.eq_iff_iff, List.any_eq_true, decide_eq_true_iff, ne_eq, List.length_eq_zero_iff, List.take_eq_nil_iff,
      List.filter_eq_nil_iff]
    simp
  rw [present]
  exact held.pure

theorem readAll_answers {documents : List Session} (plain : ∀ s ∈ documents, s.loose = [])
    (holds : Holds stored next w) :
    Answers ((documents.map toDocument).mapM (ofDocument setup)) w (documents.map some) stored next := by
  induction documents with
  | nil => exact holds.pure
  | cons s rest ih =>
    have ih := ih fun other member => plain other (List.mem_cons_of_mem _ member)
    obtain ⟨after, done, held⟩ := ih
    refine ⟨after, ?_, held⟩
    rw [List.map_cons, List.mapM_cons, bind_apply, ofDocument_toDocument setup (plain s List.mem_cons_self)]
    simp only [bind_apply, done]
    rfl

/-- When the wait of an active session is over, for putting sessions in order. -/
def dueMicros (s : Session) : Int := ((dueTime? s).map Instant.micros).getD 0

theorem due_answers (holds : Holds stored next w) (now : Instant) (limit : Int) :
    Answers (due setup now limit) w
      (((stored.filter (isDue now)).mergeSort fun a b => dueMicros a ≤ dueMicros b).take limit.toNat) stored next := by
  let ordered := (stored.filter (isDue now)).mergeSort fun a b => dueMicros a ≤ dueMicros b
  have plain : ∀ s ∈ ordered.take limit.toNat, s.loose = [] := by
    intro s member
    exact holds.plain s (List.mem_filter.mp (List.mem_mergeSort.mp (List.mem_of_mem_take member))).1
  have sorted : sort ⟨"resume_at", false⟩ ((stored.filter (isDue now)).map toDocument) =
      .ok (ordered.map toDocument) := by
    apply @sort_documents _ ⟨"resume_at", false⟩ dueMicros
    intro s member
    have ripe := (List.mem_filter.mp member).2
    change SortKey.ofValue? (timeValue s.resumeAt) = _
    unfold dueMicros
    unfold isDue at ripe
    split at ripe
    next t time =>
      have awaited : s.resumeAt = some t := by
        unfold dueTime? at time
        split at time
        · exact time
        · cases time
      rw [time, awaited]
      rfl
    · cases ripe
  have done : Server.execute w.outside.database.collections (.find collection
      [isOpen, ("resume_at", .reached now)] (some ⟨"resume_at", false⟩) (some limit)) =
        .ok (.documents ((ordered.take limit.toNat).map toDocument), w.outside.database.collections) := by
    have passes : ∀ s, Filter.passes (toDocument s) _ = .ok _ := fun _ => passes_due now
    simp only [Server.execute, holds.documents, select_documents passes, bind, Except.bind, sortBy, sorted,
      List.map_take]
    rfl
  apply (holds.guarded done holds.documents holds.plain setup Reply.documents? []).bind
  intro after held
  apply (readAll_answers setup plain held).bind
  intro last still
  have same : ((ordered.take limit.toNat).map some).filterMap id = ordered.take limit.toNat := by
    rw [List.filterMap_map]
    exact List.filterMap_some
  rw [same]
  exact still.pure

/-- The database deletes the documents that pass, or the only one. -/
theorem delete_done (holds : Holds stored next w) (passes : ∀ s, Filter.passes (toDocument s) filter = .ok (p s))
    {many : Bool} (enough : many = true ∨ stored.Pairwise fun a b => p a = true → p b = false) :
    Server.execute w.outside.database.collections (.delete collection filter many) =
      .ok (.count (stored.countP p), setDocuments collection ((stored.filter fun s => !p s).map toDocument)
        w.outside.database.collections) := by
  have revised := revise_documents passes (f := fun _ => none) (g := fun _ => none) (fun _ => rfl) enough
  have kept : (stored.filterMap fun s => if p s then none else some s) = stored.filter fun s => !p s := by
    rw [← List.filterMap_eq_filter]
    refine List.filterMap_congr fun s _ => ?_
    cases meant : p s <;> simp [Option.guard, meant]
  simp only [Server.execute, holds.documents, revised, kept, bind, Except.bind]
  rfl

/-- To update the documents that pass, or the only one, is to change the sessions that are looked for. -/
theorem revise_merge (passes : ∀ s, Filter.passes (toDocument s) filter = .ok (p s)) {many : Bool}
    (enough : many = true ∨ stored.Pairwise fun a b => p a = true → p b = false) {changes : Fields}
    {g : Session → Session} (changed : ∀ s, Fields.merge (toDocument s) changes = toDocument (g s)) :
    revise filter many (fun document => some (Fields.merge document changes)) (stored.map toDocument) =
      .ok (stored.countP p, (stored.map fun s => if p s then g s else s).map toDocument) := by
  have revised := revise_documents passes (f := fun document => some (Fields.merge document changes))
    (g := fun s => some (g s)) (fun s => congrArg some (changed s)) enough
  have kept : (stored.filterMap fun s => if p s then some (g s) else some s) =
      stored.map fun s => if p s then g s else s := by
    rw [← List.filterMap_eq_map]
    refine List.filterMap_congr fun s _ => ?_
    cases meant : p s <;> simp [meant]
  rw [revised, kept]

theorem Holds.update (holds : Holds stored next w) (passes : ∀ s, Filter.passes (toDocument s) filter = .ok (p s))
    {many : Bool} (enough : many = true ∨ stored.Pairwise fun a b => p a = true → p b = false)
    {changes : Fields} {g : Session → Session}
    (changed : ∀ s, Fields.merge (toDocument s) changes = toDocument (g s))
    (plain : ∀ s, s.loose = [] → (g s).loose = []) (setup : Setup) :
    Answers (Work.onOutside (Documents.guarded setup (.ok (.update collection filter changes many)) Reply.count? 0)) w
      (stored.countP p) (stored.map fun s => if p s then g s else s) next := by
  have done : Server.execute w.outside.database.collections (.update collection filter changes many) =
      .ok (.count (stored.countP p), setDocuments collection
        ((stored.map fun s => if p s then g s else s).map toDocument) w.outside.database.collections) := by
    simp only [Server.execute, holds.documents, revise_merge passes enough changed, bind, Except.bind]
    rfl
  refine holds.guarded done (documentsOf_setDocuments ..) ?_ setup Reply.count? 0
  intro s member
  obtain ⟨former, inside, rfl⟩ := List.mem_map.mp member
  split
  · exact plain former (holds.plain former inside)
  · exact holds.plain former inside

/-- Of sessions with ids of their own no two can be the one that a swap is meant for. -/
theorem standing_single (apart : (stored.map Session.id).Nodup) (id : String) (expected : Option String) :
    stored.Pairwise fun a b => (a.id == id && a.currentStep == expected) = true →
      (b.id == id && b.currentStep == expected) = false := by
  refine (List.pairwise_map.mp apart).imp fun {a b} other meant => ?_
  simp only [Bool.and_eq_true, beq_iff_eq, Bool.and_eq_false_imp] at meant ⊢
  exact fun same => absurd (meant.1.trans same.symm) other

/-- Of sessions of which no two are meant one is, or none. -/
theorem countP_single (apart : stored.Pairwise fun a b => p a = true → p b = false) :
    decide (stored.countP p = 1) = stored.any p := by
  induction stored with
  | nil => rfl
  | cons s rest ih =>
    rw [List.pairwise_cons] at apart
    rw [List.countP_cons, List.any_cons]
    cases meant : p s with
    | false => simpa using ih apart.2
    | true =>
      have none : rest.countP p = 0 := List.countP_eq_zero.mpr fun other member => by simp [apart.1 other member meant]
      rw [none]
      rfl

section
variable {now : Instant} (clock : setup.utcNow = .ok now)
include clock

theorem create_answers (holds : Holds stored next w) (apart : (stored.map Session.key).Nodup) (key : SessionKey)
    (vars : Fields) (deviceId : Option String) :
    Answers (create setup key vars deviceId) w (newSession s!"s{next}" now key vars deviceId)
      ((stored.filter fun s => !(s.key == key)) ++ [newSession s!"s{next}" now key vars deviceId]) (next + 1) := by
  have passes : ∀ s, Filter.passes (toDocument s) (ofKey (.str key.address) (.str key.flowId)) = .ok (s.key == key) :=
    fun _ => passes_ofKey key
  have single : stored.Pairwise fun a b => (a.key == key) = true → (b.key == key) = false := by
    refine (List.pairwise_map.mp apart).imp fun {a b} other meant => ?_
    rw [beq_iff_eq] at meant
    rw [beq_eq_false_iff_ne, ← meant]
    exact other.symm
  have plain : ∀ s ∈ stored.filter fun s => !(s.key == key), s.loose = [] :=
    fun s member => holds.plain s (List.mem_filter.mp member).1
  have numbered : Answers Work.freshId w s!"s{next}" stored (next + 1) :=
    ⟨{ w with nextSession := w.nextSession + 1 }, by rw [← holds.counter]; rfl, holds.working, holds.documents,
      holds.plain, congrArg (· + 1) holds.counter⟩
  apply numbered.bind
  intro w holds
  have asked : Answers (Work.check setup.utcNow) w now stored (next + 1) := ⟨w, by rw [clock]; rfl, holds⟩
  apply asked.bind
  intro w holds
  apply (holds.command (delete_done holds passes (Or.inr single)) (documentsOf_setDocuments ..) plain).bind
  intro w holds
  let made := newSession s!"s{next}" now key vars deviceId
  have inserted : Server.execute w.outside.database.collections (.insert collection (toDocument made)) =
      .ok (.count 1, setDocuments collection (((stored.filter fun s => !(s.key == key)) ++ [made]).map toDocument)
        w.outside.database.collections) := by
    rw [List.map_append, ← holds.documents]
    rfl
  refine (holds.command inserted (documentsOf_setDocuments ..) ?_).bind fun w holds => holds.pure
  intro s member
  rcases List.mem_append.mp member with former | new
  · exact plain s former
  · cases List.mem_singleton.mp new
    rfl

theorem swap_answers (holds : Holds stored next w) (apart : (stored.map Session.id).Nodup) (id : String)
    (expected : Option String) {c : Change} (typed : c.loose = []) :
    Answers (swap setup (.str id) (.ofText? expected) c) w
      (stored.any fun s => s.id == id && s.currentStep == expected)
      (stored.map fun s => if s.id == id && s.currentStep == expected then c.apply now s else s) next := by
  have passes : ∀ s, Filter.passes (toDocument s) _ = .ok _ := fun _ => passes_standing id expected
  have plain : ∀ s, s.loose = [] → (c.apply now s).loose = [] := by
    intro s plain
    simp [Change.apply, typed, plain, Fields.merge]
  have single := standing_single apart id expected
  have asked : Answers (Work.check setup.utcNow) w now stored next := ⟨w, by rw [clock]; rfl, holds⟩
  rw [← countP_single single]
  apply asked.bind
  intro after held
  apply (held.update passes (Or.inr single) (fun _ => merge_changedFields now typed) plain setup).bind
  intro last still
  exact still.pure

theorem abandonAll_answers (holds : Holds stored next w) (address : String) :
    Answers (abandonAll setup (.str address)) w
      (stored.countP fun s => s.address == address && s.status == .active)
      (stored.map fun s => if s.address == address && s.status == .active then s.abandon now else s) next := by
  have passes : ∀ s, Filter.passes (toDocument s) (ofContact (.str address) ++ [isOpen]) = .ok _ :=
    fun s => passes_ofContact (passes_isOpen rfl)
  have plain : ∀ s : Session, s.loose = [] → (s.abandon now).loose = [] := by
    intro s plain
    simp [Session.abandon, plain]
  simp only [Bool.and_true] at passes
  have done := holds.update passes (Or.inl rfl) (fun _ => merge_ending now) plain setup
  rw [Sessions.abandonAll, clock]
  exact done

end

theorem reset_answers (holds : Holds stored next w) (address : String) :
    Answers (reset setup (.str address)) w (stored.countP fun s => s.address == address)
      (stored.filter fun s => !(s.address == address)) next := by
  have passes : ∀ s, Filter.passes (toDocument s) (ofContact (.str address) ++ []) = .ok _ :=
    fun s => passes_ofContact rfl
  simp only [Bool.and_true] at passes
  exact holds.guarded (delete_done holds passes (Or.inl rfl)) (documentsOf_setDocuments ..)
    (fun s member => holds.plain s (List.mem_filter.mp member).1) setup Reply.count? 0

end Chatflow.Proofs.WorkingDatabase
