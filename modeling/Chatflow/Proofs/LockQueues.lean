import Chatflow.Proofs.OutsideWork
import Chatflow.Proofs.StoredSessions

/-! Tasks of one process that use the same lock. Each of them gets the shared lock if the cache grants it, and queues
for the lock within the process if the cache refuses it, fails or is missing. What the cache answers may differ from one
task to the next, so that both kinds of locks may be in use at once. -/

namespace Chatflow.Proofs.LockQueues
open Cache ClosedCircuit

variable {σ Task : Type}

/-! The line of a lock. -/

theorem line_setLine (l : Lobby Task) (name : String) (tasks : List Task) :
    (l.setLine name tasks).line name = tasks := by
  unfold Lobby.setLine
  split
  next vacant =>
    have missing : (l.lines.filter fun entry => entry.1 != name).find? (fun entry => entry.1 == name) = none := by
      refine List.find?_eq_none.mpr fun entry member => ?_
      simpa using (List.mem_filter.mp member).2
    rw [Lobby.line, missing, List.isEmpty_iff.mp vacant]
    rfl
  next =>
    split
    next known =>
      obtain ⟨entry, member, same⟩ := List.any_eq_true.mp known
      have kept : (fun entry : String × List Task => entry.1 == name) ∘
          (fun entry => if entry.1 == name then (name, tasks) else entry) = fun entry => entry.1 == name := by
        funext entry
        by_cases same : entry.1 = name <;> simp [same]
      have isKnown := (List.find?_isSome (p := fun entry => entry.1 == name)).mpr ⟨entry, member, same⟩
      obtain ⟨first, found⟩ := Option.isSome_iff_exists.mp isKnown
      rw [Lobby.line, List.find?_map, kept, found, Option.map_some, if_pos (List.find?_some found)]
      rfl
    next unknown =>
      have missing : l.lines.find? (fun entry => entry.1 == name) = none := by
        refine List.find?_eq_none.mpr fun entry member same => unknown ?_
        exact List.any_eq_true.mpr ⟨entry, member, same⟩
      rw [Lobby.line, List.find?_append, missing]
      simp

/-- What is done to the line of one lock leaves the lines of all others alone. -/
theorem line_setLine_of_ne (l : Lobby Task) {name other : String} (distinct : other ≠ name) (tasks : List Task) :
    (l.setLine name tasks).line other = l.line other := by
  unfold Lobby.setLine
  split
  next =>
    have kept : (fun entry : String × List Task => decide ((entry.1 != name) = true ∧ (entry.1 == other) = true)) =
        fun entry => entry.1 == other := by
      funext entry
      by_cases same : entry.1 = other <;> simp [same, distinct]
    rw [Lobby.line, List.find?_filter, kept]
    rfl
  next =>
    split
    next =>
      have kept : (fun entry : String × List Task => entry.1 == other) ∘
          (fun entry => if entry.1 == name then (name, tasks) else entry) = fun entry => entry.1 == other := by
        funext entry
        by_cases same : entry.1 = name <;> simp [same]
      rw [Lobby.line, List.find?_map, kept, Lobby.line]
      cases found : l.lines.find? fun entry => entry.1 == other with
      | none => rfl
      | some entry =>
        have same := List.find?_some found
        simp [beq_iff_eq.mp same, distinct]
    next =>
      rw [Lobby.line, List.find?_append, Lobby.line]
      cases l.lines.find? fun entry => entry.1 == other <;> simp [distinct.symm]

/-- A lock within the process, and a link to a cache that does not touch such locks. -/
structure Sealed (link : Option (Link σ)) (lobby : Part σ (Lobby Task)) : Prop where
  written : ∀ l s, lobby.read (lobby.write l s) = l
  kept : ∀ send ∈ link, ∀ command s, lobby.read (send command s).2 = lobby.read s

theorem sealed_service (setup : Setup) : Sealed setup.link Conversation.lobby where
  written _ _ := rfl
  kept send linked command o := by
    rw [OutsideWork.link_connected linked]
    rfl

variable {link : Option (Link σ)} {lobby : Part σ (Lobby Task)} {name : String}

theorem acquireShared_lobby (ok : Sealed link lobby) (name : String) (seconds : Amount) (s : σ) :
    lobby.read (acquireShared link name seconds s).2 = lobby.read s := by
  unfold acquireShared
  cases linked : link with
  | none => rfl
  | some send =>
    have prepared := ok.kept send linked (.lock name seconds seconds) s
    rcases locked : send (.lock name seconds seconds) s with ⟨fault | reply, middle⟩ <;> rw [locked] at prepared
    · simp only [bind, StateT.bind, locked]
      exact prepared
    · have asked := ok.kept send linked (.acquire name) middle
      rcases answered : send (.acquire name) middle with ⟨answer, last⟩
      rw [answered] at asked
      simp only [bind, StateT.bind, locked, answered]
      split <;> exact asked.trans prepared

/-- The tasks that hold a lock or wait for it, in the order in which they asked for it, each with the kind of lock that
it was referred to. -/
structure Site (σ Task : Type) where
  outside : σ
  users : List (Task × Hold) := []

/-- The tasks that hold the lock within the process or wait for it. -/
def Site.queue (site : Site σ Task) : List Task := (site.users.filter fun user => user.2 = .within).map (·.1)

/-- Whether a task is inside the body that the lock guards. -/
def Site.Inside (lobby : Part σ (Lobby Task)) (name : String) (site : Site σ Task) (task : Task) : Prop :=
  (task, .shared) ∈ site.users ∨
    (task, .within) ∈ site.users ∧ (lobby.read site.outside).holder? name = some task

variable {site next : Site σ Task} {task : Task}

theorem mem_queue : task ∈ site.queue ↔ (task, .within) ∈ site.users := by
  simp [Site.queue]

/-- At most one task is inside. -/
def Site.Exclusive (lobby : Part σ (Lobby Task)) (name : String) (site : Site σ Task) : Prop :=
  ∀ a b, site.Inside lobby name a → site.Inside lobby name b → a = b

/-- The line of a lock is what its users tell. -/
structure Orderly (lobby : Part σ (Lobby Task)) (name : String) (site : Site σ Task) : Prop where
  distinct : (site.users.map (·.1)).Nodup
  line : (lobby.read site.outside).line name = site.queue

/-- Inside are those who hold the shared lock, and the first of those who queue within the process. -/
theorem Orderly.inside_iff (orderly : Orderly lobby name site) :
    site.Inside lobby name task ↔ (task, .shared) ∈ site.users ∨ site.queue.head? = some task := by
  unfold Site.Inside Lobby.holder?
  rw [orderly.line, ← mem_queue]
  exact or_congr_right ⟨And.right, fun first => ⟨List.mem_of_head? first, first⟩⟩

theorem Orderly.first_waits (orderly : Orderly lobby name site) {a : Task} (waiting : (a, .within) ∈ site.users) :
    ∃ b, site.Inside lobby name b ∧ (b, .within) ∈ site.users := by
  obtain ⟨b, rest, queue⟩ := List.exists_cons_of_ne_nil (List.ne_nil_of_mem (mem_queue.mpr waiting))
  refine ⟨b, orderly.inside_iff.mpr (Or.inr (by rw [queue]; rfl)), mem_queue.mp ?_⟩
  rw [queue]
  exact List.mem_cons_self

/-- A lock that is in use has somebody inside. -/
theorem Orderly.somebody_inside (orderly : Orderly lobby name site) (used : site.users ≠ []) :
    ∃ task, site.Inside lobby name task := by
  obtain ⟨⟨task, hold⟩, rest, users⟩ := List.exists_cons_of_ne_nil used
  have present : (task, hold) ∈ site.users := by
    rw [users]
    exact List.mem_cons_self
  cases hold with
  | shared => exact ⟨task, Or.inl present⟩
  | within =>
    obtain ⟨b, inside, _⟩ := orderly.first_waits present
    exact ⟨b, inside⟩

theorem Orderly.same_user [BEq Task] [LawfulBEq Task] (orderly : Orderly lobby name site) {a b : Task × Hold}
    (present : a ∈ site.users) (other : b ∈ site.users) (same : a.1 = b.1) : a = b := by
  have found := StoredSessions.find?_of_nodup orderly.distinct present
  rw [same, StoredSessions.find?_of_nodup orderly.distinct other] at found
  exact (Option.some.inj found).symm

variable [BEq Task]

/-- What may happen at a lock. While a task waits for an answer from the cache, and whenever else the tasks take turns,
anything else may happen outside that leaves the line of this lock alone. -/
inductive Step (link : Option (Link σ)) (lobby : Part σ (Lobby Task)) (name : String) :
    Site σ Task → Site σ Task → Prop where
  | asks {site : Site σ Task} {hold : Hold} {outside : σ} (task : Task) (seconds : Amount)
      (new : task ∉ site.users.map (·.1))
      (done : enterLock link lobby name seconds task site.outside = (hold, outside)) :
      Step link lobby name site ⟨outside, site.users ++ [(task, hold)]⟩
  /-- A task leaves the body, or gives up waiting for it. -/
  | goes {site : Site σ Task} (task : Task) (hold : Hold) (present : (task, hold) ∈ site.users) :
      Step link lobby name site
        ⟨(leaveLock link lobby name task hold site.outside).2, site.users.filter fun user => user.1 != task⟩
  | elsewhere {site : Site σ Task} (outside : σ)
      (untouched : (lobby.read outside).line name = (lobby.read site.outside).line name) :
      Step link lobby name site { site with outside := outside }

inductive Reached (link : Option (Link σ)) (lobby : Part σ (Lobby Task)) (name : String) : Site σ Task → Prop where
  | vacant (outside : σ) (free : (lobby.read outside).line name = []) : Reached link lobby name ⟨outside, []⟩
  | step {site next : Site σ Task} (reached : Reached link lobby name site) (step : Step link lobby name site next) :
      Reached link lobby name next

/-- A task that is not granted the shared lock queues at the end. -/
theorem enterLock_line (ok : Sealed link lobby) {seconds : Amount} {task : Task} {s after : σ} {hold : Hold}
    (done : enterLock link lobby name seconds task s = (hold, after)) :
    (lobby.read after).line name = (lobby.read s).line name ++ if hold = .within then [task] else [] := by
  have kept := acquireShared_lobby ok name seconds s
  rcases answered : acquireShared link name seconds s with ⟨granted, middle⟩
  rw [answered] at kept
  simp only [enterLock, bind, StateT.bind, answered] at done
  cases granted with
  | true =>
    cases done
    rw [← kept]
    simp
  | false =>
    cases done
    simp only [Part.update, ok.written, Lobby.enter, line_setLine, kept]
    rfl

theorem leaveLock_line (ok : Sealed link lobby) (task : Task) (hold : Hold) (s : σ) :
    (lobby.read (leaveLock link lobby name task hold s).2).line name =
      if hold = .within then ((lobby.read s).line name).erase task else (lobby.read s).line name := by
  cases hold with
  | within =>
    show (lobby.read (lobby.write ((lobby.read s).leave name task) s)).line name = _
    rw [ok.written]
    exact line_setLine _ _ _
  | shared =>
    cases linked : link with
    | none => rfl
    | some send =>
      exact congrArg (Lobby.line · name) (ok.kept send linked (.release name) s)

/-- What tasks do with other locks happens elsewhere. -/
theorem Step.of_other (ok : Sealed link lobby) {other : String} (distinct : name ≠ other) (seconds : Amount)
    (task : Task) (hold : Hold) (site : Site σ Task) :
    Step link lobby name site { site with outside := (enterLock link lobby other seconds task site.outside).2 } ∧
      Step link lobby name site { site with outside := (leaveLock link lobby other task hold site.outside).2 } := by
  refine ⟨.elsewhere _ ?_, .elsewhere _ ?_⟩
  · have kept := acquireShared_lobby ok other seconds site.outside
    rcases answered : acquireShared link other seconds site.outside with ⟨granted, middle⟩
    rw [answered] at kept
    simp only [enterLock, bind, StateT.bind, answered]
    cases granted with
    | true => exact congrArg (Lobby.line · name) kept
    | false =>
      show (lobby.read (lobby.write ((lobby.read middle).enter other task) middle)).line name = _
      rw [ok.written, kept]
      exact line_setLine_of_ne _ distinct _
  · cases hold with
    | within =>
      show (lobby.read (lobby.write ((lobby.read site.outside).leave other task) site.outside)).line name = _
      rw [ok.written]
      exact line_setLine_of_ne _ distinct _
    | shared =>
      cases linked : link with
      | none => rfl
      | some send => exact congrArg (Lobby.line · name) (ok.kept send linked (.release other) site.outside)

theorem unshared_of_ungranted (ungranted : ∀ seconds s, (acquireShared link name seconds s).1 = false)
    (reached : Reached link lobby name site) (a : Task) : (a, .shared) ∉ site.users := by
  induction reached with
  | vacant => exact List.not_mem_nil
  | @step site next _ step unshared =>
    cases step with
    | @asks hold outside task seconds new done =>
      have refused := ungranted seconds site.outside
      rcases answered : acquireShared link name seconds site.outside with ⟨granted, middle⟩
      rw [answered] at refused
      cases refused
      simp only [enterLock, bind, StateT.bind, answered] at done
      cases done
      intro shared
      rcases List.mem_append.mp shared with before | last
      · exact unshared before
      · cases List.mem_singleton.mp last
    | goes => exact fun shared => unshared (List.mem_filter.mp shared).1
    | elsewhere => exact unshared

variable [LawfulBEq Task]

/-- Each step leaves the line as its users tell it. -/
theorem Orderly.step (ok : Sealed link lobby) (orderly : Orderly lobby name site)
    (step : Step link lobby name site next) : Orderly lobby name next := by
  cases step with
  | @asks hold outside task seconds new done =>
    refine ⟨?_, ?_⟩
    · rw [List.map_append, List.nodup_append]
      refine ⟨orderly.distinct, by simp, ?_⟩
      rintro a member b last rfl
      cases List.mem_singleton.mp last
      exact new member
    · rw [enterLock_line ok done, orderly.line]
      cases hold <;> simp [Site.queue]
  | goes task hold present =>
    have left : (site.users.filter fun user => user.1 != task).map (·.1) =
        (site.users.map (·.1)).filter (· != task) := by
      rw [List.filter_map]
      rfl
    have queued : Site.queue ⟨(leaveLock link lobby name task hold site.outside).2,
        site.users.filter fun user => user.1 != task⟩ = site.queue.filter (· != task) := by
      simp only [Site.queue, List.filter_map, List.filter_filter]
      congr 1
      exact List.filter_congr fun user _ => Bool.and_comm _ _
    refine ⟨?_, ?_⟩
    · rw [left]
      exact orderly.distinct.filter _
    · rw [leaveLock_line ok, orderly.line, queued]
      cases hold with
      | within =>
        have unique : site.queue.Nodup := orderly.distinct.sublist (List.filter_sublist.map _)
        rw [if_pos rfl, unique.erase_eq_filter]
      | shared =>
        rw [if_neg (by decide)]
        refine (List.filter_eq_self.mpr fun other member => ?_).symm
        refine bne_iff_ne.mpr fun same => ?_
        cases orderly.same_user (mem_queue.mp member) present same
  | elsewhere outside untouched => exact ⟨orderly.distinct, untouched.trans orderly.line⟩

theorem Reached.orderly (ok : Sealed link lobby) (reached : Reached link lobby name site) :
    Orderly lobby name site := by
  induction reached with
  | vacant outside free => exact ⟨List.nodup_nil, free⟩
  | step _ step orderly => exact orderly.step ok step

theorem Orderly.exclusive_iff (orderly : Orderly lobby name site) :
    site.Exclusive lobby name ↔ ∀ a, (a, .shared) ∈ site.users → ∀ user ∈ site.users, user.1 = a := by
  refine ⟨fun exclusive a shared user present => ?_, fun alone a b inside other => ?_⟩
  · obtain ⟨b, hold⟩ := user
    cases hold with
    | shared => exact exclusive b a (Or.inl present) (Or.inl shared)
    | within =>
      obtain ⟨c, inside, waiting⟩ := orderly.first_waits present
      cases exclusive c a inside (Or.inl shared)
      cases orderly.same_user waiting shared rfl
  · rcases orderly.inside_iff.mp inside with shared | head
    · rcases other with present | ⟨present, _⟩ <;> exact (alone a shared _ present).symm
    · rcases orderly.inside_iff.mp other with shared | last
      · exact alone b shared (a, _) (mem_queue.mp (List.mem_of_head? head))
      · exact Option.some.inj (head.symm.trans last)

/-- A second task gets inside only by asking while the lock is in use, if it is granted the shared lock then, or if a
task that is inside holds the shared one. -/
theorem Step.exclusive (ok : Sealed link lobby) (reached : Reached link lobby name site)
    (step : Step link lobby name site next) (exclusive : site.Exclusive lobby name) :
    next.Exclusive lobby name ∨ ∃ task hold, next.users = site.users ++ [(task, hold)] ∧ site.users ≠ [] ∧
      (hold = .shared ∨ ∃ a, (a, .shared) ∈ site.users) := by
  have alone := (reached.orderly ok).exclusive_iff.mp exclusive
  rw [((reached.orderly ok).step ok step).exclusive_iff]
  cases step with
  | @asks hold outside task seconds new done =>
    by_cases intrudes : site.users ≠ [] ∧ (hold = .shared ∨ ∃ a, (a, .shared) ∈ site.users)
    · exact Or.inr ⟨task, hold, rfl, intrudes⟩
    · refine Or.inl fun a shared user present => ?_
      rcases List.mem_append.mp shared with before | last
      · exact absurd ⟨List.ne_nil_of_mem before, Or.inr ⟨a, before⟩⟩ intrudes
      · cases List.mem_singleton.mp last
        rcases List.mem_append.mp present with before | last
        · exact absurd ⟨List.ne_nil_of_mem before, Or.inl rfl⟩ intrudes
        · rw [List.mem_singleton.mp last]
  | goes task hold present =>
    exact Or.inl fun a shared user member => alone a (List.mem_filter.mp shared).1 user (List.mem_filter.mp member).1
  | elsewhere outside untouched => exact Or.inl alone

/-- Where the shared lock is granted to nobody, the lock within the process keeps tasks apart. -/
theorem exclusive_of_ungranted (ok : Sealed link lobby)
    (ungranted : ∀ seconds s, (acquireShared link name seconds s).1 = false) (reached : Reached link lobby name site) :
    site.Exclusive lobby name :=
  (reached.orderly ok).exclusive_iff.mpr fun a shared => absurd shared (unshared_of_ungranted ungranted reached a)

/-- However tasks come and go and whatever the cache answers them, the lock within the process is taken in the order of
asking, and whenever a lock is in use, somebody is inside. At most one task is inside if and only if no task holds the
shared lock while another uses the lock, be it by the shared lock, too, or within the process. -/
theorem body_is_exclusive_iff_unmixed (ok : Sealed link lobby) (reached : Reached link lobby name site) :
    (lobby.read site.outside).line name = site.queue ∧
      (site.users ≠ [] → ∃ task, site.Inside lobby name task) ∧
      (site.Exclusive lobby name ↔ ∀ a, (a, .shared) ∈ site.users → ∀ user ∈ site.users, user.1 = a) := by
  have orderly := reached.orderly ok
  exact ⟨orderly.line, orderly.somebody_inside, orderly.exclusive_iff⟩

def cached : Setup := { now := ⟨0, 0⟩, hasCache := true }

def contactLock : String := addressLockName "+5215512345678"

/-- The cache has granted the lock of a contact to one task, and cannot be reached any more when another asks for it. -/
def parted : Site Outside Nat where
  outside := { cache := { isDown := true }, lobby := ⟨[("lock:address:+5215512345678", [1])]⟩ }
  users := [(0, .shared), (1, .within)]

theorem parted_reached : Reached cached.link Conversation.lobby contactLock parted := by
  have vacant : Reached cached.link Conversation.lobby contactLock ⟨{}, []⟩ := .vacant _ rfl
  have granted := vacant.step (.asks 0 30 (by decide) rfl)
  have failing := granted.step (.elsewhere { cache := { isDown := true } } rfl)
  have refused := failing.step (.asks 1 30 (by simp) rfl)
  exact refused.step (.elsewhere parted.outside rfl)

theorem parted_site_has_both_inside :
    Reached cached.link Conversation.lobby contactLock parted ∧ ¬ parted.Exclusive Conversation.lobby contactLock := by
  refine ⟨parted_reached, fun exclusive => ?_⟩
  have same := exclusive 0 1 (Or.inl (by decide)) (Or.inr ⟨by decide, by decide⟩)
  cases same

theorem parted_site_is_mixed :
    (Sealed cached.link Conversation.lobby ∧ Reached cached.link Conversation.lobby contactLock parted) ∧
      parted.outside.lobby.line contactLock = [1] ∧ (∃ task, parted.Inside Conversation.lobby contactLock task) ∧
      ¬ parted.Exclusive Conversation.lobby contactLock := by
  have ok := sealed_service cached
  obtain ⟨line, inside, exclusive⟩ := body_is_exclusive_iff_unmixed ok parted_reached
  refine ⟨⟨ok, parted_reached⟩, line, inside (by decide), fun apart => ?_⟩
  have alone := exclusive.mp apart 0 (by decide) (1, .within) (by decide)
  cases alone

end Chatflow.Proofs.LockQueues
