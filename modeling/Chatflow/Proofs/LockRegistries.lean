import Chatflow.Breaker.LockRegistry
import Chatflow.Proofs.LockQueues
import Mathlib.Data.List.Nodup

/-! The registry of the locks within one process. However tasks come, wait, go and give up waiting, for any number of names,
the registry counts those that hold or wait for the lock of a name, keeps a lock as long as somebody uses it, and has given
all its users the same one. So nobody is ever let in beside somebody else, and when all are gone nothing is left over. The
lobby shows the same names, lines and counts as the registry. -/

namespace Chatflow.Proofs.LockRegistries
open Cache LockRegistry LockQueues

variable {σ Task : Type}

/-! Entries under names. -/

theorem lookup_entry (key : String) (n : Nat) (rest : List (String × Nat)) (name : String) :
    ((key, n) :: rest).lookup name = if name = key then some n else rest.lookup name := by
  rw [List.lookup_cons]
  by_cases same : name = key
  · rw [if_pos same, beq_iff_eq.mpr same]
  · rw [if_neg same, beq_eq_false_iff_ne.mpr same]

theorem lookup_put (name : String) (n : Nat) (entries : List (String × Nat)) (other : String) :
    (put name n entries).lookup other = if other = name then some n else entries.lookup other := by
  induction entries with
  | nil => exact lookup_entry name n [] other
  | cons entry rest ih =>
    obtain ⟨key, value⟩ := entry
    rw [put, lookup_entry]
    split
    next meant =>
      obtain rfl : key = name := meant
      rw [lookup_entry]
      by_cases same : other = key <;> simp [same]
    next unmeant =>
      rw [lookup_entry, ih]
      by_cases first : other = key
      · rw [if_pos first, if_pos first, if_neg (first ▸ unmeant)]
      · rw [if_neg first, if_neg first]

theorem lookup_strike (name : String) (entries : List (String × Nat)) (other : String) :
    (strike name entries).lookup other = if other = name then none else entries.lookup other := by
  induction entries with
  | nil => by_cases same : other = name <;> simp [strike, same]
  | cons entry rest ih =>
    obtain ⟨key, value⟩ := entry
    unfold strike at ih ⊢
    rw [List.filter_cons, lookup_entry]
    by_cases meant : key = name
    · subst meant
      rw [if_neg (by simp), ih]
      by_cases same : other = key <;> simp [same]
    · rw [if_pos (by simpa using meant), lookup_entry, ih]
      by_cases first : other = key
      · rw [if_pos first, if_pos first, if_neg (first ▸ meant)]
      · rw [if_neg first, if_neg first]

theorem names_put (name : String) (n : Nat) (entries : List (String × Nat)) : (put name n entries).map Prod.fst =
    if name ∈ entries.map Prod.fst then entries.map Prod.fst else entries.map Prod.fst ++ [name] := by
  induction entries with
  | nil => simp [put]
  | cons entry rest ih =>
    rw [put]
    by_cases meant : entry.1 = name
    · simp [meant]
    · rw [if_neg meant, List.map_cons, ih, List.map_cons]
      by_cases later : name ∈ rest.map Prod.fst
      · rw [if_pos later, if_pos (List.mem_cons_of_mem _ later)]
      · rw [if_neg later, if_neg (by simpa [Ne.symm meant] using later), List.cons_append]

theorem names_strike (name : String) (entries : List (String × Nat)) :
    (strike name entries).map Prod.fst = (entries.map Prod.fst).filter (· != name) := by
  rw [strike, List.filter_map]
  rfl

theorem lookup_isSome_iff (name : String) (entries : List (String × Nat)) :
    (entries.lookup name).isSome ↔ name ∈ entries.map Prod.fst := by
  simp only [List.lookup_isSome_iff, beq_iff_eq, List.mem_map]
  exact exists_congr fun entry => and_congr_right fun _ => eq_comm

/-- What the lobby keeps of the names when the line of one of them is replaced. -/
theorem names_setLine (l : Lobby Task) (name : String) (tasks : List Task) : (l.setLine name tasks).names =
    if tasks = [] then l.names.filter (· != name) else if name ∈ l.names then l.names else l.names ++ [name] := by
  unfold Lobby.setLine Lobby.names
  by_cases vacant : tasks = []
  · subst vacant
    rw [if_pos List.isEmpty_nil, if_pos rfl, List.filter_map]
    rfl
  · have known : (l.lines.any fun entry => entry.1 == name) = true ↔ name ∈ l.lines.map (·.1) := by
      simp only [List.any_eq_true, beq_iff_eq, List.mem_map]
    rw [if_neg (by simpa using vacant), if_neg vacant]
    by_cases present : name ∈ l.lines.map (·.1)
    · rw [if_pos (known.mpr present), if_pos present, List.map_map]
      refine List.map_congr_left fun entry _ => ?_
      by_cases same : entry.1 = name <;> simp [same]
    · rw [if_neg (mt known.mp present), if_neg present, List.map_append]
      rfl

/-! Tasks with the locks that they were given. -/

/-- A task that holds a lock or waits for it: the name it asked for, and the lock it was given. -/
structure Ticket (Task : Type) where
  task : Task
  name : String
  lock : Nat

/-- What is kept within one process, and the tasks that hold or wait for locks, in the order of asking. -/
structure Process (σ Task : Type) where
  outside : σ
  registry : LockRegistry := {}
  tickets : List (Ticket Task) := []
  /-- The tasks that their locks have let in. -/
  inside : List Task := []

/-- Those who hold or wait for the lock of a name. -/
def Process.usersOf (p : Process σ Task) (name : String) : List (Ticket Task) :=
  p.tickets.filter fun ticket => ticket.name == name

/-- A count of users; there is none where nobody is counted. -/
def counted (n : Nat) : Option Nat := if n = 0 then none else some n

variable {link : Option (Link σ)} {lobby : Part σ (Lobby Task)} {p next : Process σ Task} {name : String}
  {a b ticket : Ticket Task}

theorem mem_usersOf : ticket ∈ p.usersOf name ↔ ticket ∈ p.tickets ∧ ticket.name = name := by
  simp [Process.usersOf]

theorem usersOf_asks (p : Process σ Task) (outside : σ) (r : LockRegistry) (ticket : Ticket Task) (name : String) :
    Process.usersOf ⟨outside, r, p.tickets ++ [ticket], p.inside⟩ name =
      p.usersOf name ++ if ticket.name = name then [ticket] else [] := by
  rw [Process.usersOf, List.filter_append, Process.usersOf]
  by_cases meant : ticket.name = name <;> simp [meant]

/-- The registry is what the tickets tell, and so is the lobby. -/
structure Tallied (lobby : Part σ (Lobby Task)) (p : Process σ Task) : Prop where
  distinct : (p.tickets.map Ticket.task).Nodup
  present : ∀ task ∈ p.inside, task ∈ p.tickets.map Ticket.task
  given : ∀ ticket ∈ p.tickets, p.registry.locks.lookup ticket.name = some ticket.lock
  apart : ∀ a ∈ p.tickets, ∀ b ∈ p.tickets, a.lock = b.lock → a.task ∈ p.inside → b.task ∈ p.inside → a = b
  counts : ∀ name, p.registry.users.lookup name = counted (p.usersOf name).length
  named : p.registry.users.map Prod.fst = p.registry.locks.map Prod.fst
  line : ∀ name, (lobby.read p.outside).line name = (p.usersOf name).map Ticket.task
  names : (lobby.read p.outside).names = p.registry.locks.map Prod.fst

theorem Tallied.vacant {outside : σ} (free : (lobby.read outside).lines = []) :
    Tallied lobby { outside := outside } where
  distinct := List.nodup_nil
  present _ member := absurd member List.not_mem_nil
  given _ member := absurd member List.not_mem_nil
  apart _ member := absurd member List.not_mem_nil
  counts _ := rfl
  named := rfl
  line name := by
    rw [Lobby.line, free]
    rfl
  names := by
    rw [Lobby.names, free]
    rfl

/-- A name is registered if and only if somebody uses its lock. -/
theorem Tallied.registered_iff (tallied : Tallied lobby p) (name : String) :
    name ∈ p.registry.locks.map Prod.fst ↔ p.usersOf name ≠ [] := by
  rw [← tallied.named, ← lookup_isSome_iff, tallied.counts, counted, ← List.length_pos_iff]
  by_cases none : (p.usersOf name).length = 0 <;> simp [none, Nat.pos_of_ne_zero]

theorem Tallied.same_ticket (tallied : Tallied lobby p) (member : a ∈ p.tickets) (other : b ∈ p.tickets)
    (same : a.task = b.task) : a = b :=
  List.inj_on_of_nodup_map tallied.distinct member other same

theorem Tallied.enters (tallied : Tallied lobby p) (present : ticket ∈ p.tickets)
    (free : ∀ other ∈ p.tickets, other.lock = ticket.lock → other.task ∉ p.inside) :
    Tallied lobby { p with inside := p.inside ++ [ticket.task] } := by
  refine { tallied with present := ?_, apart := ?_ }
  · intro task member
    rcases List.mem_append.mp member with before | last
    · exact tallied.present task before
    · rw [List.mem_singleton.mp last]
      exact List.mem_map_of_mem present
  · -- Of two tasks inside, one came last only if the other does not have its lock.
    have entered : ∀ other ∈ p.tickets, other.task ∈ p.inside ++ [ticket.task] →
        other.task ∈ p.inside ∨ other = ticket := by
      intro other member inside
      rcases List.mem_append.mp inside with before | last
      · exact Or.inl before
      · exact Or.inr (tallied.same_ticket member present (List.mem_singleton.mp last))
    intro a member b other same inside both
    rcases entered a member inside with before | rfl
    · rcases entered b other both with too | rfl
      · exact tallied.apart a member b other same before too
      · exact absurd before (free a member same)
    · rcases entered b other both with too | rfl
      · exact absurd too (free b other same.symm)
      · rfl

theorem Tallied.elsewhere (tallied : Tallied lobby p) {outside : σ}
    (untouched : lobby.read outside = lobby.read p.outside) : Tallied lobby { p with outside := outside } :=
  { tallied with
    line := fun name => (congrArg (Lobby.line · name) untouched).trans (tallied.line name)
    names := (congrArg Lobby.names untouched).trans tallied.names }

/-- A task is in the line of the name that it asked for, and in no other. -/
theorem Tallied.absent (tallied : Tallied lobby p) (present : ticket ∈ p.tickets) (other : name ≠ ticket.name) :
    ticket.task ∉ (p.usersOf name).map Ticket.task := by
  intro member
  obtain ⟨user, uses, same⟩ := List.mem_map.mp member
  obtain ⟨known, named⟩ := mem_usersOf.mp uses
  exact other (tallied.same_ticket known present same ▸ named.symm)

variable [BEq Task]

/-- What may happen in a process. A lock lets in whom it will, but nobody as long as it is held. Whatever happens while tasks
take turns may change all but the lobby. -/
inductive Step (link : Option (Link σ)) (lobby : Part σ (Lobby Task)) : Process σ Task → Process σ Task → Prop where
  /-- A task asks for a lock. The cache does not grant the shared one, so that it is given the one within the process. -/
  | asks {p : Process σ Task} (task : Task) (name : String) (seconds : Amount)
      (new : task ∉ p.tickets.map Ticket.task)
      (ungranted : (acquireShared link name seconds p.outside).1 = false) :
      Step link lobby p
        ⟨(enterLock link lobby name seconds task p.outside).2, (p.registry.give name).2,
          p.tickets ++ [⟨task, name, (p.registry.give name).1⟩], p.inside⟩
  | enters {p : Process σ Task} (ticket : Ticket Task) (present : ticket ∈ p.tickets)
      (free : ∀ other ∈ p.tickets, other.lock = ticket.lock → other.task ∉ p.inside) :
      Step link lobby p { p with inside := p.inside ++ [ticket.task] }
  /-- A task leaves the body, at its end or by a failure, or is cancelled, in the body or while it waits. -/
  | goes {p : Process σ Task} (ticket : Ticket Task) (present : ticket ∈ p.tickets) :
      Step link lobby p
        ⟨(leaveLock link lobby ticket.name ticket.task .within p.outside).2, p.registry.release ticket.name,
          p.tickets.filter fun other => other.task != ticket.task, p.inside.filter (· != ticket.task)⟩
  | elsewhere {p : Process σ Task} (outside : σ) (untouched : lobby.read outside = lobby.read p.outside) :
      Step link lobby p { p with outside := outside }

inductive Reached (link : Option (Link σ)) (lobby : Part σ (Lobby Task)) : Process σ Task → Prop where
  | vacant (outside : σ) (free : (lobby.read outside).lines = []) : Reached link lobby { outside := outside }
  | step {p next : Process σ Task} (reached : Reached link lobby p) (step : Step link lobby p next) :
      Reached link lobby next

theorem enterLock_ungranted (ok : Sealed link lobby) (task : Task) {seconds : Amount} {s : σ}
    (ungranted : (acquireShared link name seconds s).1 = false) :
    (enterLock link lobby name seconds task s).1 = .within ∧
      lobby.read (enterLock link lobby name seconds task s).2 = (lobby.read s).enter name task := by
  have kept := acquireShared_lobby ok name seconds s
  rcases answered : acquireShared link name seconds s with ⟨granted, middle⟩
  rw [answered] at ungranted kept
  cases ungranted
  simp only [enterLock, bind, StateT.bind, answered]
  rw [← kept]
  exact ⟨rfl, ok.written _ _⟩

theorem leaveLock_within (ok : Sealed link lobby) (name : String) (task : Task) (s : σ) :
    lobby.read (leaveLock link lobby name task .within s).2 = (lobby.read s).leave name task :=
  ok.written _ _

theorem Tallied.asks (ok : Sealed link lobby) (tallied : Tallied lobby p) {task : Task} {seconds : Amount}
    (new : task ∉ p.tickets.map Ticket.task) (ungranted : (acquireShared link name seconds p.outside).1 = false) :
    Tallied lobby
      ⟨(enterLock link lobby name seconds task p.outside).2, (p.registry.give name).2,
        p.tickets ++ [⟨task, name, (p.registry.give name).1⟩], p.inside⟩ := by
  have entered := (enterLock_ungranted ok task ungranted).2
  refine ⟨?_, ?_, ?_, ?_, ?_, ?_, ?_, ?_⟩
  · rw [List.map_append, List.nodup_append]
    refine ⟨tallied.distinct, by simp, ?_⟩
    rintro a member b last rfl
    cases List.mem_singleton.mp last
    exact new member
  · intro other member
    rw [List.map_append]
    exact List.mem_append_left _ (tallied.present other member)
  · intro ticket member
    simp only [give, lookup_put]
    rcases List.mem_append.mp member with before | last
    · by_cases meant : ticket.name = name
      · rw [if_pos meant, ← meant, tallied.given ticket before]
        rfl
      · rw [if_neg meant]
        exact tallied.given ticket before
    · rw [List.mem_singleton.mp last, if_pos rfl]
      rfl
  · -- The new task is not inside, so that only those who were there can be.
    have before : ∀ ticket ∈ p.tickets ++ [⟨task, name, (p.registry.give name).1⟩], ticket.task ∈ p.inside →
        ticket ∈ p.tickets := by
      intro ticket member inside
      rcases List.mem_append.mp member with before | last
      · exact before
      · rw [List.mem_singleton.mp last] at inside
        exact absurd (tallied.present _ inside) new
    exact fun a member b other same inside both =>
      tallied.apart a (before a member inside) b (before b other both) same inside both
  · intro other
    rw [usersOf_asks]
    simp only [give, lookup_put]
    by_cases meant : other = name
    · subst meant
      rw [if_pos rfl, if_pos rfl, tallied.counts, List.length_append, counted, counted]
      by_cases none : (p.usersOf other).length = 0 <;> simp [none]
    · rw [if_neg meant, if_neg (Ne.symm meant), List.append_nil]
      exact tallied.counts other
  · simp only [give, names_put, tallied.named]
  · intro other
    rw [entered, Lobby.enter, usersOf_asks]
    by_cases meant : other = name
    · subst meant
      rw [line_setLine, tallied.line, if_pos rfl, List.map_append]
      rfl
    · rw [line_setLine_of_ne _ meant, if_neg (Ne.symm meant), List.append_nil]
      exact tallied.line other
  · rw [entered, Lobby.enter, names_setLine, if_neg (by simp), tallied.names]
    simp only [give, names_put]

theorem usersOf_goes (p : Process σ Task) (outside : σ) (r : LockRegistry) (gone : Task) (inside : List Task)
    (name : String) :
    Process.usersOf ⟨outside, r, p.tickets.filter fun other => other.task != gone, inside⟩ name =
      (p.usersOf name).filter fun other => other.task != gone := by
  simp only [Process.usersOf, List.filter_filter]
  exact List.filter_congr fun other _ => Bool.and_comm _ _

variable [LawfulBEq Task]

/-- The line of a name after a task has gone. -/
theorem Tallied.line_left (tallied : Tallied lobby p) (gone : Task) (name : String) :
    ((p.usersOf name).filter fun other => other.task != gone).map Ticket.task =
      ((p.usersOf name).map Ticket.task).erase gone := by
  have unique : ((p.usersOf name).map Ticket.task).Nodup := tallied.distinct.sublist (List.filter_sublist.map _)
  rw [unique.erase_eq_filter, List.filter_map]
  rfl

theorem Tallied.length_left (tallied : Tallied lobby p) (present : ticket ∈ p.tickets) (name : String) :
    ((p.usersOf name).filter fun other => other.task != ticket.task).length =
      if name = ticket.name then (p.usersOf name).length - 1 else (p.usersOf name).length := by
  have line := congrArg List.length (tallied.line_left ticket.task name)
  rw [List.length_map] at line
  rw [line]
  by_cases meant : name = ticket.name
  · have member : ticket.task ∈ (p.usersOf name).map Ticket.task :=
      List.mem_map_of_mem (mem_usersOf.mpr ⟨present, meant.symm⟩)
    rw [if_pos meant, List.length_erase_of_mem member, List.length_map]
  · rw [if_neg meant, List.erase_of_not_mem (tallied.absent present meant), List.length_map]

theorem Tallied.goes (ok : Sealed link lobby) (tallied : Tallied lobby p) (present : ticket ∈ p.tickets) :
    Tallied lobby
      ⟨(leaveLock link lobby ticket.name ticket.task .within p.outside).2, p.registry.release ticket.name,
        p.tickets.filter fun other => other.task != ticket.task, p.inside.filter (· != ticket.task)⟩ := by
  have used : p.usersOf ticket.name ≠ [] := List.ne_nil_of_mem (mem_usersOf.mpr ⟨present, rfl⟩)
  have some_users : (p.usersOf ticket.name).length ≠ 0 := by simpa using used
  have count : p.registry.users.lookup ticket.name = some (p.usersOf ticket.name).length := by
    rw [tallied.counts, counted, if_neg some_users]
  have left := leaveLock_within ok ticket.name ticket.task p.outside
  have erased : ((lobby.read p.outside).line ticket.name).erase ticket.task = [] ↔
      (p.usersOf ticket.name).length - 1 = 0 := by
    rw [tallied.line, ← tallied.line_left, List.map_eq_nil_iff, ← List.length_eq_zero_iff, tallied.length_left present,
      if_pos rfl]
  refine ⟨?_, ?_, ?_, ?_, ?_, ?_, ?_, ?_⟩
  · exact tallied.distinct.sublist (List.filter_sublist.map _)
  · intro task member
    obtain ⟨inside, stays⟩ := List.mem_filter.mp member
    obtain ⟨other, known, rfl⟩ := List.mem_map.mp (tallied.present task inside)
    exact List.mem_map_of_mem (List.mem_filter.mpr ⟨known, stays⟩)
  · intro other member
    obtain ⟨known, stays⟩ := List.mem_filter.mp member
    have lock := tallied.given other known
    rw [release, count]
    dsimp only [Option.getD_some]
    split
    next => exact lock
    next last =>
      -- Nobody but the one who goes uses the lock that is struck off.
      have elsewhere : other.name ≠ ticket.name := by
        intro same
        have alone := tallied.length_left present ticket.name
        rw [if_pos rfl, Nat.eq_zero_of_not_pos last, List.length_eq_zero_iff, List.filter_eq_nil_iff] at alone
        exact alone other (mem_usersOf.mpr ⟨known, same⟩) stays
      rw [lookup_strike, if_neg elsewhere]
      exact lock
  · intro a member b other same inside both
    exact tallied.apart a (List.mem_filter.mp member).1 b (List.mem_filter.mp other).1 same (List.mem_filter.mp inside).1
      (List.mem_filter.mp both).1
  · intro other
    rw [usersOf_goes, tallied.length_left present, release, count]
    dsimp only [Option.getD_some]
    split
    next several =>
      rw [lookup_put]
      by_cases meant : other = ticket.name
      · subst meant
        rw [if_pos rfl, if_pos rfl, counted, if_neg (Nat.ne_of_gt several)]
      · rw [if_neg meant, if_neg meant]
        exact tallied.counts other
    next last =>
      rw [lookup_strike]
      by_cases meant : other = ticket.name
      · subst meant
        rw [if_pos rfl, if_pos rfl, Nat.eq_zero_of_not_pos last]
        rfl
      · rw [if_neg meant, if_neg meant]
        exact tallied.counts other
  · rw [release, count]
    dsimp only [Option.getD_some]
    split
    next =>
      have registered := (tallied.registered_iff ticket.name).mpr used
      rw [names_put, tallied.named, if_pos registered]
    next => rw [names_strike, names_strike, tallied.named]
  · intro other
    rw [left, Lobby.leave, usersOf_goes, tallied.line_left]
    by_cases meant : other = ticket.name
    · subst meant
      rw [line_setLine, tallied.line]
    · rw [line_setLine_of_ne _ meant, List.erase_of_not_mem (tallied.absent present meant), tallied.line]
  · have registered := (tallied.registered_iff ticket.name).mpr used
    rw [left, Lobby.leave, names_setLine, tallied.names, release, count]
    dsimp only [Option.getD_some]
    by_cases last : (p.usersOf ticket.name).length - 1 = 0
    · rw [if_pos (erased.mpr last), if_neg (by omega), names_strike]
    · rw [if_neg (mt erased.mp last), if_pos registered, if_pos (Nat.pos_of_ne_zero last)]

/-- Each step keeps the registry as the tickets tell it. -/
theorem Tallied.step (ok : Sealed link lobby) (tallied : Tallied lobby p) (step : Step link lobby p next) :
    Tallied lobby next := by
  cases step with
  | asks task name seconds new ungranted => exact tallied.asks ok new ungranted
  | enters ticket present free => exact tallied.enters present free
  | goes ticket present => exact tallied.goes ok present
  | elsewhere outside untouched => exact tallied.elsewhere untouched

theorem Reached.tallied (ok : Sealed link lobby) (reached : Reached link lobby p) : Tallied lobby p := by
  induction reached with
  | vacant outside free => exact .vacant free
  | step _ step tallied => exact tallied.step ok step

/-- However the tasks that are granted no shared lock come and go: a name has a count if somebody holds or waits for its
lock, which is the number of those who do. It has a registered lock just then, and all of them were given that one, so that
at most one is inside. When nobody is left, nothing is registered or counted. The lobby has the same names in the same
order, with the users of each in the order of asking. -/
theorem registry_tells_its_users (ok : Sealed link lobby) (reached : Reached link lobby p) :
    (∀ name, p.registry.users.lookup name = counted (p.usersOf name).length ∧
      (name ∈ p.registry.locks.map Prod.fst ↔ p.usersOf name ≠ []) ∧
      (∀ ticket ∈ p.usersOf name, p.registry.locks.lookup name = some ticket.lock) ∧
      (∀ a ∈ p.usersOf name, ∀ b ∈ p.usersOf name, a.task ∈ p.inside → b.task ∈ p.inside → a = b) ∧
      (lobby.read p.outside).line name = (p.usersOf name).map Ticket.task ∧
      (lobby.read p.outside).users name = (p.registry.users.lookup name).getD 0) ∧
    (lobby.read p.outside).names = p.registry.locks.map Prod.fst ∧
    (p.tickets = [] → p.registry.locks = [] ∧ p.registry.users = []) := by
  have tallied := reached.tallied ok
  have given : ∀ name, ∀ ticket ∈ p.usersOf name, p.registry.locks.lookup name = some ticket.lock := by
    intro name ticket uses
    obtain ⟨known, rfl⟩ := mem_usersOf.mp uses
    exact tallied.given ticket known
  refine ⟨fun name => ⟨tallied.counts name, tallied.registered_iff name, given name, ?_, tallied.line name, ?_⟩,
    tallied.names, fun deserted => ?_⟩
  · intro a uses b other inside both
    have same : a.lock = b.lock := Option.some.inj ((given name a uses).symm.trans (given name b other))
    exact tallied.apart a (mem_usersOf.mp uses).1 b (mem_usersOf.mp other).1 same inside both
  · rw [Lobby.users, tallied.line, List.length_map, tallied.counts, counted]
    split
    next none => exact none
    next => rfl
  · have unregistered : p.registry.locks.map Prod.fst = [] := by
      refine List.eq_nil_iff_forall_not_mem.mpr fun name registered => ?_
      refine (tallied.registered_iff name).mp registered ?_
      rw [Process.usersOf, deserted]
      rfl
    exact ⟨List.map_eq_nil_iff.mp unregistered, List.map_eq_nil_iff.mp (tallied.named.trans unregistered)⟩

/-- While the cache cannot be reached, a task is cancelled while it waits for the lock of a contact, and the one that held it
fails. The next one to come for that contact is given a new lock; that of another contact has been held all the while. -/
def shift : Process Outside Nat where
  outside := { cache := { isDown := true }, lobby := ⟨[("lock:address:b", [2]), ("lock:address:a", [3])]⟩ }
  registry := ⟨[("lock:address:b", 2), ("lock:address:a", 3)], [("lock:address:b", 1), ("lock:address:a", 1)], 4⟩
  tickets := [⟨2, "lock:address:b", 2⟩, ⟨3, "lock:address:a", 3⟩]
  inside := [2, 3]

theorem shift_reached : Reached cached.link Conversation.lobby shift := by
  have vacant : Reached cached.link Conversation.lobby { outside := { cache := { isDown := true } } } := .vacant _ rfl
  have asked := vacant.step (.asks 0 "lock:address:a" 30 List.not_mem_nil rfl)
  have held := asked.step (.enters ⟨0, "lock:address:a", 0⟩ (.head _) fun _ _ _ => List.not_mem_nil)
  have waited := held.step (.asks 1 "lock:address:a" 30 (by simp) rfl)
  have apart := waited.step (.asks 2 "lock:address:b" 30 (by simp) rfl)
  have both := apart.step (.enters ⟨2, "lock:address:b", 2⟩ (.tail _ (.tail _ (.head _))) (by decide))
  have cancelled := both.step (.goes ⟨1, "lock:address:a", 0⟩ (.tail _ (.head _)))
  have failed := cancelled.step (.goes ⟨0, "lock:address:a", 0⟩ (.head _))
  have again := failed.step (.asks 3 "lock:address:a" 30 (by simp) rfl)
  have inside := again.step (.enters ⟨3, "lock:address:a", 3⟩ (.tail _ (.head _)) (by decide))
  exact inside.step (.elsewhere shift.outside rfl)

theorem shift_is_told :
    (Sealed cached.link Conversation.lobby ∧ Reached cached.link Conversation.lobby shift) ∧
      shift.registry.users.lookup "lock:address:a" = some 1 ∧ shift.registry.locks.lookup "lock:address:a" = some 3 ∧
      shift.outside.lobby.line "lock:address:a" = [3] ∧
      shift.outside.lobby.names = ["lock:address:b", "lock:address:a"] := by
  have ok := sealed_service cached
  obtain ⟨each, names, _⟩ := registry_tells_its_users ok shift_reached
  obtain ⟨count, _, given, _, line, _⟩ := each "lock:address:a"
  exact ⟨⟨ok, shift_reached⟩, count, given ⟨3, "lock:address:a", 3⟩ (mem_usersOf.mpr ⟨.tail _ (.head _), rfl⟩), line, names⟩

end Chatflow.Proofs.LockRegistries
