import Chatflow.Breaker.Local

/-! Calls through a breaker that is kept in memory. Calls come in and end in any order, so that one which was let in
while the circuit was closed may end while it is open, or while it is probed. A history tells what has happened at a
breaker, the latest first, and the counters of the breaker are what its history tells. -/

namespace Chatflow.Proofs.BreakerTraffic
open Breaker

variable {τ : Type}

/-- What happens to a call at a breaker. -/
inductive Happening where
  | started (call : Nat)
  | refused (call : Nat)
  | ended (call : Nat) (success : Bool)

namespace Happening

def IsStart : Happening → Prop
  | started _ => True
  | _ => False

def IsRefusal : Happening → Prop
  | refused _ => True
  | _ => False

/-- How a call ended. -/
def success? : Happening → Option Bool
  | ended _ success => some success
  | _ => none

end Happening

structure Entry (τ : Type) where
  happening : Happening
  now : τ
  /-- The state of the circuit from then on. -/
  state : CircuitState

/-- A breaker, and the calls that were let in and have not ended. -/
structure Traffic (τ : Type) where
  breaker : Breaker τ
  running : List Nat := []

/-- The histories of a breaker, each with what it leads to. A call ends once it was let in, sooner or later. -/
inductive Run [Clock τ] (limits : BreakerLimits) : List (Entry τ) → Traffic τ → Prop where
  | fresh : Run limits [] { breaker := { limits := limits } }
  | started {h t b} (run : Run limits h t) (call : Nat) (now : τ) (admitted : t.breaker.letThrough now = some b) :
      Run limits (⟨.started call, now, b.state⟩ :: h) ⟨b, call :: t.running⟩
  | refused {h t} (run : Run limits h t) (call : Nat) (now : τ) (unadmitted : t.breaker.letThrough now = none) :
      Run limits (⟨.refused call, now, t.breaker.state⟩ :: h) t
  | ended {h t call} (run : Run limits h t) (now : τ) (success : Bool) (member : call ∈ t.running) :
      Run limits (⟨.ended call success, now, (t.breaker.finish now success).state⟩ :: h)
        ⟨t.breaker.finish now success, t.running.erase call⟩

/-- A call through a breaker takes the steps of a history, whatever calls come in and end while it is at work. -/
theorem Run.call [Clock τ] {σ α : Type} {limits : BreakerLimits} {h : List (Entry τ)} {t : Traffic τ}
    (run : Run limits h t) {part : Part σ (Breaker τ)} (faithful : ∀ b s, part.read (part.write b s) = b)
    {work : StateM σ (Except Fault α)} (call : Nat)
    (meanwhile : ∀ {h t s}, Run limits h t → part.read s = t.breaker →
      ∃ later u, Run limits (later ++ h) u ∧ part.read (work s).2 = u.breaker ∧ ∀ other ∈ t.running, other ∈ u.running)
    (service : String) (now : τ) {s : σ} (found : part.read s = t.breaker) :
    ∃ later u, Run limits (later ++ h) u ∧ part.read (Breaker.call part service now work s).2 = u.breaker ∧
      ∀ other ∈ t.running, other ≠ call → other ∈ u.running := by
  simp only [Breaker.call, bind, StateT.bind, get, getThe, MonadStateOf.get, StateT.get, pure, found]
  cases admitted : t.breaker.letThrough now with
  | none => exact ⟨[_], t, run.refused call now admitted, found, fun _ member _ => member⟩
  | some b =>
    obtain ⟨later, u, reached, left, running⟩ := meanwhile (run.started call now admitted) (faithful b s)
    have finished := reached.ended now (work (part.write b s)).1.isOk (running call List.mem_cons_self)
    rw [List.append_cons, ← List.cons_append] at finished
    refine ⟨_, _, finished, ?_, fun other member distinct => ?_⟩
    · rw [← left]
      exact faithful _ _
    · exact (List.mem_erase_of_ne distinct).mpr (running other (List.mem_cons_of_mem _ member))

/-- A history that a clock tells which does not go back: a time that has passed from one reading to another has passed
to every later one. -/
def Nondecreasing [Clock τ] (seconds : Amount) : List (Entry τ) → Prop
  | [] => True
  | entry :: earlier =>
    earlier.Pairwise (fun later former => Clock.passed former.now later.now seconds = true →
      Clock.passed former.now entry.now seconds = true) ∧ Nondecreasing seconds earlier

/-- The state that a history leads to. -/
def standing : List (Entry τ) → CircuitState
  | [] => .closed
  | entry :: _ => entry.state

/-- How the calls of a history ended. -/
def endings (h : List (Entry τ)) : List Bool := h.filterMap fun entry => entry.happening.success?

/-- How many of the calls that ended last failed in a row. -/
def failuresInRow (h : List (Entry τ)) : Nat := ((endings h).takeWhile not).length

/-- What has happened since the circuit began to be probed, if it still is. -/
def probing (h : List (Entry τ)) : List (Entry τ) := h.takeWhile fun entry => entry.state == .halfOpen

/-- Since when the circuit is open, if it is. -/
def openSince? : List (Entry τ) → Option τ
  | [] => none
  | entry :: earlier => if entry.state = .opened then some ((openSince? earlier).getD entry.now) else none

variable {h earlier : List (Entry τ)} {entry : Entry τ}

@[simp]
theorem standing_cons : standing (entry :: h) = entry.state := rfl

theorem endings_cons : endings (entry :: h) = entry.happening.success?.toList ++ endings h := by
  simp only [endings, List.filterMap_cons]
  cases entry.happening.success? <;> rfl

theorem probing_cons (probed : entry.state = .halfOpen) : probing (entry :: h) = entry :: probing h :=
  List.takeWhile_cons_of_pos (by simp [probed])

theorem probing_nil (other : standing h ≠ .halfOpen) : probing h = [] := by
  cases h with
  | nil => rfl
  | cons entry earlier => exact List.takeWhile_cons_of_neg (by simpa using other)

theorem openSince?_cons (isOpen : entry.state = .opened) :
    openSince? (entry :: h) = some ((openSince? h).getD entry.now) := if_pos isOpen

theorem openSince?_none (other : standing h ≠ .opened) : openSince? h = none := by
  cases h with
  | nil => rfl
  | cons entry earlier => exact if_neg other

theorem standing_of_openSince? {time : τ} (since : openSince? h = some time) : standing h = .opened := by
  refine Decidable.byContradiction fun other => ?_
  rw [openSince?_none other] at since
  cases since

theorem replicate_isPrefix_iff {n : Nat} {l : List Bool} :
    List.replicate n false <+: l ↔ n ≤ (l.takeWhile not).length := by
  induction l generalizing n with
  | nil => cases n <;> simp [List.replicate_succ]
  | cons b rest ih =>
    cases n with
    | zero => simp
    | succ n => cases b <;> simp [List.replicate_succ, ih]

/-- The counters of a breaker are what a history tells, and none of them has come up to its limit. -/
structure Told (failures : Nat) (seconds : Amount) (probes : Nat) (h : List (Entry τ)) (b : Breaker τ) : Prop where
  limits : b.limits = ⟨.whole failures, seconds, .whole probes⟩
  state : b.state = standing h
  closed : standing h = .closed → b.failures = failuresInRow h ∧ failuresInRow h < failures
  halfOpen : standing h = .halfOpen →
    ∃ n : Nat, b.probes = n ∧ n < probes ∧ endings (probing h) = List.replicate n true
  opened : standing h = .opened → b.openedAt = openSince? h ∧ (openSince? h).isSome

variable {failures probes : Nat} {seconds : Amount} {b : Breaker τ}

theorem told_fresh (someFailures : 1 ≤ failures) :
    Told failures seconds probes [] ({ limits := ⟨.whole failures, seconds, .whole probes⟩ } : Breaker τ) where
  limits := rfl
  state := rfl
  closed _ := ⟨rfl, someFailures⟩
  halfOpen probed := by cases probed
  opened isOpen := by cases isOpen

/-- A call that comes in and leaves the state of the circuit alone changes nothing of what its history tells. -/
theorem Told.passes (told : Told failures seconds probes h b) (still : entry.state = standing h)
    (coming : entry.happening.success? = none) : Told failures seconds probes (entry :: h) b := by
  have same : ∀ earlier, endings (entry :: earlier) = endings earlier := fun earlier => by
    rw [endings_cons, coming]
    rfl
  refine ⟨told.limits, told.state.trans still.symm, fun isClosed => ?_, fun probed => ?_, fun isOpen => ?_⟩
  · rw [failuresInRow, same]
    exact told.closed (still.symm.trans isClosed)
  · rw [probing_cons probed, same]
    exact told.halfOpen (still.symm.trans probed)
  · obtain ⟨since, known⟩ := told.opened (still.symm.trans isOpen)
    obtain ⟨time, found⟩ := Option.isSome_iff_exists.mp known
    rw [openSince?_cons isOpen, since, found]
    exact ⟨rfl, rfl⟩

/-- Once enough time has passed, the circuit is probed from the next call on. -/
theorem Told.probed (told : Told failures seconds probes h b) (someProbes : 1 ≤ probes) (isOpen : b.state = .opened)
    (now : τ) (probed : entry.state = .halfOpen) (coming : entry.happening.success? = none) :
    Told failures seconds probes (entry :: h) (b.enter .halfOpen now) := by
  have entered : b.enter .halfOpen now = { b with state := .halfOpen, probes := 0 } := by
    simp [enter, isOpen]
  have fresh : probing h = [] := probing_nil (by rw [← told.state, isOpen]; decide)
  rw [entered]
  refine ⟨told.limits, probed.symm, fun isClosed => ?_, fun _ => ⟨0, rfl, someProbes, ?_⟩, fun isOpen => ?_⟩
  · rw [standing_cons, probed] at isClosed
    cases isClosed
  · rw [probing_cons probed, fresh, endings_cons, coming]
    rfl
  · rw [standing_cons, probed] at isOpen
    cases isOpen

theorem enter_state (b : Breaker τ) (state : CircuitState) (now : τ) : (b.enter state now).state = state := by
  unfold enter
  split
  next same => exact same.symm
  next => rfl

theorem succeeded_closed (isClosed : b.state = .closed) (now : τ) : b.succeeded now = { b with failures := 0 } := by
  simp [succeeded, isClosed]

theorem failed_closed (isClosed : b.state = .closed) (now : τ) :
    b.failed now = if b.limits.failures.reachedBy (b.failures + 1) then
      { b with failures := b.failures + 1, state := .opened, probes := 0, openedAt := some now }
      else { b with failures := b.failures + 1 } := by
  simp [failed, enter, isClosed]

theorem succeeded_halfOpen (probed : b.state = .halfOpen) (now : τ) :
    b.succeeded now = if b.limits.probes.reachedBy (b.probes + 1) then
      { b with failures := 0, state := .closed, probes := 0 } else { b with probes := b.probes + 1 } := by
  simp [succeeded, enter, probed]

theorem failed_halfOpen (probed : b.state = .halfOpen) (now : τ) :
    b.failed now = { b with failures := b.failures + 1, state := .opened, probes := 0, openedAt := some now } := by
  simp [failed, enter, probed]

/-- A call that ends while the circuit is open does not change its state, nor since when it is open. -/
theorem finish_opened (isOpen : b.state = .opened) (now : τ) (success : Bool) :
    ∃ counted, b.finish now success = { b with failures := counted } := by
  cases success with
  | true => exact ⟨0, by simp [finish, succeeded, isOpen]⟩
  | false => exact ⟨b.failures + 1, by simp [finish, failed, enter, isOpen]⟩

theorem failuresInRow_succeeded (call : Nat) (now : τ) (state : CircuitState) :
    failuresInRow (⟨.ended call true, now, state⟩ :: h) = 0 := by
  rw [failuresInRow, endings_cons]
  rfl

theorem failuresInRow_failed (call : Nat) (now : τ) (state : CircuitState) :
    failuresInRow (⟨.ended call false, now, state⟩ :: h) = failuresInRow h + 1 := by
  rw [failuresInRow, endings_cons]
  rfl

theorem openSince?_opened (call : Nat) (now : τ) (success : Bool) (other : standing h ≠ .opened) :
    openSince? (⟨.ended call success, now, .opened⟩ :: h) = some now := by
  rw [openSince?_cons rfl, openSince?_none other, Option.getD_none]

/-- A call that ends while the circuit is closed opens it exactly if it is the last of too many failures in a row. -/
theorem Told.ended_closed (told : Told failures seconds probes h b) (isClosed : standing h = .closed) (call : Nat)
    (now : τ) (success : Bool) :
    let entry : Entry τ := ⟨.ended call success, now, (b.finish now success).state⟩
    Told failures seconds probes (entry :: h) (b.finish now success) ∧
      (entry.state ≠ .closed ↔ failures ≤ failuresInRow (entry :: h)) := by
  have stood : b.state = .closed := told.state.trans isClosed
  obtain ⟨counted, below⟩ := told.closed isClosed
  dsimp only
  cases success with
  | true =>
    rw [finish, if_pos rfl, succeeded_closed stood, failuresInRow_succeeded]
    refine ⟨⟨told.limits, rfl, fun _ => ?_, fun probed => ?_, fun isOpen => ?_⟩, ?_⟩
    · rw [failuresInRow_succeeded]
      exact ⟨rfl, Nat.zero_lt_of_lt below⟩
    · rw [standing_cons, stood] at probed
      cases probed
    · rw [standing_cons, stood] at isOpen
      cases isOpen
    · exact ⟨fun left => absurd stood left, fun reached => absurd below (by omega)⟩
  | false =>
    have limit : b.limits.failures.reachedBy (b.failures + 1) = decide (failures ≤ failuresInRow h + 1) := by
      rw [told.limits, counted]
      exact decide_eq_decide.mpr (by omega)
    rw [finish, if_neg Bool.false_ne_true, failed_closed stood, limit, failuresInRow_failed]
    by_cases reached : failures ≤ failuresInRow h + 1
    · rw [decide_eq_true reached, if_pos rfl]
      refine ⟨⟨told.limits, rfl, fun isClosed => ?_, fun probed => ?_, fun _ => ?_⟩, fun _ => reached,
        fun _ isClosed => by cases isClosed⟩
      · cases isClosed
      · cases probed
      · rw [openSince?_opened _ _ _ (by rw [isClosed]; decide)]
        exact ⟨rfl, rfl⟩
    · rw [decide_eq_false reached, if_neg Bool.false_ne_true]
      refine ⟨⟨told.limits, rfl, fun _ => ?_, fun probed => ?_, fun isOpen => ?_⟩, fun left => absurd stood left,
        fun impossible => absurd impossible reached⟩
      · rw [failuresInRow_failed]
        exact ⟨by rw [counted]; rfl, by omega⟩
      · rw [standing_cons, stood] at probed
        cases probed
      · rw [standing_cons, stood] at isOpen
        cases isOpen

/-- A call that ends while the circuit is probed opens it if it failed, and closes it exactly if it is the last of as
many successful ones as are asked for. -/
theorem Told.ended_halfOpen (told : Told failures seconds probes h b) (someFailures : 1 ≤ failures)
    (probed : standing h = .halfOpen) (call : Nat) (now : τ) (success : Bool) :
    let entry : Entry τ := ⟨.ended call success, now, (b.finish now success).state⟩
    Told failures seconds probes (entry :: h) (b.finish now success) ∧
      (entry.state = .closed ↔ endings (entry :: probing h) = List.replicate probes true) := by
  have stood : b.state = .halfOpen := told.state.trans probed
  obtain ⟨n, counted, below, succeeded⟩ := told.halfOpen probed
  dsimp only
  cases success with
  | false =>
    rw [finish, if_neg Bool.false_ne_true, failed_halfOpen stood, endings_cons]
    refine ⟨⟨told.limits, rfl, fun isClosed => ?_, fun probed => ?_, fun _ => ?_⟩, fun isClosed => ?_, fun all => ?_⟩
    · cases isClosed
    · cases probed
    · rw [openSince?_opened _ _ _ (by rw [probed]; decide)]
      exact ⟨rfl, rfl⟩
    · cases isClosed
    · have failed : false ∈ List.replicate probes true := by
        rw [← all]
        exact List.mem_cons_self
      cases List.eq_of_mem_replicate failed
  | true =>
    have limit : b.limits.probes.reachedBy (b.probes + 1) = decide (probes ≤ n + 1) := by
      rw [told.limits, counted]
      exact decide_eq_decide.mpr (by omega)
    have more : ∀ state, endings ((⟨.ended call true, now, state⟩ : Entry τ) :: probing h) =
        List.replicate (n + 1) true := by
      intro state
      rw [endings_cons, succeeded]
      rfl
    rw [finish, if_pos rfl, succeeded_halfOpen stood, limit, more]
    by_cases reached : probes ≤ n + 1
    · rw [decide_eq_true reached, if_pos rfl]
      refine ⟨⟨told.limits, rfl, fun _ => ?_, fun probed => ?_, fun isOpen => ?_⟩, fun _ => ?_, fun _ => rfl⟩
      · rw [failuresInRow_succeeded]
        exact ⟨rfl, someFailures⟩
      · cases probed
      · cases isOpen
      · rw [show probes = n + 1 by omega]
    · rw [decide_eq_false reached, if_neg Bool.false_ne_true]
      refine ⟨⟨told.limits, rfl, fun isClosed => ?_, fun _ => ?_, fun isOpen => ?_⟩, fun isClosed => ?_, fun all => ?_⟩
      · rw [standing_cons, stood] at isClosed
        cases isClosed
      · rw [probing_cons stood, more]
        exact ⟨n + 1, by rw [counted]; rfl, by omega, rfl⟩
      · rw [standing_cons, stood] at isOpen
        cases isOpen
      · rw [stood] at isClosed
        cases isClosed
      · have length := congrArg List.length all
        rw [List.length_replicate, List.length_replicate] at length
        omega

/-- A call that ends while the circuit is open leaves it open. -/
theorem Told.ended_opened (told : Told failures seconds probes h b) (isOpen : standing h = .opened) (call : Nat)
    (now : τ) (success : Bool) :
    (b.finish now success).state = .opened ∧
      Told failures seconds probes (⟨.ended call success, now, .opened⟩ :: h) (b.finish now success) := by
  have stood : b.state = .opened := told.state.trans isOpen
  obtain ⟨counted, finished⟩ := finish_opened stood now success
  obtain ⟨since, known⟩ := told.opened isOpen
  obtain ⟨time, found⟩ := Option.isSome_iff_exists.mp known
  rw [finished]
  refine ⟨stood, told.limits, stood, fun isClosed => ?_, fun probed => ?_, fun _ => ?_⟩
  · cases isClosed
  · cases probed
  · rw [openSince?_cons rfl, found]
    exact ⟨since.trans found, rfl⟩

/-- The counters of a breaker stay below the limits of the state that it is in, and it knows since when it is open. -/
structure Bounded (failures probes : Nat) (b : Breaker τ) : Prop where
  closed : b.state = .closed → b.failures < failures
  halfOpen : b.state = .halfOpen → b.probes < probes
  opened : b.state = .opened → b.openedAt.isSome

theorem Told.bounded (told : Told failures seconds probes h b) : Bounded failures probes b := by
  refine ⟨fun isClosed => ?_, fun probed => ?_, fun isOpen => ?_⟩
  · obtain ⟨counted, below⟩ := told.closed (told.state.symm.trans isClosed)
    omega
  · obtain ⟨n, counted, below, _⟩ := told.halfOpen (told.state.symm.trans probed)
    omega
  · obtain ⟨since, known⟩ := told.opened (told.state.symm.trans isOpen)
    rw [since]
    exact known

section
variable [Clock τ] {t : Traffic τ} {later : List (Entry τ)}

/-- Readings that follow each other in an order do not go back, if a time that has passed stays passed along it. -/
theorem Nondecreasing.of_order {before : τ → τ → Prop}
    (stays : ∀ {time now after : τ}, before now after → Clock.passed time now seconds = true →
      Clock.passed time after seconds = true)
    (ordered : h.Pairwise fun later former => before former.now later.now) : Nondecreasing seconds h := by
  induction h with
  | nil => trivial
  | cons entry earlier ih =>
    obtain ⟨following, ordered⟩ := List.pairwise_cons.mp ordered
    refine ⟨?_, ih ordered⟩
    refine List.Pairwise.imp_of_mem (fun {later former} member _ _ passed => ?_) ordered
    exact stays (following later member) passed

/-- A call is let in by a circuit that is not open, and by one that has been open for long enough. -/
theorem letThrough_cases {b after : Breaker τ} {now : τ} (admitted : b.letThrough now = some after) :
    (b.state ≠ .opened ∧ after = b) ∨
      (b.state = .opened ∧ b.mayProbe now = true ∧ after = b.enter .halfOpen now) := by
  unfold letThrough at admitted
  split at admitted
  next other => exact Or.inl ⟨other, (Option.some.inj admitted).symm⟩
  next isOpen =>
    split at admitted
    next passed => exact Or.inr ⟨Decidable.not_not.mp isOpen, passed, (Option.some.inj admitted).symm⟩
    next => cases admitted

theorem Run.told (someFailures : 1 ≤ failures) (someProbes : 1 ≤ probes)
    (run : Run ⟨.whole failures, seconds, .whole probes⟩ h t) : Told failures seconds probes h t.breaker := by
  induction run with
  | fresh => exact told_fresh someFailures
  | started _ call now admitted told =>
    rcases letThrough_cases admitted with ⟨_, rfl⟩ | ⟨isOpen, _, rfl⟩
    · exact told.passes told.state rfl
    · exact told.probed someProbes isOpen now (enter_state _ _ _) rfl
  | refused _ call now _ told => exact told.passes told.state rfl
  | @ended h _ call _ now success _ told =>
    cases stood : standing h with
    | closed => exact (told.ended_closed stood call now success).1
    | halfOpen => exact (told.ended_halfOpen someFailures stood call now success).1
    | opened =>
      obtain ⟨stays, told⟩ := told.ended_opened stood call now success
      rw [stays]
      exact told

/-- Every call that is let in after the circuit was opened comes when its time has passed; until then it stays open. -/
theorem Run.after_opening (someFailures : 1 ≤ failures) (someProbes : 1 ≤ probes) {opening : Entry τ}
    (opens : opening.state = .opened) (before : standing earlier ≠ .opened)
    (run : Run ⟨.whole failures, seconds, .whole probes⟩ (later ++ opening :: earlier) t)
    (steady : Nondecreasing seconds (later ++ opening :: earlier)) :
    (∀ e ∈ later, e.happening.IsStart → Clock.passed opening.now e.now seconds = true) ∧
      ((∀ e ∈ later, ¬e.happening.IsStart) → openSince? (later ++ opening :: earlier) = some opening.now) := by
  induction later generalizing t with
  | nil =>
    refine ⟨fun _ member => absurd member List.not_mem_nil, fun _ => ?_⟩
    rw [List.nil_append, openSince?_cons opens, openSince?_none before, Option.getD_none]
  | cons e rest ih =>
    rw [List.cons_append] at run steady
    obtain ⟨goesOn, steady⟩ := steady
    cases run with
    | @started _ former b run call now admitted =>
      obtain ⟨passed, isOpen⟩ := ih run steady
      refine ⟨fun e member start => ?_, fun absent => absurd trivial (absent _ List.mem_cons_self)⟩
      rcases List.mem_cons.mp member with rfl | member
      · by_cases probed : ∃ e ∈ rest, e.happening.IsStart
        · obtain ⟨e, member, start⟩ := probed
          exact (List.pairwise_append.mp goesOn).2.2 e member opening List.mem_cons_self (passed e member start)
        · have since := isOpen fun e member start => probed ⟨e, member, start⟩
          have told := run.told someFailures someProbes
          have stood := standing_of_openSince? since
          rcases letThrough_cases admitted with ⟨other, _⟩ | ⟨_, passed, _⟩
          · exact absurd (told.state.trans stood) other
          · rw [mayProbe, (told.opened stood).1, since, told.limits] at passed
            exact passed
      · exact passed e member start
    | refused run call now unadmitted =>
      obtain ⟨passed, isOpen⟩ := ih run steady
      refine ⟨fun e member start => ?_, fun absent => ?_⟩
      · rcases List.mem_cons.mp member with rfl | member
        · exact start.elim
        · exact passed e member start
      · have since := isOpen fun e member => absent e (List.mem_cons_of_mem _ member)
        have stood := (run.told someFailures someProbes).state.trans (standing_of_openSince? since)
        rw [List.cons_append, openSince?_cons stood, since, Option.getD_some]
    | @ended _ former call run now success member =>
      obtain ⟨passed, isOpen⟩ := ih run steady
      refine ⟨fun e member start => ?_, fun absent => ?_⟩
      · rcases List.mem_cons.mp member with rfl | member
        · exact start.elim
        · exact passed e member start
      · have since := isOpen fun e member => absent e (List.mem_cons_of_mem _ member)
        have told := run.told someFailures someProbes
        have stays := (told.ended_opened (standing_of_openSince? since) call now success).1
        rw [List.cons_append, openSince?_cons stays, since, Option.getD_some]

/-- The circuit is left closed by whatever happens, but for the last of too many failures in a row. -/
theorem Run.leaves_closed (someFailures : 1 ≤ failures) (someProbes : 1 ≤ probes)
    (run : Run ⟨.whole failures, seconds, .whole probes⟩ (entry :: earlier) t) (isClosed : standing earlier = .closed) :
    entry.state ≠ .closed ↔ List.replicate failures false <+: endings (entry :: earlier) := by
  rw [replicate_isPrefix_iff, ← failuresInRow]
  have passes : ∀ {former : Traffic τ} {e : Entry τ}, Run ⟨.whole failures, seconds, .whole probes⟩ earlier former →
      e.state = former.breaker.state → e.happening.success? = none →
      (e.state ≠ .closed ↔ failures ≤ failuresInRow (e :: earlier)) := by
    intro former e run still coming
    have told := run.told someFailures someProbes
    have below := (told.closed isClosed).2
    rw [failuresInRow, endings_cons, coming]
    exact ⟨fun left => absurd (still.trans (told.state.trans isClosed)) left,
      fun reached => absurd below (Nat.not_lt.mpr reached)⟩
  cases run with
  | started run call now admitted =>
    rcases letThrough_cases admitted with ⟨_, rfl⟩ | ⟨isOpen, _, _⟩
    · exact passes run rfl rfl
    · rw [(run.told someFailures someProbes).state, isClosed] at isOpen
      cases isOpen
  | refused run call now _ => exact passes run rfl rfl
  | ended run now success _ => exact ((run.told someFailures someProbes).ended_closed isClosed _ now success).2

/-- The circuit is closed again by the last of as many successful calls as are asked for, if it is probed and none has
failed since then, and by nothing else. -/
theorem Run.closes (someFailures : 1 ≤ failures) (someProbes : 1 ≤ probes)
    (run : Run ⟨.whole failures, seconds, .whole probes⟩ (entry :: earlier) t) (left : standing earlier ≠ .closed) :
    entry.state = .closed ↔
      standing earlier = .halfOpen ∧ endings (entry :: probing earlier) = List.replicate probes true := by
  have passes : ∀ {former : Traffic τ} {e : Entry τ}, Run ⟨.whole failures, seconds, .whole probes⟩ earlier former →
      e.state ≠ .closed → e.happening.success? = none →
      (e.state = .closed ↔
        standing earlier = .halfOpen ∧ endings (e :: probing earlier) = List.replicate probes true) := by
    intro former e run stays coming
    have told := run.told someFailures someProbes
    refine ⟨fun isClosed => absurd isClosed stays, fun ⟨probed, all⟩ => ?_⟩
    obtain ⟨n, _, below, succeeded⟩ := told.halfOpen probed
    rw [endings_cons, coming, succeeded] at all
    have length := congrArg List.length all
    rw [Option.toList_none, List.nil_append, List.length_replicate, List.length_replicate] at length
    omega
  cases run with
  | started run call now admitted =>
    refine passes run ?_ rfl
    rcases letThrough_cases admitted with ⟨_, rfl⟩ | ⟨_, _, rfl⟩
    · dsimp only
      rwa [(run.told someFailures someProbes).state]
    · dsimp only
      rw [enter_state]
      decide
  | refused run call now _ => exact passes run (by dsimp only; rwa [(run.told someFailures someProbes).state]) rfl
  | @ended _ _ call run now success _ =>
    have told := run.told someFailures someProbes
    cases stood : standing earlier with
    | closed => exact absurd stood left
    | halfOpen =>
      rw [(told.ended_halfOpen someFailures stood call now success).2]
      exact ⟨fun all => ⟨rfl, all⟩, And.right⟩
    | opened =>
      have stays := (told.ended_opened stood call now success).1
      refine ⟨fun isClosed => ?_, fun ⟨impossible, _⟩ => by cases impossible⟩
      dsimp only at isClosed
      rw [stays] at isClosed
      cases isClosed

/-- What has happened up to some moment is a history of its own. -/
theorem Run.former {limits : BreakerLimits} (run : Run limits (later ++ earlier) t) :
    ∃ former, Run limits earlier former := by
  induction later generalizing t with
  | nil => exact ⟨t, run⟩
  | cons entry rest ih =>
    cases run with
    | started run | refused run | ended run => exact ih run

/-- However calls come in and end, the counters stay below their limits. A call that is refused changes nothing. After
the circuit was opened, no call is let in before its time has passed. It leaves off being closed exactly when the last
calls to end all failed, as many as its limit says, and it is closed again exactly when all calls that ended since it
began to be probed succeeded, as many as are asked for. -/
theorem circuit_keeps_its_limits (someFailures : 1 ≤ failures) (someProbes : 1 ≤ probes)
    (run : Run ⟨.whole failures, seconds, .whole probes⟩ h t) (steady : Nondecreasing seconds h) :
    Bounded failures probes t.breaker ∧ ∀ later entry earlier, h = later ++ entry :: earlier →
      (entry.happening.IsRefusal → ∀ u, Run ⟨.whole failures, seconds, .whole probes⟩ (entry :: earlier) u →
        Run ⟨.whole failures, seconds, .whole probes⟩ earlier u) ∧
      (entry.state = .opened → standing earlier ≠ .opened →
        ∀ e ∈ later, e.happening.IsStart → Clock.passed entry.now e.now seconds = true) ∧
      (standing earlier = .closed →
        (entry.state ≠ .closed ↔ List.replicate failures false <+: endings (entry :: earlier))) ∧
      (standing earlier ≠ .closed →
        (entry.state = .closed ↔
          standing earlier = .halfOpen ∧ endings (entry :: probing earlier) = List.replicate probes true)) := by
  refine ⟨(run.told someFailures someProbes).bounded, ?_⟩
  rintro later entry earlier rfl
  obtain ⟨former, reached⟩ := run.former
  refine ⟨fun refused u run => ?_, fun opens before => ?_, ?_, ?_⟩
  · cases run with
    | refused run => exact run
    | started | ended => exact refused.elim
  · exact (run.after_opening someFailures someProbes opens before steady).1
  · exact reached.leaves_closed someFailures someProbes
  · exact reached.closes someFailures someProbes

end

/-- Three calls come in, and the circuit is opened by the first two. A fourth is refused, the third succeeds too late to
matter, and once the time has passed a fifth closes the circuit. -/
def trip : List (Entry Reading) :=
  [⟨.ended 4 true, 63, .closed⟩, ⟨.started 4, 62, .halfOpen⟩, ⟨.ended 2 true, 40, .opened⟩, ⟨.refused 3, 30, .opened⟩,
    ⟨.ended 1 false, 2, .opened⟩, ⟨.ended 0 false, 1, .closed⟩, ⟨.started 2, 0, .closed⟩, ⟨.started 1, 0, .closed⟩,
    ⟨.started 0, 0, .closed⟩]

theorem trip_runs : Run ⟨2, 60, 1⟩ trip ⟨{ limits := ⟨2, 60, 1⟩, openedAt := some 2 }, []⟩ := by
  have idle : Run ⟨2, 60, 1⟩ ([] : List (Entry Reading)) ⟨{ limits := ⟨2, 60, 1⟩ }, []⟩ := .fresh
  have busy := ((idle.started 0 0 rfl).started 1 0 rfl).started 2 0 rfl
  have opened := (busy.ended 1 false (show 0 ∈ [2, 1, 0] by decide)).ended 2 false (show 1 ∈ [2, 1] by decide)
  have late := (opened.refused 3 30 rfl).ended 40 true (show 2 ∈ [2] by decide)
  exact (late.started 4 62 rfl).ended 63 true (show 4 ∈ [4] by decide)

theorem trip_keeps_its_limits :
    (1 ≤ 2 ∧ 1 ≤ 1 ∧ Run ⟨2, 60, 1⟩ trip ⟨{ limits := ⟨2, 60, 1⟩, openedAt := some 2 }, []⟩ ∧ Nondecreasing 60 trip) ∧
      Bounded 2 1 ({ limits := ⟨2, 60, 1⟩, openedAt := some 2 } : Breaker Reading) ∧
      Clock.passed (2 : Reading) 62 60 = true := by
  have steady : Nondecreasing (60 : Amount) trip := by
    simp only [trip, Nondecreasing]
    decide
  obtain ⟨bounded, told⟩ := circuit_keeps_its_limits (show 1 ≤ 2 by decide) (show 1 ≤ 1 by decide) trip_runs steady
  refine ⟨⟨by decide, by decide, trip_runs, steady⟩, bounded, ?_⟩
  have opening := told (trip.take 4) ⟨.ended 1 false, 2, .opened⟩ (trip.drop 5) rfl
  exact opening.2.1 rfl (by decide) ⟨.started 4, 62, .halfOpen⟩ (.tail _ (.head _)) trivial

end Chatflow.Proofs.BreakerTraffic
