import Chatflow.Proofs.BreakerTraffic
import Chatflow.Proofs.CacheOutages
import Chatflow.Proofs.CircuitTables

/-! A circuit that is kept in the shared cache, over histories of calls that come in and end in any order. Its table is kept
for a while only, from the last failure or from the moment when it was first probed. A circuit that was opened is closed
again by being probed, or because the cache has forgotten it. -/

namespace Chatflow.Proofs.ForgottenCircuits
open Cache Cache.Server SharedBreaker CacheOutages CacheSlots CircuitTables BreakerTraffic

/-- The state that a table tells of its circuit. -/
def stateIn (cells : List (String × Cell)) : CircuitState :=
  if saysState cells .opened then .opened else if saysState cells .halfOpen then .halfOpen else .closed

/-- What happens to a call, with the state in which it finds the circuit. -/
structure Encounter (τ : Type) extends Entry τ where
  found : CircuitState

variable {τ : Type}

def entries (h : List (Encounter τ)) : List (Entry τ) := h.map Encounter.toEntry

/-- The calls of a history that were let in and have not ended. -/
def running : List (Encounter τ) → List Nat
  | [] => []
  | e :: earlier =>
    match e.happening with
    | .started call => call :: running earlier
    | .refused _ => running earlier
    | .ended call _ => (running earlier).erase call

section
variable [Clock τ]

/-- The state of a circuit by what the cache holds at a moment. -/
def stateAt (c : Circuit) (now : τ) (s : Server τ) : CircuitState :=
  match cells? (prune s.slots now) c.key with
  | .ok cells => stateIn cells
  | .error _ => .closed

def react (c : Circuit) (now : τ) : Happening → Server τ → Server τ
  | .started _, s | .refused _, s => (isOpen (Server.perform now) c now s).2
  | .ended _ success, s => (note (Server.perform now) c now success s).2

/-- What can happen to a call, while some are running. -/
def Possible (c : Circuit) (now : τ) (s : Server τ) (running : List Nat) : Happening → Prop
  | .started _ => (isOpen (Server.perform now) c now s).1 = false
  | .refused _ => (isOpen (Server.perform now) c now s).1 = true
  | .ended call _ => call ∈ running

/-- The cache after a history, the latest first. -/
def cacheAfter (c : Circuit) (s : Server τ) : List (Encounter τ) → Server τ
  | [] => s
  | e :: earlier => react c e.now e.happening (cacheAfter c s earlier)

/-- A history is one of a circuit that is kept in a cache. -/
def Occurs (c : Circuit) (s : Server τ) : List (Encounter τ) → Prop
  | [] => True
  | e :: earlier =>
    Occurs c s earlier ∧ Possible c e.now (cacheAfter c s earlier) (running earlier) e.happening ∧
      e.found = stateAt c e.now (cacheAfter c s earlier) ∧ e.state = stateAt c e.now (cacheAfter c s (e :: earlier))

/-- Whether the table of a circuit is kept for a while from then on: at failures, and when the circuit is first probed. -/
def renews (e : Encounter τ) : Bool :=
  e.happening.success? == some false || (e.found == .opened && e.state == .halfOpen)

/-- Since when the table of a circuit is kept. -/
def renewed? (h : List (Encounter τ)) : Option τ := (h.find? renews).map fun e => e.now

/-- The table of a circuit was not renewed for too long. -/
def Forgotten (c : Circuit) (earlier : List (Encounter τ)) (e : Encounter τ) : Prop :=
  ∃ time ∈ renewed? earlier, Clock.reached (Clock.after time c.lifetime) e.now = true

/-- All calls that have ended since a circuit began to be probed were successful, and they are as many as are asked for. -/
def Probed (probes : Nat) (earlier : List (Encounter τ)) (e : Encounter τ) : Prop :=
  standing (entries earlier) = .halfOpen ∧ endings (e.toEntry :: probing (entries earlier)) = List.replicate probes true

variable {c : Circuit} {probes : Nat} {h earlier later : List (Encounter τ)} {e opening : Encounter τ} {s : Server τ}
  {now : τ} {cells : List (String × Cell)} {expires : Option τ} {state : CircuitState}

/-! The state in a table. -/

theorem saysState_eq (other : state ≠ .closed) : saysState cells state = decide (stateIn cells = state) := by
  unfold stateIn saysState
  cases state with
  | closed => exact absurd rfl other
  | opened =>
    cases cellText? cells "state" == some CircuitState.opened.name with
    | true => rfl
    | false => cases cellText? cells "state" == some CircuitState.halfOpen.name <;> rfl
  | halfOpen =>
    by_cases opened : cellText? cells "state" = some CircuitState.opened.name
    · rw [opened]
      rfl
    · rw [beq_eq_false_iff_ne.mpr opened]
      cases cellText? cells "state" == some CircuitState.halfOpen.name <;> rfl

theorem stateIn_setCell_self (cells : List (String × Cell)) (state : CircuitState) :
    stateIn (setCell cells "state" (.text state.name)) = state := by
  unfold stateIn
  simp only [saysState_setCell_self]
  cases state <;> rfl

theorem stateIn_setCell {name : String} (other : name ≠ "state") (cells : List (String × Cell)) (cell : Cell) :
    stateIn (setCell cells name cell) = stateIn cells := by
  simp only [stateIn, saysState_setCell other]

theorem stateIn_filter {name : String} (other : name ≠ "state") (cells : List (String × Cell)) :
    stateIn (cells.filter fun cell => cell.1 != name) = stateIn cells := by
  simp only [stateIn, saysState_filter other]

theorem stateIn_probedTable (cells : List (String × Cell)) : stateIn (probedTable cells) = .halfOpen := by
  rw [probedTable, stateIn_setCell (by decide), stateIn_setCell_self]

theorem stateIn_openedTable (now : τ) (cells : List (String × Cell)) : stateIn (openedTable now cells) = .opened := by
  rw [openedTable, stateIn_setCell (by decide), stateIn_setCell_self]

/-- To ask for a circuit changes nothing but that an open one may be probed. -/
theorem asked_cases (c : Circuit) (now : τ) (cells : List (String × Cell)) (expires : Option τ) :
    ((asked c now cells).2 = cells ∧ askedUntil c now cells expires = expires) ∨
      (stateIn cells = .opened ∧ (asked c now cells).2 = probedTable cells ∧
        askedUntil c now cells expires = some (Clock.after now c.lifetime)) := by
  unfold asked askedUntil
  cases opened : saysState cells .opened with
  | false => exact Or.inl ⟨rfl, rfl⟩
  | true =>
    rw [saysState_eq (by decide)] at opened
    cases (openedAt? cells : Option τ) with
    | none => exact Or.inl ⟨rfl, rfl⟩
    | some time =>
      dsimp only
      split
      · exact Or.inr ⟨of_decide_eq_true opened, rfl, rfl⟩
      · exact Or.inl ⟨rfl, rfl⟩

omit [Clock τ] in
/-- A success is not counted unless the circuit is probed, and then the last of enough successes closes it. -/
theorem succeeded_cases (c : Circuit) (n : Int) (cells : List (String × Cell)) (expires : Option τ) :
    (stateIn cells ≠ .halfOpen ∧ succeeded c n cells = (cells.filter fun cell => cell.1 != "failures") ∧
      succeededUntil c n cells expires = expires) ∨
    (stateIn cells = .halfOpen ∧ c.limits.probes.reachedBy (n + 1) = false ∧
      succeeded c n cells = setCell cells "successes" (.count (n + 1)) ∧ succeededUntil c n cells expires = expires) ∨
    (stateIn cells = .halfOpen ∧ c.limits.probes.reachedBy (n + 1) = true ∧
      succeeded c n cells = [] ∧ succeededUntil c n cells expires = none) := by
  unfold succeeded succeededUntil
  rw [saysState_eq (by decide)]
  by_cases probed : stateIn cells = .halfOpen
  · rw [decide_eq_true probed]
    cases enough : c.limits.probes.reachedBy (n + 1) with
    | false => exact Or.inr (Or.inl ⟨probed, rfl, rfl, rfl⟩)
    | true => exact Or.inr (Or.inr ⟨probed, rfl, rfl, rfl⟩)
  · rw [decide_eq_false probed]
    exact Or.inl ⟨probed, rfl, rfl⟩

/-- A failure is counted, and it may open the circuit. One that is probed is always opened. -/
theorem failed_cases (c : Circuit) (now : τ) (n : Int) (cells : List (String × Cell)) :
    failed c now n cells = openedTable now (setCell cells "failures" (.count (n + 1))) ∨
      (stateIn cells ≠ .halfOpen ∧ failed c now n cells = setCell cells "failures" (.count (n + 1))) := by
  unfold failed
  rw [saysState_eq (by decide)]
  dsimp only
  split
  next => exact Or.inl rfl
  next stays => exact Or.inr ⟨fun probed => stays (by rw [probed]; rfl), rfl⟩

theorem Occurs.former (occurs : Occurs c s (later ++ earlier)) : Occurs c s earlier := by
  induction later with
  | nil => exact occurs
  | cons e rest ih => exact ih occurs.1

/-- A call through the breaker takes the steps of a history, whatever calls come in and end while it is at work. -/
theorem Occurs.call {α : Type} {work : StateM (Server τ) (Except Fault α)} (occurs : Occurs c s h) (call : Nat) (now : τ)
    (meanwhile : ∀ h, Occurs c s h → ∃ later, Occurs c s (later ++ h) ∧
      (work (cacheAfter c s h)).2 = cacheAfter c s (later ++ h) ∧ ∀ other ∈ running h, other ∈ running (later ++ h)) :
    ∃ later, Occurs c s (later ++ h) ∧
      (SharedBreaker.call (Server.perform now) c now work (cacheAfter c s h)).2 = cacheAfter c s (later ++ h) ∧
      ∀ other ∈ running h, other ≠ call → other ∈ running (later ++ h) := by
  simp only [SharedBreaker.call, bind, StateT.bind]
  rcases asks : isOpen (Server.perform now) c now (cacheAfter c s h) with ⟨refused, s'⟩
  cases refused with
  | true =>
    let e : Encounter τ := ⟨⟨.refused call, now, stateAt c now s'⟩, stateAt c now (cacheAfter c s h)⟩
    refine ⟨[e], ⟨occurs, ?_, rfl, ?_⟩, ?_, fun _ member _ => member⟩
    · exact congrArg Prod.fst asks
    · exact congrArg (stateAt c now) (congrArg Prod.snd asks).symm
    · exact (congrArg Prod.snd asks).symm
  | false =>
    let e : Encounter τ := ⟨⟨.started call, now, stateAt c now s'⟩, stateAt c now (cacheAfter c s h)⟩
    have started : Occurs c s (e :: h) :=
      ⟨occurs, congrArg Prod.fst asks, rfl, congrArg (stateAt c now) (congrArg Prod.snd asks).symm⟩
    have after : cacheAfter c s (e :: h) = s' := congrArg Prod.snd asks
    obtain ⟨later, reached, left, kept⟩ := meanwhile _ started
    rw [after] at left
    let outcome := (work s').1.isOk
    let ended : Encounter τ := ⟨⟨.ended call outcome, now,
      stateAt c now (react c now (.ended call outcome) (cacheAfter c s (later ++ e :: h)))⟩,
      stateAt c now (cacheAfter c s (later ++ e :: h))⟩
    refine ⟨ended :: (later ++ [e]), ?_, ?_, ?_⟩ <;> rw [List.cons_append, ← List.append_cons]
    · exact ⟨reached, kept call List.mem_cons_self, rfl, rfl⟩
    · change (note (Server.perform now) c now outcome (work s').2).2 = _
      rw [left]
      rfl
    · intro other member distinct
      exact (List.mem_erase_of_ne distinct).mpr (kept other (List.mem_cons_of_mem _ member))

/-! What a table tells of a history. -/

/-- A table, and the time until which it is kept, as a history would have them in a state of the circuit. -/
structure Tells (c : Circuit) (probes : Nat) (h : List (Encounter τ)) (state : CircuitState)
    (kept : List (String × Cell) × Option τ) : Prop where
  shown : stateIn kept.1 = state
  failures : ∃ n, countIn kept.1 "failures" = .ok n
  stood : state ≠ .closed → standing (entries h) = state
  successes : state = .halfOpen →
    ∃ n : Nat, countIn kept.1 "successes" = .ok n ∧ n < probes ∧ endings (probing (entries h)) = List.replicate n true
  expires : state ≠ .closed → ∃ time ∈ renewed? h, kept.2 = some (Clock.after time c.lifetime)

theorem tells_nil (h : List (Encounter τ)) : Tells c probes h .closed ([], none) :=
  ⟨rfl, ⟨0, rfl⟩, absurd rfl, nofun, absurd rfl⟩

omit [Clock τ] in
theorem renewed?_cons (renewing : renews e = true) : renewed? (e :: h) = some e.now := by
  rw [renewed?, List.find?_cons_of_pos renewing]
  rfl

omit [Clock τ] in
theorem renewed?_cons_other (other : renews e = false) : renewed? (e :: h) = renewed? h := by
  rw [renewed?, List.find?_cons_of_neg (by rw [other]; decide)]
  rfl

/-- A call that comes in is not the last one of a probe. -/
theorem Tells.not_probed {kept : List (String × Cell) × Option τ} (tells : Tells c probes h state kept)
    (left : state ≠ .closed) (coming : e.happening.success? = none) : ¬ Probed probes h e := by
  rintro ⟨probed, all⟩
  obtain ⟨n, _, below, succeeded⟩ := tells.successes ((tells.stood left).symm.trans probed)
  rw [endings_cons, coming, succeeded] at all
  have length := congrArg List.length all
  rw [Option.toList_none, List.nil_append, List.length_replicate, List.length_replicate] at length
  omega

/-- What happens to a call may leave the state of a circuit as it is, and the time until which its table is kept. -/
theorem Tells.stays (tells : Tells c probes h state (cells, expires)) (still : e.state = state) (other : renews e = false)
    {left : List (String × Cell)} (shown : stateIn left = state) (failures : ∃ n, countIn left "failures" = .ok n)
    (successes : state = .halfOpen → ∃ n : Nat, countIn left "successes" = .ok n ∧ n < probes ∧
      endings (e.toEntry :: probing (entries h)) = List.replicate n true) :
    Tells c probes (e :: h) state (left, expires) where
  shown := shown
  failures := failures
  stood _ := still
  successes probed := by
    rw [entries, List.map_cons, probing_cons (still.trans probed)]
    exact successes probed
  expires := by
    rw [renewed?_cons_other other]
    exact tells.expires

theorem Tells.asked (tells : Tells c probes h state (cells, expires)) (someProbes : 1 ≤ probes) (found : e.found = state)
    (coming : e.happening.success? = none) (shown : e.state = stateIn (asked c e.now cells).2) :
    Tells c probes (e :: h) e.state ((asked c e.now cells).2, askedUntil c e.now cells expires) ∧
      (state ≠ .closed → (e.state = .closed ↔ Probed probes h e)) := by
  have same : ∀ former, endings (e.toEntry :: former) = endings former := fun former => by
    rw [endings_cons, coming]
    rfl
  rcases asked_cases c e.now cells expires with ⟨unchanged, still⟩ | ⟨opened, changed, renewed⟩
  · rw [unchanged, tells.shown] at shown
    rw [unchanged, still, shown]
    have other : renews e = false := by
      rw [renews, coming, found, shown]
      cases state <;> rfl
    refine ⟨tells.stays shown other tells.shown tells.failures ?_, fun left => ?_⟩
    · rw [same]
      exact tells.successes
    · exact ⟨fun isClosed => absurd isClosed left, fun probed => absurd probed (tells.not_probed left coming)⟩
  · have stood : state = .opened := tells.shown.symm.trans opened
    rw [changed, stateIn_probedTable] at shown
    rw [changed, renewed, shown]
    have renewing : renews e = true := by
      rw [renews, coming, found, stood, shown]
      rfl
    refine ⟨⟨stateIn_probedTable cells, ?_, fun _ => shown, fun _ => ⟨0, countIn_setCell_self _ _ _, someProbes, ?_⟩,
      fun _ => ⟨e.now, renewed?_cons renewing, rfl⟩⟩, fun left => ?_⟩
    · obtain ⟨n, counted⟩ := tells.failures
      refine ⟨n, ?_⟩
      rw [probedTable, countIn_setCell _ (by decide), countIn_setCell _ (by decide)]
      exact counted
    · have before : standing (entries h) = .opened := (tells.stood (by rw [stood]; decide)).trans stood
      rw [entries, List.map_cons, probing_cons shown, same, probing_nil]
      · rfl
      · exact fun probed => nomatch before.symm.trans probed
    · exact ⟨nofun, fun probed => absurd probed (tells.not_probed left coming)⟩

theorem Tells.succeeded (tells : Tells c probes h state (cells, expires)) (limit : c.limits.probes = .whole probes)
    (found : e.found = state) (ends : e.happening.success? = some true) {n : Nat}
    (counted : state = .halfOpen →
      countIn cells "successes" = .ok n ∧ n < probes ∧ endings (probing (entries h)) = List.replicate n true)
    (shown : e.state = stateIn (succeeded c n cells)) :
    Tells c probes (e :: h) e.state (succeeded c n cells, succeededUntil c n cells expires) ∧
      (state ≠ .closed → (e.state = .closed ↔ Probed probes h e)) := by
  have renewal : renews e = (state == .opened && e.state == .halfOpen) := by
    rw [renews, ends, found]
    rfl
  have more : state = .halfOpen → endings (e.toEntry :: probing (entries h)) = List.replicate (n + 1) true := by
    intro probed
    rw [endings_cons, ends, (counted probed).2.2]
    rfl
  have limited : c.limits.probes.reachedBy (n + 1) = decide (probes ≤ n + 1) := by
    rw [limit]
    exact decide_eq_decide.mpr (by omega)
  rcases succeeded_cases c n cells expires with
    ⟨other, changed, still⟩ | ⟨probed, few, changed, still⟩ | ⟨probed, enough, changed, gone⟩
  · rw [changed, stateIn_filter (by decide), tells.shown] at shown
    rw [tells.shown] at other
    rw [changed, still, shown]
    have lasting : renews e = false := by
      rw [renewal, shown]
      cases state <;> rfl
    have same : stateIn (cells.filter fun cell => cell.1 != "failures") = state :=
      (stateIn_filter (by decide) cells).trans tells.shown
    refine ⟨tells.stays shown lasting same ⟨0, countIn_filter_self _ _⟩ (absurd · other), fun left => ⟨(absurd · left), ?_⟩⟩
    rintro ⟨wasProbed, _⟩
    exact absurd ((tells.stood left).symm.trans wasProbed) other
  · rw [changed, stateIn_setCell (by decide), tells.shown] at shown
    rw [tells.shown] at probed
    rw [limited, decide_eq_false_iff_not] at few
    rw [changed, still, shown]
    have lasting : renews e = false := by
      rw [renewal, probed]
      rfl
    have same : stateIn (setCell cells "successes" (.count (n + 1))) = state :=
      (stateIn_setCell (by decide) cells _).trans tells.shown
    have failures : ∃ failures, countIn (setCell cells "successes" (.count (n + 1))) "failures" = .ok failures := by
      rw [countIn_setCell _ (by decide)]
      exact tells.failures
    refine ⟨tells.stays shown lasting same failures fun _ => ⟨n + 1, countIn_setCell_self _ _ _, by omega, more probed⟩,
      fun left => ⟨(absurd · left), ?_⟩⟩
    rintro ⟨_, all⟩
    have length := congrArg List.length all
    rw [more probed, List.length_replicate, List.length_replicate] at length
    omega
  · rw [changed] at shown
    rw [tells.shown] at probed
    rw [limited, decide_eq_true_iff] at enough
    rw [changed, gone, show e.state = .closed from shown]
    refine ⟨tells_nil _, fun left => ⟨fun _ => ⟨(tells.stood left).trans probed, ?_⟩, fun _ => rfl⟩⟩
    have below := (counted probed).2.1
    rw [more probed, show n + 1 = probes by omega]

theorem Tells.failed (tells : Tells c probes h state (cells, expires)) (ends : e.happening.success? = some false) {n : Int}
    (shown : e.state = stateIn (failed c e.now n cells)) :
    Tells c probes (e :: h) e.state (failed c e.now n cells, some (Clock.after e.now c.lifetime)) ∧
      (state ≠ .closed → (e.state = .closed ↔ Probed probes h e)) := by
  have renewing : renews e = true := by
    rw [renews, ends]
    rfl
  have renewed : ∃ time ∈ renewed? (e :: h), some (Clock.after e.now c.lifetime) = some (Clock.after time c.lifetime) :=
    ⟨e.now, renewed?_cons renewing, rfl⟩
  have unprobed : ¬ Probed probes h e := by
    rintro ⟨_, all⟩
    rw [endings_cons, ends] at all
    have failed : false ∈ List.replicate probes true := all ▸ List.mem_cons_self
    cases List.eq_of_mem_replicate failed
  rcases failed_cases c e.now n cells with changed | ⟨other, changed⟩
  · rw [changed, stateIn_openedTable] at shown
    rw [changed, shown]
    refine ⟨⟨stateIn_openedTable _ _, ⟨n + 1, ?_⟩, fun _ => shown, nofun, fun _ => renewed⟩,
      fun _ => ⟨nofun, (absurd · unprobed)⟩⟩
    rw [openedTable, countIn_setCell _ (by decide), countIn_setCell _ (by decide)]
    exact countIn_setCell_self _ _ _
  · rw [changed, stateIn_setCell (by decide), tells.shown] at shown
    rw [tells.shown] at other
    rw [changed, shown]
    refine ⟨⟨?_, ⟨n + 1, countIn_setCell_self _ _ _⟩, fun _ => shown, (absurd · other), fun _ => renewed⟩,
      fun left => ⟨(absurd · left), (absurd · unprobed)⟩⟩
    rw [stateIn_setCell (by decide)]
    exact tells.shown

/-! The cache of a history. -/

/-- The cache holds what a history tells. -/
structure Keeps (c : Circuit) (probes : Nat) (h : List (Encounter τ)) (s : Server τ) : Prop where
  up : s.isDown = false
  sole : Sole c.key s.slots
  table : ∃ cells, cells? s.slots c.key = .ok cells ∧
    Tells c probes h (standing (entries h)) (cells, (slot? s.slots c.key).bind Slot.expires)

theorem keeps_fresh (up : s.isDown = false) (fresh : slot? s.slots c.key = none) : Keeps c probes [] s := by
  refine ⟨up, .of_absent fresh, [], ?_, ?_⟩
  · rw [cells?, fresh]
  · rw [fresh]
    exact tells_nil []

theorem sole_of_commanded {key : String} {after : Server τ} (commanded : Commanded (some (Server.perform now)) s after)
    (sole : Sole key s.slots) : Sole key after.slots := by
  induction commanded with
  | still => exact sole
  | command _ linked c ih =>
    cases linked
    exact ih.perform now c

/-- A circuit is found in the state in which it was left, or it is forgotten. -/
theorem Keeps.found (keeps : Keeps c probes h s) (now : τ) :
    (∃ cells, cells? (prune s.slots now) c.key = .ok cells ∧
      Tells c probes h (stateAt c now s) (cells, (slot? (prune s.slots now) c.key).bind Slot.expires)) ∧
    (standing (entries h) ≠ .closed →
      (stateAt c now s = .closed ↔ ∃ time ∈ renewed? h, Clock.reached (Clock.after time c.lifetime) now = true)) := by
  obtain ⟨cells, stored, tells⟩ := keeps.table
  have pruned := keeps.sole.slot?_prune now
  cases kept : (slot? s.slots c.key).filter (lasts now) with
  | some slot =>
    obtain ⟨slotted, lasting⟩ := Option.filter_eq_some_iff.mp kept
    have still : cells? (prune s.slots now) c.key = .ok cells := by
      rw [← stored, cells?, cells?, pruned, kept, slotted]
    have shown : stateAt c now s = standing (entries h) := by
      rw [stateAt, still]
      exact tells.shown
    rw [shown, pruned, kept, ← slotted]
    refine ⟨⟨cells, still, tells⟩, fun left => ⟨(absurd · left), ?_⟩⟩
    rintro ⟨time, renewed, reached⟩
    obtain ⟨other, same, expires⟩ := tells.expires left
    cases Option.some.inj (renewed.symm.trans same)
    rw [slotted] at expires
    rw [lasts_eq expires, reached] at lasting
    cases lasting
  | none =>
    have gone : cells? (prune s.slots now) c.key = .ok [] := by rw [cells?, pruned, kept]
    have shown : stateAt c now s = .closed := by
      rw [stateAt, gone]
      rfl
    rw [shown, pruned, kept]
    refine ⟨⟨[], gone, tells_nil h⟩, fun left => ⟨fun _ => ?_, fun _ => rfl⟩⟩
    obtain ⟨time, renewed, expires⟩ := tells.expires left
    obtain ⟨slot, slotted, expires⟩ := Option.bind_eq_some_iff.mp expires
    rw [slotted, Option.filter_eq_none_iff] at kept
    have elapsed := kept slot rfl
    rw [lasts_eq expires] at elapsed
    exact ⟨time, renewed, by simpa using elapsed⟩

/-- What happens to a call finds the circuit in the state that the cache tells, and the cache then holds what happened. The
circuit is closed by the last of enough successful calls, if it is probed. -/
theorem Keeps.next (keeps : Keeps c probes h s) (limit : c.limits.probes = .whole probes) (someProbes : 1 ≤ probes)
    (lasting : Clock.reached (Clock.after e.now c.lifetime) e.now = false) (found : e.found = stateAt c e.now s)
    (left : e.state = stateAt c e.now (react c e.now e.happening s)) :
    Keeps c probes (e :: h) (react c e.now e.happening s) ∧
      (e.found ≠ .closed → (e.state = .closed ↔ Probed probes h e)) := by
  obtain ⟨⟨cells, stored, tells⟩, _⟩ := keeps.found e.now
  rw [← found] at tells
  have stands : ∀ {kept s'}, Current c e.now kept s' → stateAt c e.now s' = stateIn kept.1 := by
    intro kept s' current
    rw [stateAt, current.swept, current.stored]
  have holds : ∀ {kept s'}, Commanded (some (Server.perform e.now)) s s' → Current c e.now kept s' →
      Tells c probes (e :: h) e.state kept → Keeps c probes (e :: h) s' := by
    intro kept s' commanded current tells
    refine ⟨current.up, sole_of_commanded commanded keeps.sole, kept.1, current.stored, ?_⟩
    rw [current.expires]
    exact tells
  have comes : e.happening.success? = none → react c e.now e.happening s = (isOpen (Server.perform e.now) c e.now s).2 →
      Keeps c probes (e :: h) (react c e.now e.happening s) ∧ (e.found ≠ .closed → (e.state = .closed ↔ Probed probes h e)) := by
    intro coming reacts
    have commanded := isOpen_commanded (Server.perform e.now) c e.now s
    obtain ⟨s', asks, current⟩ := isOpen_current lasting keeps.up stored
    rw [reacts] at left ⊢
    rw [asks] at left commanded ⊢
    obtain ⟨tells, closes⟩ := tells.asked someProbes rfl coming (left.trans (stands current))
    exact ⟨holds commanded current tells, closes⟩
  cases happening : e.happening with
  | started | refused => exact happening ▸ comes (by rw [happening]; rfl) (by rw [happening]; rfl)
  | ended call success =>
    have commanded := note_commanded (Server.perform e.now) c e.now success s
    rw [happening] at left
    change Keeps c probes (e :: h) (note (Server.perform e.now) c e.now success s).2 ∧ _
    change e.state = stateAt c e.now (note (Server.perform e.now) c e.now success s).2 at left
    cases success with
    | true =>
      -- Successes are counted only while the circuit is probed. Otherwise it does not matter what the table says of them.
      have counts : ∃ n : Nat, e.found = .halfOpen → countIn cells "successes" = .ok n ∧ n < probes ∧
          endings (probing (entries h)) = List.replicate n true := by
        by_cases probed : e.found = .halfOpen
        · obtain ⟨n, counts⟩ := tells.successes probed
          exact ⟨n, fun _ => counts⟩
        · exact ⟨0, (absurd · probed)⟩
      obtain ⟨n, counts⟩ := counts
      have counted : saysState cells .halfOpen = true → countIn cells "successes" = .ok n := by
        intro probed
        rw [saysState_eq (by decide), tells.shown] at probed
        exact (counts (of_decide_eq_true probed)).1
      obtain ⟨s', noted, current⟩ := note_succeeded keeps.up stored counted
      rw [noted] at left commanded ⊢
      obtain ⟨tells, closes⟩ := tells.succeeded limit rfl (by rw [happening]; rfl) counts (left.trans (stands current))
      exact ⟨holds commanded current tells, closes⟩
    | false =>
      obtain ⟨n, counted⟩ := tells.failures
      obtain ⟨s', noted, current⟩ := note_failed lasting keeps.up stored counted
      rw [noted] at left commanded ⊢
      obtain ⟨tells, closes⟩ := tells.failed (by rw [happening]; rfl) (left.trans (stands current))
      exact ⟨holds commanded current tells, closes⟩

omit [Clock τ] in
/-- What is true of something in a history is true of a first one. -/
theorem exists_first {p : Encounter τ → Prop} (holds : ∃ e ∈ h, p e) :
    ∃ after e before, h = after ++ e :: before ∧ p e ∧ ¬∃ e ∈ before, p e := by
  induction h with
  | nil => exact absurd holds (by simp)
  | cons e rest ih =>
    by_cases already : ∃ e ∈ rest, p e
    · obtain ⟨after, first, before, rfl, holds, never⟩ := ih already
      exact ⟨e :: after, first, before, rfl, holds, never⟩
    · obtain ⟨other, member, holds⟩ := holds
      rcases List.mem_cons.mp member with rfl | member
      · exact ⟨[], other, rest, rfl, holds, already⟩
      · exact absurd ⟨other, member, holds⟩ already

section
variable (limit : c.limits.probes = .whole probes) (someProbes : 1 ≤ probes) (up : s.isDown = false)
  (fresh : slot? s.slots c.key = none)
include limit someProbes up fresh

theorem keeps_cacheAfter (occurs : Occurs c s h)
    (lasting : ∀ e ∈ h, Clock.reached (Clock.after e.now c.lifetime) e.now = false) : Keeps c probes h (cacheAfter c s h) := by
  induction h with
  | nil => exact keeps_fresh up fresh
  | cons e earlier ih =>
    obtain ⟨before, possible, found, left⟩ := occurs
    have keeps := ih before fun e member => lasting e (List.mem_cons_of_mem _ member)
    exact (keeps.next limit someProbes (lasting e List.mem_cons_self) found left).1

/-- A circuit that is not closed is found or left closed by what happens next exactly if it is forgotten by then, or if this
is the last of its probes. -/
theorem closes_iff (occurs : Occurs c s (e :: earlier))
    (lasting : ∀ other ∈ e :: earlier, Clock.reached (Clock.after other.now c.lifetime) other.now = false)
    (before : standing (entries earlier) ≠ .closed) :
    (e.found = .closed ∨ e.state = .closed) ↔ Forgotten c earlier e ∨ Probed probes earlier e := by
  obtain ⟨earlierOccurs, possible, found, left⟩ := occurs
  have keeps := keeps_cacheAfter limit someProbes up fresh earlierOccurs fun other member =>
    lasting other (List.mem_cons_of_mem _ member)
  have forgets := (keeps.found e.now).2 before
  have closes := (keeps.next limit someProbes (lasting e List.mem_cons_self) found left).2
  rw [← found] at forgets
  by_cases isClosed : e.found = .closed
  · exact ⟨fun _ => Or.inl (forgets.mp isClosed), fun _ => Or.inl isClosed⟩
  · have kept : ¬ Forgotten c earlier e := fun forgotten => isClosed (forgets.mpr forgotten)
    rw [closes isClosed, or_iff_right isClosed, or_iff_right kept]

/-- Once a circuit is opened, whoever finds or leaves it closed does so because enough successful calls have ended since it
began to be probed and none has failed, or because its table was not renewed for as long as the cache keeps it. Conversely,
either of them closes it. -/
theorem opened_circuit_closes_iff_probed_or_forgotten (occurs : Occurs c s (later ++ opening :: earlier))
    (lasting : ∀ e ∈ later ++ opening :: earlier, Clock.reached (Clock.after e.now c.lifetime) e.now = false)
    (opens : opening.state = .opened) :
    (∃ e ∈ later, e.found = .closed ∨ e.state = .closed) ↔
      ∃ after e before, later = after ++ e :: before ∧
        (Forgotten c (before ++ opening :: earlier) e ∨ Probed probes (before ++ opening :: earlier) e) := by
  have left : ∀ before : List (Encounter τ), (¬∃ e ∈ before, e.found = .closed ∨ e.state = .closed) →
      standing (entries (before ++ opening :: earlier)) ≠ .closed := by
    intro before never
    cases before with
    | nil => exact fun isClosed => nomatch opens.symm.trans isClosed
    | cons e _ => exact fun isClosed => never ⟨e, List.mem_cons_self, Or.inr isClosed⟩
  have closes : ∀ {after e before}, later = after ++ e :: before →
      (¬∃ e ∈ before, e.found = .closed ∨ e.state = .closed) →
      ((e.found = .closed ∨ e.state = .closed) ↔
        Forgotten c (before ++ opening :: earlier) e ∨ Probed probes (before ++ opening :: earlier) e) := by
    rintro after e before rfl never
    rw [List.append_assoc, List.cons_append] at occurs lasting
    have occurs : Occurs c s (e :: (before ++ opening :: earlier)) := occurs.former
    exact closes_iff limit someProbes up fresh occurs (fun other member => lasting other (List.mem_append_right _ member))
      (left before never)
  constructor
  · intro closed
    -- Until it is first closed it is open or probed, so that it is this encounter which has a cause.
    obtain ⟨after, e, before, split, isClosed, never⟩ := exists_first closed
    exact ⟨after, e, before, split, (closes split never).mp isClosed⟩
  · rintro ⟨after, e, before, rfl, why⟩
    by_cases already : ∃ e ∈ before, e.found = .closed ∨ e.state = .closed
    · obtain ⟨e, member, isClosed⟩ := already
      exact ⟨e, List.mem_append_right _ (List.mem_cons_of_mem _ member), isClosed⟩
    · exact ⟨e, List.mem_append_right _ List.mem_cons_self, (closes rfl already).mpr why⟩

end

end

def flaky : Circuit := ⟨"graph", ⟨2, 10, 2⟩⟩

instance {c : Circuit} {now : Reading} {s : Server Reading} {running : List Nat} :
    (happening : Happening) → Decidable (Possible c now s running happening)
  | .started _ => inferInstanceAs (Decidable (_ = false))
  | .refused _ => inferInstanceAs (Decidable (_ = true))
  | .ended call _ => inferInstanceAs (Decidable (call ∈ running))

instance decidableOccurs (c : Circuit) (s : Server Reading) : (h : List (Encounter Reading)) → Decidable (Occurs c s h)
  | [] => inferInstanceAs (Decidable True)
  | e :: earlier =>
    have := decidableOccurs c s earlier
    inferInstanceAs (Decidable (_ ∧ _ ∧ e.found = _ ∧ e.state = _))

def outage : List (Encounter Reading) :=
  [⟨⟨.started 1, 1, .closed⟩, .closed⟩, ⟨⟨.ended 0 false, 0, .closed⟩, .closed⟩, ⟨⟨.started 0, 0, .closed⟩, .closed⟩]

/-- The last of too many failures. -/
def failure : Encounter Reading := ⟨⟨.ended 1 false, 1, .opened⟩, .closed⟩

def recovery : List (Encounter Reading) :=
  [⟨⟨.ended 3 true, 12, .closed⟩, .halfOpen⟩, ⟨⟨.started 3, 12, .halfOpen⟩, .halfOpen⟩,
    ⟨⟨.ended 2 true, 11, .halfOpen⟩, .halfOpen⟩, ⟨⟨.started 2, 11, .halfOpen⟩, .opened⟩]

def revival : List (Encounter Reading) :=
  [⟨⟨.started 3, 25, .closed⟩, .closed⟩, ⟨⟨.ended 2 false, 25, .closed⟩, .closed⟩, ⟨⟨.started 2, 25, .closed⟩, .closed⟩]

theorem recovery_is_probed :
    (flaky.limits.probes = .whole (2 : Nat) ∧ 1 ≤ 2 ∧ ({} : Server Reading).isDown = false ∧
      slot? ({} : Server Reading).slots flaky.key = none ∧ Occurs flaky {} (recovery ++ failure :: outage) ∧
      (∀ e ∈ recovery ++ failure :: outage, Clock.reached (Clock.after e.now flaky.lifetime) e.now = false) ∧
      failure.state = .opened) ∧
    ∃ after e before, recovery = after ++ e :: before ∧
      (Forgotten flaky (before ++ failure :: outage) e ∨ Probed 2 (before ++ failure :: outage) e) := by
  have occurs : Occurs flaky {} (recovery ++ failure :: outage) := by decide +kernel
  have lasting : ∀ e ∈ recovery ++ failure :: outage, Clock.reached (Clock.after e.now flaky.lifetime) e.now = false := by
    decide +kernel
  have limit : flaky.limits.probes = .whole (2 : Nat) := rfl
  have closes := opened_circuit_closes_iff_probed_or_forgotten limit (by decide) rfl rfl occurs lasting rfl
  exact ⟨⟨limit, by decide, rfl, rfl, occurs, lasting, rfl⟩, closes.mp ⟨_, List.mem_cons_self, Or.inr rfl⟩⟩

/-- A circuit that nobody calls for too long is closed, and tolerates failures again, though it was never probed. -/
theorem idle_circuit_closes_unprobed :
    ¬ ∀ {later earlier : List (Encounter Reading)} {opening : Encounter Reading}, Occurs flaky {} (later ++ opening :: earlier) →
      opening.state = .opened → (∃ e ∈ later, e.found = .closed ∨ e.state = .closed) →
      ∃ after e before, later = after ++ e :: before ∧ Probed 2 (before ++ opening :: earlier) e := by
  intro probed
  have occurs : Occurs flaky {} (revival ++ failure :: outage) := by decide +kernel
  obtain ⟨after, e, before, split, halfOpen, _⟩ := probed occurs rfl ⟨_, List.mem_cons_self, Or.inr rfl⟩
  have never : ∀ e ∈ revival, e.state ≠ .halfOpen := by decide
  cases before with
  | nil => cases halfOpen
  | cons former rest => exact never former (by rw [split]; simp) halfOpen

end Chatflow.Proofs.ForgottenCircuits
