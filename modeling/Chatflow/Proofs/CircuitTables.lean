import Chatflow.Breaker.Shared
import Chatflow.Proofs.CacheSlots
import Chatflow.Proofs.WorkLogic

/-! The table that a circuit has in the shared cache, as long as the cache can be reached: what each command about it
answers and leaves in it, and what calls through the breaker make of it. -/

namespace Chatflow.Proofs.CircuitTables
open Cache Cache.Server SharedBreaker CacheSlots WorkLogic

variable {cells : List (String × Cell)}

/-! Cells of a table, by their names. -/

theorem find?_filter_cell (cells : List (String × Cell)) (name other : String) :
    (cells.filter fun cell => cell.1 != name).find? (fun cell => cell.1 == other) =
      if name = other then none else cells.find? fun cell => cell.1 == other := by
  rw [List.find?_filter]
  split
  next same =>
    refine List.find?_eq_none.mpr fun cell _ => ?_
    grind
  next different =>
    congr 1
    funext cell
    grind

theorem find?_setCell (cells : List (String × Cell)) (name other : String) (c : Cell) :
    (setCell cells name c).find? (fun cell => cell.1 == other) =
      if name = other then some (name, c) else cells.find? fun cell => cell.1 == other := by
  rw [setCell, List.find?_append, find?_filter_cell, List.find?_singleton]
  split
  next same => simp [same]
  next different => simp [different]

theorem cellText?_setCell (cells : List (String × Cell)) (name other : String) (c : Cell) :
    cellText? (setCell cells name c) other = if name = other then some c.show else cellText? cells other := by
  simp only [cellText?, find?_setCell]
  split <;> rfl

theorem cellText?_filter (cells : List (String × Cell)) (name other : String) :
    cellText? (cells.filter fun cell => cell.1 != name) other = if name = other then none else cellText? cells other := by
  simp only [cellText?, find?_filter_cell]
  split <;> rfl

theorem countIn_setCell (cells : List (String × Cell)) {name other : String} (different : name ≠ other) (c : Cell) :
    countIn (setCell cells name c) other = countIn cells other := by
  simp only [countIn, find?_setCell, if_neg different]

theorem countIn_setCell_self (cells : List (String × Cell)) (name : String) (n : Int) :
    countIn (setCell cells name (.count n)) name = .ok n := by
  simp only [countIn, find?_setCell, if_true]

theorem countIn_filter_self (cells : List (String × Cell)) (name : String) :
    countIn (cells.filter fun cell => cell.1 != name) name = .ok 0 := by
  simp only [countIn, find?_filter_cell, if_true]

theorem saysState_filter {name : String} (other : name ≠ "state") (state : CircuitState) :
    saysState (cells.filter fun cell => cell.1 != name) state = saysState cells state := by
  simp only [saysState, cellText?_filter, if_neg other]

theorem saysState_setCell {name : String} (other : name ≠ "state") (c : Cell) (state : CircuitState) :
    saysState (setCell cells name c) state = saysState cells state := by
  simp only [saysState, cellText?_setCell, if_neg other]

theorem saysState_setCell_self (cells : List (String × Cell)) (state other : CircuitState) :
    saysState (setCell cells "state" (.text state.name)) other = decide (state = other) := by
  simp only [saysState, cellText?_setCell, if_true]
  cases state <;> cases other <;> rfl

/-! Tables in their slots. -/

variable {τ : Type} {slots : List (Slot τ)}

theorem slot?_storeCells (slots : List (Slot τ)) (key : String) (cells : List (String × Cell)) :
    slot? (storeCells slots key cells) key = some ⟨key, .table cells, (slot? slots key).bind Slot.expires⟩ := by
  rw [storeCells, slot?_store, if_pos rfl]

theorem cells?_storeCells (slots : List (Slot τ)) (key : String) (cells : List (String × Cell)) :
    cells? (storeCells slots key cells) key = .ok cells := by
  rw [cells?, slot?_storeCells]

theorem cells?_expire (slots : List (Slot τ)) (key : String) (time : τ) :
    cells? (slots.map fun s => if s.key == key then { s with expires := some time } else s) key = cells? slots key := by
  rw [cells?, cells?, slot?_expire, if_pos rfl]
  rcases slot? slots key with _ | ⟨other, content, expires⟩
  · rfl
  · cases content <;> rfl

section
variable {α β : Type} [Clock τ] {c : Circuit} {now : τ} {s : Server τ} {after : List (String × Cell)}

theorem prune_storeCells (swept : prune slots now = slots) (key : String) (cells : List (String × Cell)) :
    prune (storeCells slots key cells) now = storeCells slots key cells := by
  rw [prune_eq_self] at swept ⊢
  intro slot member time expires
  rcases List.mem_append.mp member with former | new
  · exact swept slot (List.mem_filter.mp former).1 time expires
  · rw [List.mem_singleton.mp new] at expires
    obtain ⟨previous, found, expires⟩ := Option.bind_eq_some_iff.mp expires
    exact swept previous (List.mem_of_find?_eq_some found) time expires

/-! Commands about a circuit, all of them at the same moment. -/

/-- Right after a command: what has run out by then is gone, and the circuit's table holds these cells, until some time if
it is told. -/
structure Current (c : Circuit) (now : τ) (kept : List (String × Cell) × Option τ) (s : Server τ) : Prop where
  up : s.isDown = false
  swept : prune s.slots now = s.slots
  stored : cells? s.slots c.key = .ok kept.1
  expires : (slot? s.slots c.key).bind Slot.expires = kept.2

/-- Work that leaves something else of a circuit than it finds, and answers something. -/
def Goes (c : Circuit) (now : τ) (kept : List (String × Cell) × Option τ)
    (work : ExceptT Fault (StateM (Server τ)) α) (a : α) (left : List (String × Cell) × Option τ) : Prop :=
  ∀ s, Current c now kept s → ∃ s', work s = (.ok a, s') ∧ Current c now left s'

variable {kept left middle : List (String × Cell) × Option τ} {expires : Option τ}

theorem Goes.pure (a : α) : Goes c now kept (Pure.pure a) a kept := fun s current => ⟨s, rfl, current⟩

theorem Goes.bind {work : ExceptT Fault (StateM (Server τ)) α} {next : α → ExceptT Fault (StateM (Server τ)) β} {a : α}
    {b : β} (first : Goes c now kept work a middle) (last : Goes c now middle (next a) b left) :
    Goes c now kept (work >>= next) b left := by
  intro s current
  obtain ⟨s', done, current⟩ := first s current
  rw [bind_apply, done]
  exact last s' current

theorem Goes.send {command : Command} {reply : Reply}
    (goes : Goes c now kept (ExceptT.mk (Server.perform now command)) reply left) :
    Goes c now kept (send (Server.perform now) command) () left :=
  goes.bind (.pure ())

/-- A command goes by what it does to the slots. -/
theorem Goes.command {command : Command} {reply : Reply}
    (executes : ∀ slots : List (Slot τ), prune slots now = slots → cells? slots c.key = .ok kept.1 →
      (slot? slots c.key).bind Slot.expires = kept.2 → ∀ grantsLocks, ∃ after,
        execute now grantsLocks slots command = .ok (reply, after) ∧ prune after now = after ∧
          cells? after c.key = .ok left.1 ∧ (slot? after c.key).bind Slot.expires = left.2) :
    Goes c now kept (ExceptT.mk (Server.perform now command)) reply left := by
  intro s current
  obtain ⟨after, executed, swept, stored, expires⟩ :=
    executes s.slots current.swept current.stored current.expires s.grantsLocks
  refine ⟨{ s with slots := after, record := s.record ++ [command] }, ?_, current.up, swept, stored, expires⟩
  change Server.perform now command s = _
  simp only [Server.perform, current.up, Bool.false_eq_true, if_false, current.swept, executed]

theorem incrementCell_goes {name : String} {n : Int} (counted : countIn cells name = .ok n) :
    Goes c now (cells, expires) (ExceptT.mk (Server.perform now (.incrementCell c.key name 1))) (.count (n + 1))
      (setCell cells name (.count (n + 1)), expires) := by
  refine .command fun slots swept stored told _ => ?_
  refine ⟨_, ?_, prune_storeCells swept _ _, cells?_storeCells slots _ _, ?_⟩
  · simp only [execute, stored, counted, bind, Except.bind, Pure.pure, Except.pure]
  · rw [slot?_storeCells]
    exact told

theorem writeTable_goes (written : List (String × Cell)) :
    Goes c now (cells, expires) (ExceptT.mk (Server.perform now (.writeTable c.key written))) .done
      (written.foldl (fun cells cell => setCell cells cell.1 cell.2) cells, expires) := by
  refine .command fun slots swept stored told _ => ?_
  refine ⟨_, ?_, prune_storeCells swept _ _, cells?_storeCells slots _ _, ?_⟩
  · simp only [execute, stored, Except.map]
  · rw [slot?_storeCells]
    exact told

theorem dropCell_goes (name : String) :
    Goes c now (cells, expires) (ExceptT.mk (Server.perform now (.dropCell c.key name))) .done
      (cells.filter fun cell => cell.1 != name, expires) := by
  refine .command fun slots swept stored told _ => ?_
  simp only [execute, stored, Except.map]
  cases found : slot? slots c.key with
  | some slot =>
    simp only [Option.isSome_some, if_true]
    refine ⟨_, rfl, prune_storeCells swept _ _, cells?_storeCells slots _ _, ?_⟩
    rw [slot?_storeCells]
    exact told
  | none =>
    rw [cells?, found] at stored
    cases stored
    exact ⟨slots, rfl, swept, by rw [cells?, found]; rfl, told⟩

theorem delete_goes : Goes c now kept (ExceptT.mk (Server.perform now (.delete c.key))) .done ([], none) := by
  refine .command fun slots swept stored _ _ => ⟨drop slots c.key, rfl, ?_, ?_, ?_⟩
  · rw [prune_eq_self] at swept ⊢
    exact fun slot member => swept slot (List.mem_filter.mp member).1
  · rw [cells?, slot?_drop, if_pos rfl]
  · rw [slot?_drop, if_pos rfl]
    rfl

/-- What is kept for a while does not run out at once. -/
theorem expire_goes {seconds : Amount} (lasts : Clock.reached (Clock.after now seconds) now = false)
    (written : cells ≠ []) :
    Goes c now (cells, expires) (ExceptT.mk (Server.perform now (.expire c.key seconds))) .done
      (cells, some (Clock.after now seconds)) := by
  refine .command fun slots swept stored _ _ => ⟨_, rfl, ?_, (cells?_expire slots c.key _).trans stored, ?_⟩
  · rw [prune_eq_self] at swept ⊢
    intro slot member time expires
    obtain ⟨former, member, rfl⟩ := List.mem_map.mp member
    split at expires
    · cases expires
      exact lasts
    · exact swept former ‹_› time expires
  · rw [slot?_expire, if_pos rfl]
    cases found : slot? slots c.key with
    | some slot => rfl
    | none =>
      rw [cells?, found] at stored
      cases stored
      exact absurd rfl written

/-! What calls make of a table. -/

theorem setCell_ne_nil (cells : List (String × Cell)) (name : String) (cell : Cell) : setCell cells name cell ≠ [] :=
  List.append_ne_nil_of_right_ne_nil _ (List.cons_ne_nil _ _)

theorem readTable_goes :
    Goes c now (cells, expires) (readTable (Server.perform now) c) cells (cells, expires) := by
  have read : Goes c now (cells, expires) (ExceptT.mk (Server.perform now (.readTable c.key))) (.table cells)
      (cells, expires) :=
    .command fun slots swept stored told _ =>
      ⟨slots, by simp only [execute, stored, Except.map], swept, stored, told⟩
  exact read.bind fun s current => ⟨s, rfl, current⟩

theorem writeState_goes (lasts : Clock.reached (Clock.after now c.lifetime) now = false) (state : CircuitState)
    (name : String) (cell : Cell) :
    Goes c now (cells, expires) (writeState (Server.perform now) c state [(name, cell)]) ()
      (setCell (setCell cells "state" (.text state.name)) name cell, some (Clock.after now c.lifetime)) :=
  (writeTable_goes _).send.bind (expire_goes lasts (setCell_ne_nil _ _ _)).send

/-- The table of a circuit from the moment it is probed. -/
def probedTable (cells : List (String × Cell)) : List (String × Cell) :=
  setCell (setCell cells "state" (.text CircuitState.halfOpen.name)) "successes" (.count 0)

/-- The table of a circuit from the moment it is opened. -/
def openedTable (now : τ) (cells : List (String × Cell)) : List (String × Cell) :=
  setCell (setCell cells "state" (.text CircuitState.opened.name)) "opened_at" (.text (Clock.write now))

/-- Whether the table of a circuit has calls refused, and what is in it after that is asked. -/
def asked (c : Circuit) (now : τ) (cells : List (String × Cell)) : Bool × List (String × Cell) :=
  match saysState cells .opened, (openedAt? cells : Option τ) with
  | true, some time => if Clock.passed time now c.limits.seconds then (false, probedTable cells) else (true, cells)
  | _, _ => (false, cells)

/-- Until when the table of a circuit is kept after that is asked. -/
def askedUntil (c : Circuit) (now : τ) (cells : List (String × Cell)) (expires : Option τ) : Option τ :=
  match saysState cells .opened, (openedAt? cells : Option τ) with
  | true, some time => if Clock.passed time now c.limits.seconds then some (Clock.after now c.lifetime) else expires
  | _, _ => expires

theorem checkOpen_goes (lasts : Clock.reached (Clock.after now c.lifetime) now = false) :
    Goes c now (cells, expires) (checkOpen (Server.perform now) c now) (asked c now cells).1
      ((asked c now cells).2, askedUntil c now cells expires) := by
  refine readTable_goes.bind ?_
  unfold asked askedUntil
  cases saysState cells .opened with
  | false => exact .pure _
  | true =>
    cases (openedAt? cells : Option τ) with
    | none => exact .pure _
    | some time =>
      simp only [if_true]
      split
      · exact (writeState_goes lasts .halfOpen "successes" (.count 0)).bind (.pure _)
      · exact .pure _

/-- What a success leaves in the table of a circuit, of which so many are counted while it is probed. -/
def succeeded (c : Circuit) (successes : Int) (cells : List (String × Cell)) : List (String × Cell) :=
  if saysState cells .halfOpen then
    if c.limits.probes.reachedBy (successes + 1) then [] else setCell cells "successes" (.count (successes + 1))
  else cells.filter fun cell => cell.1 != "failures"

/-- Until when the table of a circuit is kept after a success. -/
def succeededUntil (c : Circuit) (successes : Int) (cells : List (String × Cell)) (expires : Option τ) : Option τ :=
  if saysState cells .halfOpen && c.limits.probes.reachedBy (successes + 1) then none else expires

theorem noteSuccess_goes {successes : Int}
    (counted : saysState cells .halfOpen = true → countIn cells "successes" = .ok successes) :
    Goes c now (cells, expires) (noteSuccess (Server.perform now) c) ()
      (succeeded c successes cells, succeededUntil c successes cells expires) := by
  refine readTable_goes.bind ?_
  unfold succeeded succeededUntil
  cases probed : saysState cells .halfOpen with
  | false => exact (dropCell_goes "failures").send
  | true =>
    have counts : Goes c now (setCell cells "successes" (.count (successes + 1)), expires)
        (ExceptT.mk (pure (Reply.count (successes + 1)).count?)) (successes + 1) _ := .pure _
    refine (incrementCell_goes (counted probed)).bind (counts.bind ?_)
    simp only [if_true, Bool.true_and]
    split
    · exact delete_goes.send
    · exact .pure ()

/-- What a failure leaves in the table of a circuit, in which so many are counted. -/
def failed (c : Circuit) (now : τ) (failures : Int) (cells : List (String × Cell)) : List (String × Cell) :=
  let counted := setCell cells "failures" (.count (failures + 1))
  if saysState cells .halfOpen || c.limits.failures.reachedBy (failures + 1) then
    openedTable now counted
  else counted

theorem noteFailure_goes {failures : Int} (lasts : Clock.reached (Clock.after now c.lifetime) now = false)
    (counted : countIn cells "failures" = .ok failures) :
    Goes c now (cells, expires) (noteFailure (Server.perform now) c now) ()
      (failed c now failures cells, some (Clock.after now c.lifetime)) := by
  refine readTable_goes.bind ?_
  have counts : Goes c now (setCell cells "failures" (.count (failures + 1)), expires)
      (ExceptT.mk (pure (Reply.count (failures + 1)).count?)) (failures + 1) _ := .pure _
  refine (incrementCell_goes counted).bind (counts.bind ((expire_goes lasts (setCell_ne_nil _ _ _)).send.bind ?_))
  unfold failed
  dsimp only
  split
  · exact writeState_goes lasts .opened "opened_at" (.text (Clock.write now))
  · exact .pure ()

/-- Before the first command of a call some slots may be there whose time is up. -/
theorem Goes.begins {next : List (String × Cell) → ExceptT Fault (StateM (Server τ)) α} {a : α}
    (goes : Goes c now (cells, (slot? (prune s.slots now) c.key).bind Slot.expires)
      (readTable (Server.perform now) c >>= next) a left)
    (up : s.isDown = false) (stored : cells? (prune s.slots now) c.key = .ok cells) :
    ∃ s', (readTable (Server.perform now) c >>= next) s = (.ok a, s') ∧ Current c now left s' := by
  obtain ⟨s', done, current⟩ := goes { s with slots := prune s.slots now } ⟨up, prune_prune _ _, stored, rfl⟩
  have sweeps : readTable (Server.perform now) c { s with slots := prune s.slots now } = readTable (Server.perform now) c s := by
    have same : Server.perform now (.readTable c.key) { s with slots := prune s.slots now } =
        Server.perform now (.readTable c.key) s := by simp only [Server.perform, prune_prune]
    unfold readTable
    rw [bind_apply, bind_apply]
    simp only [ExceptT.mk, same]
  rw [bind_apply, sweeps, ← bind_apply] at done
  exact ⟨s', done, current⟩

theorem isOpen_current (lasts : Clock.reached (Clock.after now c.lifetime) now = false) (up : s.isDown = false)
    (stored : cells? (prune s.slots now) c.key = .ok cells) :
    ∃ s', isOpen (Server.perform now) c now s = ((asked c now cells).1, s') ∧
      Current c now ((asked c now cells).2,
        askedUntil c now cells ((slot? (prune s.slots now) c.key).bind Slot.expires)) s' := by
  obtain ⟨s', done, current⟩ := (checkOpen_goes lasts).begins up stored
  refine ⟨s', ?_, current⟩
  have checked : checkOpen (Server.perform now) c now s = (.ok (asked c now cells).1, s') := done
  simp only [isOpen, ExceptT.run, bind, StateT.bind, checked]
  rfl

theorem note_succeeded {successes : Int} (up : s.isDown = false) (stored : cells? (prune s.slots now) c.key = .ok cells)
    (counted : saysState cells .halfOpen = true → countIn cells "successes" = .ok successes) :
    ∃ s', note (Server.perform now) c now true s = ((), s') ∧
      Current c now (succeeded c successes cells,
        succeededUntil c successes cells ((slot? (prune s.slots now) c.key).bind Slot.expires)) s' := by
  obtain ⟨s', done, current⟩ := (noteSuccess_goes counted).begins up stored
  exact ⟨s', congrArg (Prod.mk ()) (congrArg Prod.snd done), current⟩

theorem note_failed {failures : Int} (lasts : Clock.reached (Clock.after now c.lifetime) now = false) (up : s.isDown = false)
    (stored : cells? (prune s.slots now) c.key = .ok cells) (counted : countIn cells "failures" = .ok failures) :
    ∃ s', note (Server.perform now) c now false s = ((), s') ∧
      Current c now (failed c now failures cells, some (Clock.after now c.lifetime)) s' := by
  obtain ⟨s', done, current⟩ := (noteFailure_goes lasts counted).begins up stored
  exact ⟨s', congrArg (Prod.mk ()) (congrArg Prod.snd done), current⟩

end

end Chatflow.Proofs.CircuitTables
