import Chatflow.Proofs.Restarts
import Mathlib.Data.List.Basic

/-! Flows for once per contact. The records of a contact are looked up when an event comes to the flows that it triggers, and
then these are started one after another. So the trigger of such a flow finds a record only if the same event made it; and
once the flow was started, no later event starts it until the contact is reset. -/

namespace Chatflow.Proofs.OncePerContact
open Conversation SessionTable StoredSessions InProcessStore WorkLogic RunEndings CallCourses OrderlySessions
  ConversationOrder ReachableStates StoreInvariants ResumedWaits StartedSessions EventPaths Interruptions Restarts

variable {setup : Setup} {raw e : Event} {w v u after : World} {flows : List Flow} {f g : Flow} {o : Outcome}
  {key : SessionKey} {s : Session}

/-- An event starts a flow by its trigger. What it has started before is told by an outcome, and a world is left by that. -/
inductive Triggers (setup : Setup) (raw : Event) (w : World) (f : Flow) (o : Outcome) (u : World) : Prop where
  | intro {e v flows x prior y before step rest} (admitted : Admitted setup raw w e v) (sought : Sought setup e v flows x)
      (known : priorFlows setup e.address flows x = (.ok prior, y))
      (listed : triggeredBy setup e flows prior = before ++ (f, step) :: rest)
      (reached : startAll setup e before nothingYet y = (.ok o, u))

/-- Then the work on the event goes on with that flow. -/
theorem Triggers.handled (triggers : Triggers setup raw w f o u) : ∃ e step rest,
    e = { raw with address := Phone.normalize raw.address } ∧
      (handleEvent setup raw w).1 = concluded (startAll setup e ((f, step) :: rest) o u).1 ∧
      Beside (startAll setup e ((f, step) :: rest) o u).2 (handleEvent setup raw w).2 := by
  obtain @⟨e, v, flows, x, prior, y, before, step, rest, admitted, sought, known, listed, reached⟩ := triggers
  have worked : handleLocked setup e v = startAll setup e ((f, step) :: rest) o u := by
    rw [sought.handleLocked, trigger_apply known, listed, ← startAll_append _ reached]
    cases before <;> rfl
  have ends := admitted.handleEvent
  rw [worked] at ends
  exact ⟨e, step, rest, admitted.named, ends⟩

theorem has_iff {t : SessionTable} : t.has key = true ↔ key ∈ t.rows.map Prod.fst := by
  simp [SessionTable.has]

theorem has_of_putRow {rows : List (SessionKey × Session)} {own : SessionKey} (has : key ∈ rows.map Prod.fst) :
    key ∈ (putRow own s rows).map Prod.fst := by
  induction rows with
  | nil => cases has
  | cons row rest ih =>
    unfold putRow
    split
    next same => rwa [List.map_cons, ← same, ← List.map_cons]
    next => exact List.mem_cons.mpr ((List.mem_cons.mp has).imp_right ih)

/-- No one else is going to write, and there is a record under a key. -/
structure Recorded (key : SessionKey) (w : World) : Prop where
  alone : w.foreign = []
  has : w.table.has key = true

theorem Recorded.settled : Settled (Recorded key) := by
  intro w after beside recorded
  refine ⟨beside.foreign.trans recorded.alone, ?_⟩
  rw [beside.table]
  exact recorded.has

theorem Recorded.put (recorded : Recorded key w) (s : Session) : Recorded key { w with table := w.table.put s } :=
  ⟨recorded.alone, has_iff.mpr (has_of_putRow (has_iff.mp recorded.has))⟩

theorem abandonAll_has (t : SessionTable) (now : Instant) (address : String) :
    (t.abandonAll now address).2.has key = t.has key := by
  have same : ∀ row : SessionKey × Session,
      (if isOpenRow address row then (row.1, row.2.abandon now) else row).1 = row.1 := by
    intro row
    split <;> rfl
  simp only [SessionTable.has, SessionTable.abandonAll, List.any_map, Function.comp_def, same]

theorem reset_has (t : SessionTable) {address : String} (elsewhere : key.address ≠ address) (has : t.has key = true) :
    (t.reset address).2.has key = true := by
  obtain ⟨row, stored, rfl⟩ := List.mem_map.mp (has_iff.mp has)
  exact has_iff.mpr (List.mem_map.mpr ⟨row, List.mem_filter.mpr ⟨stored, by simpa using elsewhere⟩, rfl⟩)

section
variable (inProcess : setup.hasDatabase = false)
include inProcess

/-- No operation of the store takes a record away but a reset of its contact. -/
theorem recorded_upheld : Upheld setup (fun _ => True) (Recorded key) where
  settled := Recorded.settled
  create own vars deviceId w recorded _ := by
    rw [create_apply inProcess]
    cases setup.utcNow with
    | error fault => exact ⟨⟨recorded.alone, recorded.has⟩, fun _ _ => trivial⟩
    | ok now =>
      have put := recorded.put (newSession s!"s{w.nextSession}" now own vars deviceId)
      exact ⟨⟨put.alone, put.has⟩, fun _ _ => trivial⟩
  swap id _ expected change w recorded _ := by
    refine ⟨?_, fun _ _ => trivial⟩
    rcases swap_left inProcess recorded.alone id expected change with left | ⟨s, now, _, left⟩ <;> rw [left]
    · exact recorded
    · exact recorded.put _

theorem abandonAll_recorded (address : String) : Preserves (Recorded key) (Store.abandonAll setup address) := by
  intro w recorded _
  rw [abandonAll_apply inProcess]
  split
  · cases setup.utcNow with
    | error fault => exact ⟨recorded, fun _ _ => trivial⟩
    | ok now => exact ⟨⟨recorded.alone, by rw [abandonAll_has]; exact recorded.has⟩, fun _ _ => trivial⟩
  · exact ⟨recorded, fun _ _ => trivial⟩

theorem reset_recorded {address : String} (elsewhere : key.address ≠ address) :
    Preserves (Recorded key) (Store.reset setup address) := by
  intro w recorded _
  rw [reset_apply inProcess]
  exact ⟨⟨recorded.alone, reset_has _ elsewhere recorded.has⟩, fun _ _ => trivial⟩

end

/-- Calls lead from one world to another, and none of them resets a contact. Each may come with settings and a time of its
own, and what is outside, and the lots to be drawn, may change in between. -/
inductive Onward (contact : String) (w : World) : World → Prop where
  | here : Onward contact w w
  | call {v : World} (reached : Onward contact w v) {setup : Setup} (inProcess : setup.hasDatabase = false) (call : Call)
      (keeps : ¬ Resets contact call) : Onward contact w (call.perform setup v).2
  | beside {v after : World} (reached : Onward contact w v) (beside : Beside v after) : Onward contact w after

/-- A record stays until its contact is reset. -/
theorem Onward.recorded (onward : Onward key.address w v) (recorded : Recorded key w) : Recorded key v := by
  induction onward with
  | here => exact recorded
  | call _ inProcess call keeps before =>
    refine (call_upheld inProcess (recorded_upheld inProcess) (abandonAll_recorded inProcess) call ?_ _ before trivial).1
    intro contact resets
    exact reset_recorded inProcess fun same => keeps (same ▸ resets)
  | beside _ beside before => exact Recorded.settled beside before

section
variable {α β : Type}

/-- Work leaves a record under a key, however it ends. -/
def Records (key : SessionKey) (work : Work α) : Prop := ∀ w, w.foreign = [] → Recorded key (work w).2

theorem Records.bind {work : Work α} {next : α → Work β} (first : Records key work)
    (rest : ∀ a, Preserves (Recorded key) (next a)) : Records key (work >>= next) := by
  intro w alone
  have made := first w alone
  rw [bind_apply]
  rcases done : work w with ⟨fault | a, middle⟩ <;> rw [done] at made
  · exact made
  · exact (rest a middle made trivial).1

end

section
variable (inProcess : setup.hasDatabase = false) {moment : Instant} (present : setup.utcNow = .ok moment)
include inProcess present

theorem create_records (vars : Fields) (deviceId : Option String) :
    Records key (Store.create setup key vars deviceId) := by
  intro w alone
  rw [create_apply inProcess, present]
  exact ⟨alone, has_iff.mpr (List.mem_map.mpr ⟨_, putRow_mem _ _ _, rfl⟩)⟩

/-- To start a flow is to make a record of it. -/
theorem start_records (address : String) (left : Nat) (f : Flow) (vars : Fields) (deviceId firstStep : Option String) :
    Records ⟨address, f.id⟩ (start setup address left f vars deviceId firstStep) := by
  have upheld := @recorded_upheld setup ⟨address, f.id⟩ inProcess
  have first : Records ⟨address, f.id⟩ (firstRun setup address f vars deviceId firstStep) := by
    rw [firstRun_eq]
    exact (create_records inProcess present vars deviceId).bind fun s => upheld.saveFirstRun trivial f firstStep
  cases left with
  | zero => exact first.bind fun _ => .done
  | succ left =>
    refine first.bind fun made => upheld.aside (chainedFlow?_aside inProcess _) fun next _ _ => ?_
    cases next with
    | none => exact .done
    | some next => exact (upheld.start inProcess _ _ _ _ _ _).bind fun _ => .done

theorem Triggers.recorded (triggers : Triggers setup raw w f o u) (alone : u.foreign = []) :
    Recorded ⟨Phone.normalize raw.address, f.id⟩ (handleEvent setup raw w).2 := by
  obtain ⟨e, step, rest, named, _, left⟩ := triggers.handled
  have started := start_records inProcess present e.address maxChained f (initialVariables e.address (some e) [])
    e.deviceId (some step)
  have all := started.bind fun made => (recorded_upheld inProcess).startAll inProcess e rest (o.extend made)
  rw [named] at all
  exact Recorded.settled left (by rw [named]; exact all u alone)

end

section
variable (inProcess : setup.hasDatabase = false)
include inProcess

theorem sought_has (sought : Sought setup e w flows u) : u.table.has key = w.table.has key := by
  rcases (sought.ended inProcess).2 with ⟨rfl, _⟩ | ⟨moment, rfl⟩
  · rfl
  · exact abandonAll_has w.table moment e.address

/-- A contact that has been in a flow for once per contact does not start it by an event. -/
theorem Triggers.unrecorded (triggers : Triggers setup raw w f o u) (once : isOnce f = true) :
    w.table.has ⟨Phone.normalize raw.address, f.id⟩ = false := by
  obtain @⟨e, v, flows, x, prior, y, before, step, rest, admitted, sought, known, listed, _⟩ := triggers
  rw [← admitted.address, ← admitted.beside.table, ← sought_has inProcess sought]
  rw [priorFlows_apply inProcess] at known
  cases known
  have member : (f, step) ∈ triggeredBy setup e flows _ := listed ▸ List.mem_append_right _ List.mem_cons_self
  obtain ⟨offered, starts, _⟩ := mem_triggeredBy.mp member
  refine Bool.eq_false_iff.mpr fun has => ?_
  have prior : f.id ∈ ((flows.filter isOnce).filter fun f => x.table.has ⟨e.address, f.id⟩).map Flow.id :=
    List.mem_map.mpr ⟨f, List.mem_filter.mpr ⟨List.mem_filter.mpr ⟨offered, once⟩, has⟩, rfl⟩
  unfold TriggerMatch.starts at starts
  unfold isOnce at once
  cases trigger : f.trigger? with
  | none => simp [trigger] at once
  | some t =>
    have scope : t.scope.oncePerContact = true := by simpa [trigger] using once
    simp only [trigger, scope, List.contains_iff_mem.mpr prior] at starts
    simp at starts

/-- What the event has started before adds its own sessions only, and no one else writes. -/
theorem Triggers.own_records (triggers : Triggers setup raw w f o u) (solitary : Solitary w)
    (absent : w.table.has key = false) : u.foreign = [] ∧ ∀ s ∈ u.table.sessions, s.key = key → s.id ∈ o.sessionIds := by
  obtain @⟨e, v, flows, x, prior, y, before, step, rest, admitted, sought, known, _, reached⟩ := triggers
  have beside := admitted.beside
  have within : Solitary v := Solitary.settled beside solitary
  have still := sought_solitary inProcess within sought
  rw [← beside.table, ← sought_has inProcess sought] at absent
  rw [priorFlows_apply inProcess] at known
  cases known
  have none : OfAll (fun s => s.key ≠ key) x := by
    intro s member own
    obtain ⟨row, stored, rfl⟩ := mem_sessions.mp member
    have has : x.table.has key = true :=
      has_iff.mpr (List.mem_map.mpr ⟨row, stored, (still.sound.own row stored).trans own⟩)
    rw [absent] at has
    cases has
  have adds := startAll_adds inProcess e before nothingYet x still.alone fun s member => Or.inl (none s member)
  rw [reached] at adds
  exact ⟨adds.1, fun s member own => (adds.2 o rfl s member).resolve_left fun other => other own⟩

/-- An event starts a flow by its trigger once at most. -/
theorem Triggers.unique (distinct : (w.catalogue.flows.map Flow.id).Nodup) (triggers : Triggers setup raw w f o u)
    {other : Outcome} (again : Triggers setup raw w g other v) (same : g.id = f.id) : other = o ∧ v = u := by
  obtain @⟨e, inside, flows, x, prior, y, before, step, rest, admitted, sought, known, listed, reached⟩ := triggers
  obtain @⟨_, _, _, _, _, _, former, start, latter, admittedToo, soughtToo, knownToo, listedToo, reachedToo⟩ := again
  obtain ⟨rfl, rfl⟩ := admittedToo.unique admitted
  obtain ⟨rfl, rfl⟩ := soughtToo.unique sought
  cases known.symm.trans knownToo
  have offered : (flows.map Flow.id).Nodup := by
    rw [(sought.ended inProcess).1, admitted.beside.catalogue]
    exact distinct.sublist (List.filter_sublist.map _)
  have ids := @triggeredBy_nodup setup e flows offered prior
  rw [listed, List.map_append, List.map_cons, List.nodup_append, List.nodup_cons] at ids
  obtain ⟨_, ⟨behind, _⟩, apart⟩ := ids
  have ahead : f.id ∉ before.map fun entry => entry.1.id := fun member => apart _ member _ List.mem_cons_self rfl
  -- The same flow stands in one place only, so that the same flows come before it.
  have ends := congrArg (List.map fun entry => entry.1.id) (listed.symm.trans listedToo)
  rw [List.map_append, List.map_append, List.map_cons, List.map_cons, same] at ends
  have lengths := congrArg List.length ((List.append_cons_inj_of_notMem ahead behind).mp ends).1
  rw [List.length_map, List.length_map] at lengths
  obtain rfl := (List.append_inj (listed.symm.trans listedToo) lengths).1
  cases reached.symm.trans reachedToo
  exact ⟨rfl, rfl⟩

/-- The trigger of a flow for once per contact starts it only if the contact had no record of it when the event came, and
starts it once. A record that there is at that moment was made by what the same event has started before. From then on no
event starts the flow by its trigger, until the contact is reset. -/
theorem once_per_contact_until_reset (solitary : Solitary w) (distinct : (w.catalogue.flows.map Flow.id).Nodup)
    (once : isOnce f = true) (triggers : Triggers setup raw w f o u) :
    w.table.has ⟨Phone.normalize raw.address, f.id⟩ = false ∧
      (∀ s ∈ u.table.sessions, s.key = ⟨Phone.normalize raw.address, f.id⟩ → s.id ∈ o.sessionIds) ∧
      (∀ g other x, Triggers setup raw w g other x → g.id = f.id → other = o ∧ x = u) ∧
      ∀ moment, setup.utcNow = .ok moment →
        ∀ v, Onward (Phone.normalize raw.address) (handleEvent setup raw w).2 v →
        ∀ (later : Setup) again g other x, later.hasDatabase = false →
          Phone.normalize again.address = Phone.normalize raw.address → isOnce g = true →
          Triggers later again v g other x → g.id ≠ f.id := by
  have absent := triggers.unrecorded inProcess once
  obtain ⟨alone, own⟩ := triggers.own_records inProcess solitary absent
  refine ⟨absent, own, fun g other x again => triggers.unique inProcess distinct again, ?_⟩
  intro moment present v onward later again g other x alsoInProcess here onceToo anew same
  have recorded := onward.recorded (triggers.recorded inProcess present alone)
  have missing := anew.unrecorded alsoInProcess onceToo
  rw [here, same, recorded.has] at missing
  cases missing

end

theorem greeted_until_reset :
    Triggers (aloneAt ⟨5, 0⟩) hi (untouched (greeting true)) (greeting true) nothingYet
        (held (aloneAt ⟨5, 0⟩) hi.address (untouched (greeting true))) ∧
      ∀ v, Onward "+5215512345678" (handleEvent (aloneAt ⟨5, 0⟩) hi (untouched (greeting true))).2 v →
        ∀ o u, ¬ Triggers (aloneAt ⟨6, 0⟩) hi v (greeting true) o u := by
  have triggers : Triggers (aloneAt ⟨5, 0⟩) hi (untouched (greeting true)) (greeting true) nothingYet
      (held (aloneAt ⟨5, 0⟩) hi.address (untouched (greeting true))) :=
    @Triggers.intro (aloneAt ⟨5, 0⟩) hi (untouched (greeting true)) (greeting true) nothingYet _ hi _ [greeting true] _ _ _
      [] "begin" [] (hi_admitted _) (.idle rfl (by decide +kernel) rfl rfl rfl) rfl rfl rfl
  have solitary : Solitary (untouched (greeting true)) := ⟨rfl, sound_empty, fun s member => by cases member⟩
  have rests := (once_per_contact_until_reset rfl solitary (ofLists_distinct _ _) rfl triggers).2.2.2 ⟨5, 0⟩ rfl
  rw [hi_named] at rests
  exact ⟨triggers, fun v onward o u again => rests v onward (aloneAt ⟨6, 0⟩) hi _ o u rfl hi_named rfl again rfl⟩

/-- A flow that answers the same greeting, and leads to the other flow. -/
def ushering : Flow :=
  { id := "usher"
    steps := [⟨"begin", .start (some (.message {} .contains ["hi"]))⟩, ⟨"next", .automation "greet"⟩]
    connections := [⟨"c", "begin", "next", none, none⟩] }

def reception : World := { catalogue := Catalogue.ofLists [ushering, greeting true] [] }

/-- The event starts the other flow by the first one, and then once more by its trigger. -/
theorem chained_flow_started_again_by_trigger :
    isOnce (greeting true) = true ∧ ∃ o u, Triggers (aloneAt ⟨5, 0⟩) hi reception (greeting true) o u ∧
      u.table.has ⟨Phone.normalize hi.address, (greeting true).id⟩ = true := by
  rcases reached : startAll (aloneAt ⟨5, 0⟩) hi [(ushering, "begin")] nothingYet
    (held (aloneAt ⟨5, 0⟩) hi.address reception) with ⟨fault | o, u⟩
  · have fine : (startAll (aloneAt ⟨5, 0⟩) hi [(ushering, "begin")] nothingYet
        (held (aloneAt ⟨5, 0⟩) hi.address reception)).1.isOk = true := by decide +kernel
    rw [reached] at fine
    cases fine
  · have has : (startAll (aloneAt ⟨5, 0⟩) hi [(ushering, "begin")] nothingYet
        (held (aloneAt ⟨5, 0⟩) hi.address reception)).2.table.has ⟨hi.address, "greet"⟩ = true := by decide +kernel
    rw [reached] at has
    refine ⟨rfl, o, u, ?_, by rw [hi_named]; exact has⟩
    exact @Triggers.intro (aloneAt ⟨5, 0⟩) hi reception (greeting true) o u hi _ [ushering, greeting true] _ _ _
      [(ushering, "begin")] "begin" [] (hi_admitted _) (.idle rfl (by decide +kernel) rfl rfl rfl) rfl rfl reached

end Chatflow.Proofs.OncePerContact
