import Chatflow.Proofs.ResumedWaits
import Chatflow.Proofs.StoreAgreement
import Mathlib.Data.List.Count

/-! The job that resumes the waits that are over, a batch at a time and the longest overdue first. A session that can be
woken is not due any more after its turn. One that cannot be is left as it is: it stays due, and it stands before all those
that are due later. -/

namespace Chatflow.Proofs.DueBatches
open Conversation SessionTable StoredSessions InProcessStore WorkLogic CallDeeds OrderlySessions ConversationOrder
  StoreInvariants KnownSessions ResumedWaits StoreAgreement WorkingDatabase

variable {setup : Setup} {w : World} {now : Instant} {id : String} {s : Session} {t : SessionTable}

theorem isDue_iff_reached : isDue now s = true ↔ ∃ dueAt, dueTime? s = some dueAt ∧ dueAt.micros ≤ now.micros := by
  unfold isDue
  cases dueTime? s <;> simp

theorem allDue_inOrder (t : SessionTable) (now : Instant) : DueInOrder t.sessions now (t.allDue now) :=
  mergeSort_dueInOrder (.refl _)

theorem mem_allDue : s ∈ t.allDue now ↔ s ∈ t.sessions ∧ isDue now s = true :=
  (allDue_inOrder t now).due.mem_iff.trans List.mem_filter

theorem due_eq_take (t : SessionTable) (now : Instant) : t.due now = (t.allDue now).take dueLimit.toNat := rfl

theorem mem_due (member : s ∈ t.due now) : s ∈ t.sessions ∧ isDue now s = true :=
  mem_allDue.mp (List.mem_of_mem_take (due_eq_take t now ▸ member))

/-- A session is among those whose wait is over. -/
def Listed (w : World) (now : Instant) (id : String) : Prop := ∃ s ∈ w.table.allDue now, s.id = id

theorem listed_iff (sound : Sound w.table) :
    Listed w now id ↔ ∃ s, w.table.get? id = some s ∧ isDue now s = true := by
  constructor
  · rintro ⟨s, member, rfl⟩
    exact ⟨s, sound.get?_of_mem (mem_allDue.mp member).1, (mem_allDue.mp member).2⟩
  · rintro ⟨s, stored, ripe⟩
    exact ⟨s, mem_allDue.mpr ⟨get?_mem stored, ripe⟩, get?_id stored⟩

theorem Listed.congr {after : World} (listed : Listed w now id) (table : after.table = w.table) : Listed after now id := by
  rw [Listed, table]
  exact listed

/-- A session can be woken: it is parked at a wait step of a flow that is on offer, and the run that goes on from there
comes to a result, which can be saved. -/
inductive Wakes (setup : Setup) (now : Instant) (w : World) (id : String) : Prop where
  | intro {s f options r rest moment} (stored : w.table.get? id = some s) (waits : waitedIn? w.catalogue s = some f)
      (ready : runOptions setup = .ok options)
      (ran : Interpreter.run f options now s w.rolls s.resumeStep = (.ok r, rest)) (present : setup.utcNow = .ok moment)

theorem wakes_locked (locked : Outside) : Wakes setup now { w with outside := locked } id ↔ Wakes setup now w id :=
  ⟨fun ⟨stored, waits, ready, ran, present⟩ => ⟨stored, waits, ready, ran, present⟩,
    fun ⟨stored, waits, ready, ran, present⟩ => ⟨stored, waits, ready, ran, present⟩⟩

/-- All waits of the flows on offer last. -/
def WaitsLast (c : Catalogue) : Prop := ∀ f ∈ c.flows, ∀ step ∈ f.steps, ∀ wait, step.body = .wait wait → Lasts wait

theorem listed_of_isDue (due : IsDue w now id) : Listed w now id := by
  obtain ⟨s, f, overdue⟩ := due
  obtain ⟨dueAt, time, ripe⟩ := overdue.ripe
  have status : s.status = .active := eq_of_beq (Bool.and_eq_true_iff.mp overdue.active).1
  have reached : isDue now s = true := isDue_iff_reached.mpr ⟨dueAt, by simp [dueTime?, status, time], ripe⟩
  exact ⟨s, mem_allDue.mpr ⟨get?_mem overdue.stored, reached⟩, get?_id overdue.stored⟩

theorem Wakes.isDue (wakes : Wakes setup now w id) (sound : Sound w.table) (listed : Listed w now id) :
    IsDue w now id := by
  obtain ⟨stored, waits, _, _, _⟩ := wakes
  obtain ⟨s, same, reached⟩ := (listed_iff sound).mp listed
  cases stored.symm.trans same
  obtain ⟨dueAt, time, ripe⟩ := isDue_iff_reached.mp reached
  refine isDue_iff.mpr ⟨_, _, dueAt, stored, waits, ?_, ripe⟩
  unfold dueTime? at time
  split at time
  · exact time
  · cases time

theorem not_listed (known : Known id (fun s => isDue now s = false) w) : ¬ Listed w now id := by
  intro ⟨s, member, same⟩
  obtain ⟨stored, reached⟩ := mem_allDue.mp member
  rw [known.fits s stored same] at reached
  cases reached

theorem known_of_not_listed (gone : Past id w) (absent : ¬ Listed w now id) :
    Known id (fun s => isDue now s = false) w := by
  refine ⟨gone, fun s stored same => ?_⟩
  cases reached : isDue now s with
  | false => rfl
  | true => exact absurd ⟨s, mem_allDue.mpr ⟨stored, reached⟩, same⟩ absent

section
variable (inProcess : setup.hasDatabase = false)
include inProcess

/-- A session that can be woken has been, whatever comes of the flows that are started after it. -/
theorem resumeLocked_woken (solitary : Solitary w) (lasting : WaitsLast w.catalogue) (due : IsDue w now id)
    (wakes : Wakes setup now w id) : Known id (fun s => isDue now s = false) (resumeLocked setup now id w).2 := by
  obtain ⟨s, f, overdue⟩ := due
  obtain @⟨s, f, options, r, rest, moment, stored, waits, ready, ran, present⟩ := wakes
  cases overdue.stored.symm.trans stored
  cases overdue.waitedIn?.symm.trans waits
  have offered : f ∈ w.catalogue.flows := List.mem_of_find?_eq_some overdue.offered
  have still : Solitary { w with rolls := rest } := ⟨solitary.alone, solitary.sound, solitary.given⟩
  have known := known_of_followed inProcess still (get?_self stored) (run_rests (lasting f offered) ran) moment
    ⟨.resumed, [id], r.actions⟩
  rw [resumeLocked_overdue inProcess solitary overdue, ready]
  simp only [ran, present]
  rwa [get?_id stored] at known

/-- A wait that is over ends in a failure where the session cannot be woken. -/
theorem resumeLocked_unwoken (solitary : Solitary w) (due : IsDue w now id) (asleep : ¬ Wakes setup now w id) :
    ∃ fault rest, resumeLocked setup now id w = (.error fault, { w with rolls := rest }) := by
  obtain ⟨s, f, overdue⟩ := due
  rw [resumeLocked_overdue inProcess solitary overdue]
  cases ready : runOptions setup with
  | error fault => exact ⟨fault, w.rolls, rfl⟩
  | ok options =>
    dsimp only
    rcases ran : Interpreter.run f options now s w.rolls s.resumeStep with ⟨fault | r, rest⟩
    · exact ⟨fault, rest, rfl⟩
    · cases present : setup.utcNow with
      | error fault => exact ⟨fault, rest, rfl⟩
      | ok moment => exact absurd (.intro overdue.stored overdue.waitedIn? ready ran present) asleep

/-- A turn of a session that can be woken. -/
theorem turn_wakes (solitary : Solitary w) (lasting : WaitsLast w.catalogue) (due : IsDue w now id)
    (wakes : Wakes setup now w id) : Known id (fun s => isDue now s = false) (resumeAsOf setup now id w).2 := by
  obtain ⟨s, f, overdue⟩ := due
  obtain ⟨locked, unlocked, result, last, _, _, worked, done⟩ := resumeAsOf_found inProcess overdue.stored now
  have within : Solitary { w with outside := locked } := ⟨solitary.alone, solitary.sound, solitary.given⟩
  have known := resumeLocked_woken inProcess within lasting ((isDue_locked locked).mpr ⟨s, f, overdue⟩)
    ((wakes_locked locked).mpr wakes)
  rw [worked] at known
  have left : Known id (fun s => isDue now s = false) { last with outside := unlocked } :=
    @Known.settled id _ last _ ⟨rfl, rfl, rfl, rfl⟩ known
  rw [done]
  cases result with
  | error fault => exact left
  | ok o => exact Known.settled (deliver_aside o _) left

/-- A turn of a session that is not due, or that cannot be woken. -/
theorem turn_rests (solitary : Solitary w) (rests : ¬ (IsDue w now id ∧ Wakes setup now w id)) :
    Quiet w (resumeAsOf setup now id w).2 := by
  by_cases due : IsDue w now id
  · obtain ⟨s, f, overdue⟩ := due
    obtain ⟨locked, unlocked, result, last, entered, left, worked, done⟩ := resumeAsOf_found inProcess overdue.stored now
    have within : Solitary { w with outside := locked } := ⟨solitary.alone, solitary.sound, solitary.given⟩
    obtain ⟨fault, rest, failed⟩ := resumeLocked_unwoken inProcess within ((isDue_locked locked).mpr ⟨s, f, overdue⟩)
      fun able => rests ⟨⟨s, f, overdue⟩, (wakes_locked locked).mp able⟩
    rw [worked] at failed
    cases failed
    rw [done]
    exact ⟨⟨entered.trans left, rfl⟩, rfl, rfl, rfl⟩
  · obtain ⟨o, after, done, _, _, quiet⟩ := resumeAsOf_idle inProcess due
    rw [done]
    exact quiet

/-- One turn takes a session that can be woken from those that are due, and no other. -/
theorem listed_turn (solitary : Solitary w) (lasting : WaitsLast w.catalogue) :
    (Listed (resumeAsOf setup now id w).2 now id ↔ Listed w now id ∧ ¬ Wakes setup now w id) ∧
      (Listed (resumeAsOf setup now id w).2 now id → Quiet w (resumeAsOf setup now id w).2) := by
  by_cases woken : Listed w now id ∧ Wakes setup now w id
  · have absent := not_listed
      (turn_wakes inProcess solitary lasting (woken.2.isDue solitary.sound woken.1) woken.2)
    exact ⟨iff_of_false absent fun stays => stays.2 woken.2, fun listed => absurd listed absent⟩
  · have quiet : Quiet w (resumeAsOf setup now id w).2 :=
      turn_rests inProcess solitary fun due => woken ⟨listed_of_isDue due.1, due.2⟩
    refine ⟨⟨fun stays => ?_, fun stays => stays.1.congr quiet.table⟩, fun _ => quiet⟩
    have listed : Listed w now id := stays.congr quiet.table.symm
    exact ⟨listed, fun wakes => woken ⟨listed, wakes⟩⟩

end

/-- The world once sessions were given their turn, one after another. -/
def afterTurns (setup : Setup) (now : Instant) (sessions : List Session) (w : World) : World :=
  sessions.foldl (fun w s => (resumeAsOf setup now s.id w).2) w

theorem resumeEach_apply (sessions : List Session) (counts : List (String × Nat)) (w : World) :
    ∃ counted, resumeEach setup now sessions counts w = (.ok counted, afterTurns setup now sessions w) := by
  induction sessions generalizing counts w with
  | nil => exact ⟨counts, rfl⟩
  | cons s rest ih => exact ih (tally (turnName (resumeAsOf setup now s.id w).1) counts) (resumeAsOf setup now s.id w).2

theorem afterTurns_keeps {inv : World → Prop} {sessions : List Session}
    (turn : ∀ s ∈ sessions, ∀ w, inv w → inv (resumeAsOf setup now s.id w).2) (holds : inv w) :
    inv (afterTurns setup now sessions w) := by
  induction sessions generalizing w with
  | nil => exact holds
  | cons s rest ih =>
    exact ih (fun other member => turn other (List.mem_cons_of_mem _ member)) (turn s List.mem_cons_self w holds)

section
variable (inProcess : setup.hasDatabase = false)
include inProcess

/-- The job comes to an end, whatever the turns came to. -/
theorem resumeDueAsOf_apply (now : Instant) (w : World) :
    ∃ counted, resumeDueAsOf setup now w = (.ok counted, afterTurns setup now (w.table.due now) w) := by
  unfold resumeDueAsOf
  rw [due_eq inProcess]
  exact resumeEach_apply (w.table.due now) [] w

/-- What is not due any more is not due after later turns either, if its own turn comes once more or others' do. -/
theorem absent_turn (other : String) (known : Known id (fun s => isDue now s = false) w) :
    Known id (fun s => isDue now s = false) (resumeAsOf setup now other w).2 := by
  by_cases same : other = id
  · subst same
    have quiet := turn_rests inProcess known.toSolitary fun due : IsDue w now other ∧ Wakes setup now w other =>
      not_isDue_of_known known due.1
    have gone : Past other (resumeAsOf setup now other w).2 :=
      ((past_upheld inProcess).resumeAsOf inProcess trivial now w known.toPast trivial).1
    exact ⟨gone, by rw [quiet.table]; exact known.fits⟩
  · exact ((known_upheld inProcess).resumeAsOf inProcess same now w known trivial).1

/-- A turn takes a session from those that are due if it can be woken, and then it is not among them when the job is done.
Where it cannot be, its turn changes and sends nothing, and it is as due as before. -/
theorem due_after_turn_iff_not_woken (solitary : Solitary w) (lasting : WaitsLast w.catalogue)
    {before rest : List Session} (batch : w.table.due now = before ++ s :: rest) :
    let turn := afterTurns setup now before w
    let done := (resumeAsOf setup now s.id turn).2
    (Listed done now s.id ↔ Listed turn now s.id ∧ ¬ Wakes setup now turn s.id) ∧
      (Listed done now s.id → Quiet turn done) ∧
      ∃ counted final, resumeDueAsOf setup now w = (.ok counted, final) ∧
        (¬ Listed done now s.id → ¬ Listed final now s.id) := by
  intro turn done
  have inside : s ∈ w.table.due now := by simp [batch]
  have given : Past s.id w := ⟨solitary, solitary.given s (mem_due inside).1⟩
  have upheld := (@past_upheld setup s.id inProcess).and (@offered_upheld setup inProcess w.catalogue)
  have step : ∀ other world, Past s.id world ∧ world.catalogue = w.catalogue →
      Past s.id (resumeAsOf setup now other world).2 ∧ (resumeAsOf setup now other world).2.catalogue = w.catalogue :=
    fun other world holds => (upheld.resumeAsOf inProcess trivial now world holds trivial).1
  have reached : Past s.id turn ∧ turn.catalogue = w.catalogue :=
    afterTurns_keeps (fun other _ => step other.id) ⟨given, rfl⟩
  have ending : Past s.id done := (step s.id turn reached).1
  have own := @listed_turn setup turn now s.id inProcess reached.1.toSolitary (reached.2 ▸ lasting)
  obtain ⟨counted, job⟩ := resumeDueAsOf_apply inProcess now w
  refine ⟨own.1, own.2, counted, _, job, fun absent => ?_⟩
  have final : afterTurns setup now (w.table.due now) w = afterTurns setup now rest done := by
    rw [batch]
    exact List.foldl_append ..
  rw [final]
  exact not_listed (afterTurns_keeps (fun other _ world => absent_turn inProcess other.id)
    (known_of_not_listed ending absent))

end

/-- The nap is over, and the one who takes it can be woken. -/
theorem woken_nap_leaves_batch :
    Wakes (aloneAt ⟨5, 0⟩) ⟨5, 0⟩ bedroom "s1" ∧
      ∃ final, resumeDueAsOf (aloneAt ⟨5, 0⟩) ⟨5, 0⟩ bedroom = (.ok [("resumed", 1)], final) ∧
        ¬ Listed final ⟨5, 0⟩ "s1" := by
  have batch : bedroom.table.due ⟨5, 0⟩ = [] ++ asleep :: [] := by
    rw [due_eq_take, List.perm_singleton.mp (allDue_inOrder bedroom.table ⟨5, 0⟩).due]
    rfl
  have listed : Listed bedroom ⟨5, 0⟩ "s1" := by unfold Listed; decide +kernel
  have absent : ¬ Listed (resumeAsOf (aloneAt ⟨5, 0⟩) ⟨5, 0⟩ "s1" bedroom).2 ⟨5, 0⟩ "s1" := by
    unfold Listed
    decide +kernel
  have counts : (resumeDueAsOf (aloneAt ⟨5, 0⟩) ⟨5, 0⟩ bedroom).1.toOption = some [("resumed", 1)] := by decide +kernel
  obtain ⟨stays, _, counted, final, job, gone⟩ :=
    @due_after_turn_iff_not_woken (aloneAt ⟨5, 0⟩) bedroom ⟨5, 0⟩ asleep rfl bedroom_solitary naps_last [] [] batch
  rw [job] at counts
  cases counts
  refine ⟨?_, final, job, gone absent⟩
  by_contra asleep
  exact absent (stays.mpr ⟨listed, asleep⟩)

/-- A world in which a session waits in a flow that is gone. -/
def stranded : World := { bedroom with catalogue := {} }

/-- The job gives it its turn, and it is as due as before. -/
theorem stranded_wait_stays_due :
    Solitary stranded ∧ WaitsLast stranded.catalogue ∧ (stranded.table.due ⟨5, 0⟩).map Session.id = ["s1"] ∧
      ∃ final, resumeDueAsOf (aloneAt ⟨5, 0⟩) ⟨5, 0⟩ stranded = (.ok [("stale", 1)], final) ∧
        (final.table.due ⟨5, 0⟩).map Session.id = ["s1"] := by
  have answer : (resumeDueAsOf (aloneAt ⟨5, 0⟩) ⟨5, 0⟩ stranded).1.toOption = some [("stale", 1)] := by decide +kernel
  have left : ((resumeDueAsOf (aloneAt ⟨5, 0⟩) ⟨5, 0⟩ stranded).2.table.due ⟨5, 0⟩).map Session.id = ["s1"] := by
    decide +kernel
  have solitary : Solitary stranded := ⟨bedroom_solitary.alone, bedroom_solitary.sound, bedroom_solitary.given⟩
  rcases job : resumeDueAsOf (aloneAt ⟨5, 0⟩) ⟨5, 0⟩ stranded with ⟨fault | counted, final⟩ <;> rw [job] at answer left <;>
    cases answer
  exact ⟨solitary, by simp [WaitsLast, stranded], by decide +kernel, final, rfl, left⟩

/-- A batch that is full as of some time holds no session that is due later only. -/
theorem due_within {later : Instant} (full : dueLimit.toNat ≤ (t.allDue now).length) (ahead : now.micros ≤ later.micros) :
    ∀ s ∈ t.due later, isDue now s = true := by
  intro s taken
  by_contra pending
  obtain ⟨dueAt, time, _⟩ := isDue_iff_reached.mp (mem_due taken).2
  have late : now.micros < dueAt.micros := by
    rw [isDue_iff_reached] at pending
    exact Int.not_le.mp fun reached => pending ⟨dueAt, time, reached⟩
  have inOrder := allDue_inOrder t later
  -- The sessions behind the batch are due no earlier than this one, so that those due by now are all in the batch.
  have behind : ∀ other ∈ (t.allDue later).drop dueLimit.toNat, ¬ isDue now other = true := by
    intro other member reached
    obtain ⟨moment, due, ripe⟩ := isDue_iff_reached.mp reached
    have ordered := inOrder.ordered
    rw [← List.take_append_drop dueLimit.toNat (t.allDue later), List.pairwise_append] at ordered
    have order := ordered.2.2 s taken other member
    simp only [dueMicros, time, due, Option.map_some, Option.getD_some] at order
    omega
  have counted : (t.allDue now).length = (t.allDue later).countP (isDue now) := by
    rw [(allDue_inOrder t now).due.length_eq, inOrder.due.countP_eq, List.countP_filter, List.countP_eq_length_filter]
    congr 1
    refine List.filter_congr fun other _ => ?_
    cases reached : isDue now other with
    | false => rfl
    | true =>
      obtain ⟨moment, due, ripe⟩ := isDue_iff_reached.mp reached
      exact (isDue_iff_reached.mpr ⟨moment, due, Int.le_trans ripe ahead⟩).symm
  have short : ((t.allDue later).take dueLimit.toNat).countP (isDue now) < dueLimit.toNat := by
    have fewer := List.countP_lt_length_iff.mpr ⟨s, taken, Bool.eq_false_iff.mpr pending⟩
    have bounded := List.length_take_le dueLimit.toNat (t.allDue later)
    rw [due_eq_take] at fewer
    omega
  rw [← List.take_append_drop dueLimit.toNat (t.allDue later), List.countP_append, List.countP_eq_zero.mpr behind] at counted
  omega

/-- Where as many sessions as fill a batch are due and wait in no flow that is on offer, a job changes and sends nothing. -/
theorem stranded_batch_idles (inProcess : setup.hasDatabase = false) (sound : Sound w.table)
    (full : dueLimit.toNat ≤ (w.table.allDue now).length)
    (lost : ∀ s ∈ w.table.allDue now, waitedIn? w.catalogue s = none) {later : Instant}
    (ahead : now.micros ≤ later.micros) : Quiet w (resumeDueAsOf setup later w).2 := by
  obtain ⟨counted, job⟩ := resumeDueAsOf_apply inProcess later w
  rw [job]
  refine @afterTurns_keeps setup w later (Quiet w) _ (fun s taken world quiet => ?_) (.refl w)
  have idle : ¬ IsDue world later s.id := by
    rw [isDue_congr quiet.table quiet.catalogue, isDue_iff]
    rintro ⟨found, f, _, stored, waits, _⟩
    have member := (mem_due taken).1
    cases (sound.get?_of_mem member).symm.trans stored
    rw [lost s (mem_allDue.mpr ⟨member, due_within full ahead s taken⟩)] at waits
    cases waits
  obtain ⟨o, after, done, _, _, still⟩ := resumeAsOf_idle inProcess idle
  rw [done]
  exact quiet.trans still

/-- And so does every later one, so that the waits which come after those are never resumed. -/
theorem stranded_batch_starves_others (sound : Sound w.table) (full : dueLimit.toNat ≤ (w.table.allDue now).length)
    (lost : ∀ s ∈ w.table.allDue now, waitedIn? w.catalogue s = none) (jobs : List (Setup × Instant))
    (inProcess : ∀ job ∈ jobs, job.1.hasDatabase = false) (ahead : ∀ job ∈ jobs, now.micros ≤ job.2.micros) :
    Quiet w (jobs.foldl (fun w job => (resumeDueAsOf job.1 job.2 w).2) w) := by
  suffices kept : ∀ world, Quiet w world → Quiet w (jobs.foldl (fun w job => (resumeDueAsOf job.1 job.2 w).2) world) from
    kept w (.refl w)
  induction jobs with
  | nil => exact fun world quiet => quiet
  | cons job rest ih =>
    intro world quiet
    refine ih (fun other member => inProcess other (List.mem_cons_of_mem _ member))
      (fun other member => ahead other (List.mem_cons_of_mem _ member)) _ ?_
    refine quiet.trans (stranded_batch_idles (inProcess job List.mem_cons_self) ?_ ?_ ?_ (ahead job List.mem_cons_self))
    · rwa [quiet.table]
    · rwa [quiet.table]
    · rwa [quiet.table, quiet.catalogue]

end Chatflow.Proofs.DueBatches
