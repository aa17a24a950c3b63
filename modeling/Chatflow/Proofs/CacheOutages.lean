import Chatflow.Proofs.WorkLogic
import Chatflow.Breaker.Shared

/-! Calls through a breaker whose state is kept in the shared cache, whatever becomes of the cache. Each command may
fail or be answered with anything, and that may hang on all that happened before. -/

namespace Chatflow.Proofs.CacheOutages
open Cache SharedBreaker WorkLogic

variable {σ τ α β : Type} {link : Option (Link σ)} {connected : Link σ} {s t u : σ}

/-- What is left of a state when commands are sent and nothing else is done. -/
inductive Commanded (link : Option (Link σ)) (s : σ) : σ → Prop where
  | still : Commanded link s s
  | command {t : σ} {connected : Link σ} (before : Commanded link s t) (linked : link = some connected) (c : Command) :
      Commanded link s (connected c t).2

theorem Commanded.trans (first : Commanded link s t) (next : Commanded link t u) : Commanded link s u := by
  induction next with
  | still => exact first
  | command _ linked c ih => exact ih.command linked c

/-- What no command changes is not changed by many. -/
theorem Commanded.same {γ : Type} {view : σ → γ} (commanded : Commanded link s t)
    (unmoved : ∀ connected, link = some connected → ∀ c s, view (connected c s).2 = view s) : view t = view s := by
  induction commanded with
  | still => rfl
  | command _ linked c ih => exact (unmoved _ linked c _).trans ih

/-- Work that sends commands and does nothing else, however it ends. -/
def Sends (connected : Link σ) (work : ExceptT Fault (StateM σ) α) : Prop :=
  ∀ s, Commanded (some connected) s (work s).2

namespace Sends

theorem pure (a : α) : Sends connected (Pure.pure a) := fun _ => .still

theorem lift (e : Except Fault α) : Sends connected (ExceptT.mk (Pure.pure e)) := fun _ => .still

theorem command (c : Command) : Sends connected (ExceptT.mk (connected c)) := fun _ => .command .still rfl c

theorem bind {work : ExceptT Fault (StateM σ) α} {next : α → ExceptT Fault (StateM σ) β} (first : Sends connected work)
    (rest : ∀ a, Sends connected (next a)) : Sends connected (work >>= next) := by
  intro s
  rw [bind_apply]
  have before := first s
  rcases done : work s with ⟨fault | a, middle⟩ <;> rw [done] at before
  · exact before
  · exact before.trans (rest a middle)

end Sends

theorem send_sends (c : Command) : Sends connected (send connected c) := (Sends.command c).bind fun _ => .pure ()

theorem readTable_sends (c : Circuit) : Sends connected (readTable connected c) :=
  (Sends.command _).bind fun reply => .lift reply.table?

theorem writeState_sends (c : Circuit) (state : CircuitState) (cells : List (String × Cell)) :
    Sends connected (writeState connected c state cells) :=
  (send_sends _).bind fun _ => send_sends _

variable [Clock τ]

theorem checkOpen_sends (c : Circuit) (now : τ) : Sends connected (checkOpen connected c now) := by
  apply (readTable_sends c).bind
  intro cells
  split
  · split
    · exact .pure false
    · split
      · exact (writeState_sends c _ _).bind fun _ => .pure false
      · exact .pure true
  · exact .pure false

theorem noteSuccess_sends (c : Circuit) : Sends connected (noteSuccess connected c) := by
  apply (readTable_sends c).bind
  intro cells
  split
  · apply (Sends.command _).bind
    intro reply
    apply (Sends.lift reply.count?).bind
    intro successes
    split
    · exact send_sends _
    · exact .pure ()
  · exact send_sends _

theorem noteFailure_sends (c : Circuit) (now : τ) : Sends connected (noteFailure connected c now) := by
  apply (readTable_sends c).bind
  intro cells
  apply (Sends.command _).bind
  intro reply
  apply (Sends.lift reply.count?).bind
  intro failures
  apply (send_sends _).bind
  intro _
  split
  · exact writeState_sends c _ _
  · exact .pure ()

theorem note_commanded (connected : Link σ) (c : Circuit) (now : τ) (success : Bool) (s : σ) :
    Commanded (some connected) s (note connected c now success s).2 := by
  cases success with
  | true => exact noteSuccess_sends c s
  | false => exact noteFailure_sends c now s

theorem isOpen_apply (c : Circuit) (now : τ) (s : σ) :
    isOpen connected c now s =
      ((checkOpen connected c now s).1.toOption.getD false, (checkOpen connected c now s).2) := by
  simp only [isOpen, ExceptT.run, bind, StateT.bind]
  rcases checkOpen connected c now s with ⟨fault | answer, after⟩ <;> rfl

theorem isOpen_commanded (connected : Link σ) (c : Circuit) (now : τ) (s : σ) :
    Commanded (some connected) s (isOpen connected c now s).2 := by
  rw [isOpen_apply]
  exact checkOpen_sends c now s

/-- What has a breaker refuse a call: a table was read which says that the circuit is open, and since a time that has not
passed for long enough. A table without a time is read as that of a circuit opened at the beginning of time. -/
def Refuses (c : Circuit) (now : τ) (answer : Except Fault Reply) : Prop :=
  ∃ cells since, answer = .ok (.table cells) ∧ cellText? cells "state" = some "open" ∧
    openedAt? cells = some since ∧ Clock.passed since now c.limits.seconds = false

theorem readTable_apply (connected : Link σ) (c : Circuit) (s : σ) :
    readTable connected c s =
      ((connected (.readTable c.key) s).1 >>= Reply.table?, (connected (.readTable c.key) s).2) := by
  rw [readTable, bind_apply]
  dsimp only [ExceptT.mk]
  rcases connected (.readTable c.key) s with ⟨fault | reply, after⟩ <;> rfl

theorem isOpen_refused {c : Circuit} {now : τ} (refuses : Refuses c now (connected (.readTable c.key) s).1) :
    isOpen connected c now s = (true, (connected (.readTable c.key) s).2) := by
  obtain ⟨cells, since, answered, stated, told, early⟩ := refuses
  have opened : saysState cells .opened = true := beq_iff_eq.mpr stated
  have checked : checkOpen connected c now s = (.ok true, (connected (.readTable c.key) s).2) := by
    unfold checkOpen
    rw [bind_apply, readTable_apply, answered]
    simp only [bind, Except.bind, Reply.table?, opened, told, early, if_true, Bool.false_eq_true, if_false]
    rfl
  rw [isOpen_apply, checked]
  rfl

theorem refuses_of_isOpen {c : Circuit} {now : τ} (refused : (isOpen connected c now s).1 = true) :
    Refuses c now (connected (.readTable c.key) s).1 := by
  rw [isOpen_apply] at refused
  rcases checked : checkOpen connected c now s with ⟨fault | answer, after⟩ <;> rw [checked] at refused
  · cases refused
  cases refused
  obtain ⟨cells, middle, read, decided⟩ := bind_ok checked
  rw [readTable_apply] at read
  obtain ⟨reply, answered, table⟩ := produced_of_ok (congrArg Prod.fst read)
  cases reply <;> cases table
  cases opened : saysState cells .opened <;> rw [opened] at decided
  · cases decided
  rw [if_pos rfl] at decided
  cases told : (openedAt? cells : Option τ) with
  | none =>
    rw [told] at decided
    cases decided
  | some since =>
    rw [told] at decided
    dsimp only at decided
    cases passed : Clock.passed since now c.limits.seconds with
    | false => exact ⟨cells, since, answered, eq_of_beq opened, told, passed⟩
    | true =>
      rw [passed, if_pos rfl] at decided
      obtain ⟨_, _, _, impossible⟩ := bind_ok decided
      cases impossible

theorem isOpen_iff_refuses {c : Circuit} {now : τ} :
    (isOpen connected c now s).1 = true ↔ Refuses c now (connected (.readTable c.key) s).1 :=
  ⟨refuses_of_isOpen, fun refuses => congrArg Prod.fst (isOpen_refused refuses)⟩

/-- There is a cache, and what it answers has the call refused. -/
def Refused (link : Option (Link σ)) (c : Circuit) (now : τ) (s : σ) : Prop :=
  ∃ connected, link = some connected ∧ Refuses c now (connected (.readTable c.key) s).1

/-- A count that goes up with every start of some work, and with nothing that commands do. -/
structure Counts (link : Option (Link σ)) (work : StateM σ (Except Fault α)) (starts : σ → Nat) : Prop where
  commands : ∀ connected, link = some connected → ∀ c s, starts (connected c s).2 = starts s
  work : ∀ s, starts (work s).2 = starts s + 1

theorem call_let_in {c : Circuit} {now : τ} (admitted : ¬ Refuses c now (connected (.readTable c.key) s).1)
    (work : StateM σ (Except Fault α)) :
    call connected c now work s =
      let (result, after) := work (isOpen connected c now s).2
      (result, (note connected c now result.isOk after).2) := by
  have letIn : (isOpen connected c now s).1 = false :=
    Bool.eq_false_iff.mpr fun refused => admitted (isOpen_iff_refuses.mp refused)
  simp only [call, bind, StateT.bind]
  rcases asked : isOpen connected c now s with ⟨refused, after⟩
  rw [asked] at letIn
  cases letIn
  rfl

/-- Whatever the cache answers to each command, and whether or not there is one, a call is refused exactly if it is read
that the circuit is open and was opened too short a time ago. Then its work is not started. Otherwise its work is started
exactly once, and the call ends as the work does, with the same result or the same fault. -/
theorem call_is_refused_or_ends_as_its_work (link : Option (Link σ)) (c : Circuit) (now : τ)
    (work : StateM σ (Except Fault α)) (s : σ) :
    (Refused link c now s →
      (callVia link c now work s).1 = .error (.circuitOpen c.service) ∧ Commanded link s (callVia link c now work s).2 ∧
      ∀ starts, Counts link work starts → starts (callVia link c now work s).2 = starts s) ∧
    (¬ Refused link c now s →
      ∃ started, Commanded link s started ∧ (callVia link c now work s).1 = (work started).1 ∧
        Commanded link (work started).2 (callVia link c now work s).2 ∧
        ∀ starts, Counts link work starts → starts (callVia link c now work s).2 = starts s + 1) := by
  have once : ∀ {started ended starts}, Counts link work starts → Commanded link s started →
      Commanded link (work started).2 ended → starts ended = starts s + 1 := by
    intro started ended starts counts before after
    rw [after.same counts.commands, counts.work, before.same counts.commands]
  constructor
  · rintro ⟨connected, rfl, refuses⟩
    have ended : callVia (some connected) c now work s =
        (.error (.circuitOpen c.service), (connected (.readTable c.key) s).2) := by
      simp only [callVia, call, bind, StateT.bind, isOpen_refused refuses]
      rfl
    have read : Commanded (some connected) s (connected (.readTable c.key) s).2 := .command .still rfl _
    rw [ended]
    exact ⟨rfl, read, fun starts counts => read.same counts.commands⟩
  · intro admitted
    cases link with
    | none => exact ⟨s, .still, rfl, .still, fun starts counts => once counts .still .still⟩
    | some connected =>
      have asked := isOpen_commanded connected c now s
      have ended := call_let_in (fun refuses => admitted ⟨connected, rfl, refuses⟩) work
      have noted := note_commanded connected c now (work (isOpen connected c now s).2).1.isOk
        (work (isOpen connected c now s).2).2
      rw [callVia, ended]
      exact ⟨_, asked, rfl, noted, fun starts counts => once counts asked noted⟩

end Chatflow.Proofs.CacheOutages
