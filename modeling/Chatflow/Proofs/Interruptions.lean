import Chatflow.Proofs.EventPaths

/-! Interruptions. A message that names a keyword ends the conversations of its contact, and then the flows are matched as
for any other event. So it starts one of those that it is for, unless all of these are barred. -/

namespace Chatflow.Proofs.Interruptions
open Conversation InProcessStore RunEndings CallCourses ResumedWaits EventPaths

variable {setup : Setup} {raw e : Event} {w v u after : World} {flows : List Flow} {prior : List String} {f : Flow}

/-- An event is for a flow: the flow is active, and its trigger takes what the event brings. -/
def Takes (e : Event) (f : Flow) : Prop :=
  f.isActive = true ∧ ∃ t, f.trigger? = some t ∧ TriggerMatch.takesEvent t e = true

/-- The trigger of a flow is bound to another device than that of an event, or it is for once per contact and the contact
has been in the flow. -/
def Barred (setup : Setup) (e : Event) (prior : List String) (f : Flow) : Prop :=
  ∃ t, f.trigger? = some t ∧ (TriggerMatch.deviceAllows t e setup.settings.enforceDeviceScope = false ∨
    t.scope.oncePerContact = true ∧ f.id ∈ prior)

theorem startStep?_of_trigger? {t : Trigger} (triggers : f.trigger? = some t) : ∃ step, f.startStep? = some step := by
  unfold Flow.trigger? at triggers
  cases begins : f.startStep? with
  | none => simp [begins] at triggers
  | some step => exact ⟨step, rfl⟩

/-- A message starts the flows that it is for and that are not barred. -/
theorem starts_iff (kind : e.kind = .message) :
    TriggerMatch.starts e setup.settings.enforceDeviceScope (if e.kind = .thirdParty then e.triggerId else none)
      prior.contains f = true ↔ Takes e f ∧ ¬ Barred setup e prior f := by
  unfold TriggerMatch.starts Takes Barred
  cases f.trigger? with
  | none => simp
  | some t => grind [List.contains_iff_mem]

theorem triggeredBy_ne_nil (kind : e.kind = .message) :
    triggeredBy setup e flows prior ≠ [] ↔ ∃ f ∈ flows, Takes e f ∧ ¬ Barred setup e prior f := by
  constructor
  · intro something
    obtain ⟨⟨f, step⟩, member⟩ := List.exists_mem_of_ne_nil _ something
    obtain ⟨offered, starts, _⟩ := mem_triggeredBy.mp member
    exact ⟨f, offered, (starts_iff kind).mp starts⟩
  · rintro ⟨f, offered, takes, free⟩
    obtain ⟨t, triggers, _⟩ := takes.2
    obtain ⟨step, begins⟩ := startStep?_of_trigger? triggers
    have triggered := mem_triggeredBy.mpr ⟨offered, (starts_iff kind).mpr ⟨takes, free⟩, congrArg (Option.map Step.id) begins⟩
    exact List.ne_nil_of_mem triggered

/-- A message that names a keyword is for the flow whose keyword it is. -/
theorem takes_of_isKeyword (kind : e.kind = .message) (keyword : TriggerMatch.isKeyword e.text flows = true) :
    ∃ f ∈ flows, Takes e f := by
  obtain ⟨_, named⟩ := Bool.and_eq_true_iff.mp keyword
  obtain ⟨f, offered, names⟩ := List.any_eq_true.mp named
  obtain ⟨active, takes⟩ := Bool.and_eq_true_iff.mp names
  refine ⟨f, offered, active, ?_⟩
  split at takes
  next scope mode keywords triggers =>
    exact ⟨_, triggers, by simpa [TriggerMatch.takesEvent, kind] using (Bool.and_eq_true_iff.mp takes).2⟩
  next => cases takes

/-- A message that interrupts is for some flows on offer. If all of these are barred, it starts none. Otherwise it starts
one or more, unless one cannot be started. -/
theorem interruption_starts_flow_unless_all_barred (admitted : Admitted setup raw w e v)
    (interrupts : Interrupts setup e v flows u) (known : priorFlows setup e.address flows u = (.ok prior, after)) :
    (∃ f ∈ flows, Takes e f) ∧
      (triggeredBy setup e flows prior ≠ [] ↔ ∃ f ∈ flows, Takes e f ∧ ¬ Barred setup e prior f) ∧
      ((∀ f ∈ flows, Takes e f → Barred setup e prior f) → (handleEvent setup raw w).1 = .ok ⟨.noMatch, [], []⟩) ∧
      ((∃ f ∈ flows, Takes e f ∧ ¬ Barred setup e prior f) →
        (∃ o, (handleEvent setup raw w).1 = .ok o ∧ o.status = .started ∧ o.sessionIds ≠ []) ∨
        ∃ before f step rest o middle fault last,
          triggeredBy setup e flows prior = before ++ (f, step) :: rest ∧
          startAll setup e before nothingYet after = (.ok o, middle) ∧
          start setup e.address maxChained f (initialVariables e.address (some e) []) e.deviceId (some step) middle =
            (.error fault, last) ∧
          (handleEvent setup raw w).1 = concluded (.error fault)) := by
  have worked : handleLocked setup e v = trigger setup e flows u := (Sought.restart interrupts).handleLocked
  have answered := admitted.handleEvent.1
  rw [worked, trigger_apply known] at answered
  have listed := @triggeredBy_ne_nil setup e flows prior interrupts.kind
  refine ⟨takes_of_isKeyword interrupts.kind interrupts.keyword, listed, fun barred => ?_, fun free => ?_⟩
  · have nothing : triggeredBy setup e flows prior = [] := by
      refine Classical.not_not.mp fun something => ?_
      obtain ⟨f, offered, takes, free⟩ := listed.mp something
      exact free (barred f offered takes)
    rw [nothing] at answered
    exact answered
  · have something := listed.mpr free
    have begun : (handleEvent setup raw w).1 =
        concluded (startAll setup e (triggeredBy setup e flows prior) nothingYet after).1 := by
      rw [answered]
      cases triggers : triggeredBy setup e flows prior with
      | nil => exact absurd triggers something
      | cons first rest => rfl
    rcases ended : startAll setup e (triggeredBy setup e flows prior) nothingYet after with ⟨fault | o, last⟩ <;>
      rw [ended] at begun
    · obtain ⟨before, f, step, rest, o, middle, split, reached, broken⟩ := startAll_failed ended
      exact Or.inr ⟨before, f, step, rest, o, middle, fault, last, split, reached, broken, begun⟩
    · obtain ⟨status, ids⟩ := (startAll_yields e _ nothingYet).of_ok ended
      exact Or.inl ⟨o, begun, status, ids (Or.inr something)⟩

/-- A flow that answers a greeting with a question, perhaps once per contact only. -/
def greeting (once : Bool) : Flow :=
  { id := "greet"
    steps := [⟨"begin", .start (some (.message { oncePerContact := once } .contains ["hi"]))⟩,
      ⟨"ask", .question { text := "How are you?" }⟩]
    connections := [⟨"c", "begin", "ask", none, none⟩] }

def greeted (once : Bool) : Session := { newcomer (greeting once) with currentStep := some "ask" }

/-- A contact has been greeted, and is being asked. -/
def parlour (once : Bool) : World :=
  { table := ⟨[((greeted once).key, greeted once)]⟩, catalogue := Catalogue.ofLists [greeting once] [], nextSession := 2 }

def hi : Event := { address := "+5215512345678", text := "Hi again" }

theorem hi_named : Phone.normalize hi.address = hi.address := by decide +kernel

theorem hi_admitted (w : World) : Admitted (aloneAt ⟨5, 0⟩) hi w hi (held (aloneAt ⟨5, 0⟩) hi.address w) :=
  ⟨by rw [hi_named], by decide, w, rfl, rfl⟩

theorem greeting_starts_anew :
    ∃ u prior after, Interrupts (aloneAt ⟨5, 0⟩) hi (held (aloneAt ⟨5, 0⟩) hi.address (parlour false)) [greeting false] u ∧
      priorFlows (aloneAt ⟨5, 0⟩) hi.address [greeting false] u = (.ok prior, after) ∧
      ∃ o, (handleEvent (aloneAt ⟨5, 0⟩) hi (parlour false)).1 = .ok o ∧ o.status = .started ∧ o.sessionIds ≠ [] := by
  have interrupts := @Interrupts.intro (aloneAt ⟨5, 0⟩) hi (held (aloneAt ⟨5, 0⟩) hi.address (parlour false))
    [greeting false] _ _ _ (greeted false) _ rfl (by decide +kernel) rfl rfl rfl (by decide +kernel) rfl
  have status : (handleEvent (aloneAt ⟨5, 0⟩) hi (parlour false)).1.toOption.map Outcome.status = some .started := by
    decide +kernel
  obtain ⟨_, matched, _, starts⟩ := interruption_starts_flow_unless_all_barred (hi_admitted _) interrupts rfl
  refine ⟨_, _, _, interrupts, rfl, (starts (matched.mp ?_)).resolve_right ?_⟩
  · rw [← List.length_pos_iff]
    decide +kernel
  · rintro ⟨_, _, _, _, _, _, fault, _, _, _, _, failed⟩
    rw [failed] at status
    cases conflict : isConflict fault <;> simp [concluded, conflict, Except.toOption] at status

/-- Where the flow is for once per contact, the greeting ends the conversation and starts nothing. -/
theorem barred_greeting_only_interrupts :
    ∃ u, Interrupts (aloneAt ⟨5, 0⟩) hi (held (aloneAt ⟨5, 0⟩) hi.address (parlour true)) [greeting true] u ∧
      (parlour true).table.sessions.map Session.isActive = [true] ∧ u.table.sessions.map Session.isActive = [false] ∧
      (handleEvent (aloneAt ⟨5, 0⟩) hi (parlour true)).1.toOption = some ⟨.noMatch, [], []⟩ := by
  refine ⟨_, @Interrupts.intro (aloneAt ⟨5, 0⟩) hi (held (aloneAt ⟨5, 0⟩) hi.address (parlour true)) [greeting true] _ _ _
    (greeted true) _ rfl (by decide +kernel) rfl rfl rfl (by decide +kernel) rfl, ?_⟩
  decide +kernel

end Chatflow.Proofs.Interruptions
