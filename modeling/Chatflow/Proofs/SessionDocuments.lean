import Chatflow.Documents.Sessions
import Chatflow.Proofs.WorkLogic

/-! The documents of sessions. A session is read back from its document as it was written, a change of the document is
the change of the session, and a document passes a filter if its session is one that is looked for. -/

namespace Chatflow.Proofs.SessionDocuments
open Documents Documents.Sessions Schema SessionTable WorkLogic

variable {s : Session}

theorem text_read (o : Option String) : Schema.optional text (.ofText? o) = .ok o := by cases o <;> rfl

theorem moment_read (o : Option Instant) : Schema.optional instant (timeValue o) = .ok o := by cases o <;> rfl

theorem status_read (status : SessionStatus) : member SessionStatus.named (.str status.name) = .ok status := by
  cases status <;> rfl

theorem kind_read (kind : AgentKind) : choice AgentKind.named (.str kind.name) = .ok kind := by cases kind <;> rfl

theorem assignee_read (o : Option Assignee) : Schema.optional Assignee.ofValue (assigneeValue o) = .ok o := by
  have one : ∀ a : Assignee, Assignee.ofValue a.toValue = .ok a := by
    intro a
    simp only [Assignee.ofValue, Assignee.toValue, record, required, withDefault, orElse, present?,
      List.findSome?_cons, Fields.get?_cons, String.reduceEq, if_true, if_false, Option.map_some, text_read, kind_read]
    rfl
  cases o with
  | none => rfl
  | some a =>
    change some <$> Assignee.ofValue a.toValue = .ok (some a)
    rw [one]
    rfl

/-- A session of which every field has the value it is meant for is read back from its document. -/
theorem read_toDocument (freshId : String) (now : Except SpanError Instant) (plain : s.loose = []) :
    Session.read freshId now (toDocument s) = .ok s := by
  cases s
  cases plain
  simp only [Session.read, toDocument, withDefault, required, orElse, present?, List.findSome?_cons, Fields.get?_cons,
    String.reduceEq, if_true, if_false, Option.map_some, text_read, moment_read, status_read, assignee_read]
  rfl

theorem ofDocument_toDocument (setup : Setup) (plain : s.loose = []) (w : World) :
    ofDocument setup (toDocument s) w = (.ok (some s), w) := by
  have known : Fields.has (toDocument s) "session_id" = true := rfl
  have read : (Session.read "" setup.now.toUtc (toDocument s)).toExcept = .ok s := by
    rw [read_toDocument _ _ plain]
    rfl
  have filled : List.isEmpty (toDocument s) = false := rfl
  simp only [ofDocument, filled, known, Bool.false_eq_true, if_false, if_true, bind_apply, pure_apply, Work.check, read]

theorem merge_append (fields first rest : Fields) : fields.merge (first ++ rest) = (fields.merge first).merge rest :=
  List.foldl_append

theorem merge_nil (fields : Fields) : fields.merge [] = fields := rfl

/-- To set the fields of a change is to change the session. -/
theorem merge_changedFields (now : Instant) {c : Change} (typed : c.loose = []) :
    Fields.merge (toDocument s) (changedFields now c) = toDocument (c.apply now s) := by
  have always : Fields.merge (toDocument s) [("current_step_id", .ofText? c.step), ("variables", .obj c.vars),
      ("status", .str c.status.name), ("updated_at", .time now)] =
        toDocument { s with currentStep := c.step, vars := c.vars, status := c.status, updatedAt := now } := rfl
  have assignee : ∀ s, Fields.merge (toDocument s) (changedField "assignee" c.assignee assigneeValue) =
      toDocument { s with assignee := c.assignee.getD s.assignee } := by
    intro s
    cases c.assignee <;> rfl
  have aiTurns : ∀ s, Fields.merge (toDocument s) (changedField "ai_turn_count" c.aiTurns .int) =
      toDocument { s with aiTurns := c.aiTurns.getD s.aiTurns } := by
    intro s
    cases c.aiTurns <;> rfl
  have resumeAt : ∀ s, Fields.merge (toDocument s) (changedField "resume_at" c.resumeAt timeValue) =
      toDocument { s with resumeAt := c.resumeAt.getD s.resumeAt } := by
    intro s
    cases c.resumeAt <;> rfl
  have resumeStep : ∀ s, Fields.merge (toDocument s) (changedField "resume_step_id" c.resumeStep .ofText?) =
      toDocument { s with resumeStep := c.resumeStep.getD s.resumeStep } := by
    intro s
    cases c.resumeStep <;> rfl
  have diagnostic : ∀ s, Fields.merge (toDocument s) (changedField "diagnostic" c.diagnostic .ofText?) =
      toDocument { s with diagnostic := c.diagnostic.getD s.diagnostic } := by
    intro s
    cases c.diagnostic <;> rfl
  have deviceId : ∀ s, Fields.merge (toDocument s) (changedField "device_id" c.deviceId .ofText?) =
      toDocument { s with deviceId := c.deviceId.getD s.deviceId } := by
    intro s
    cases c.deviceId <;> rfl
  rw [changedFields, typed, merge_nil]
  simp only [merge_append]
  rw [always, assignee, aiTurns, resumeAt, resumeStep, diagnostic, deviceId]
  rfl

/-- To set the fields that end a conversation is to end it. -/
theorem merge_ending (now : Instant) :
    Fields.merge (toDocument s) [("status", .str SessionStatus.completed.name), ("current_step_id", .null),
      ("assignee", .null), ("resume_at", .null), ("resume_step_id", .null), ("updated_at", .time now)] =
        toDocument (s.abandon now) := rfl

theorem passes_cons {document : Fields} {name : String} {test : Test} {rest : Filter} {one others : Bool}
    (first : test.passes (fieldOf document name) = .ok one) (last : Filter.passes document rest = .ok others) :
    Filter.passes document ((name, test) :: rest) = .ok (one && others) := by
  rw [Filter.passes, first]
  cases one
  · rfl
  · exact last

theorem same_ofText? (a b : Option String) : (Value.ofText? a).same (.ofText? b) = (a == b) := by
  cases a <;> cases b <;> rfl

theorem same_status (a b : SessionStatus) : (Value.str a.name).same (.str b.name) = (a == b) := by
  cases a <;> cases b <;> rfl

theorem passes_isOpen {rest : Filter} {others : Bool} (last : Filter.passes (toDocument s) rest = .ok others) :
    Filter.passes (toDocument s) (isOpen :: rest) = .ok (s.status == .active && others) :=
  passes_cons (congrArg Except.ok (same_status s.status .active)) last

theorem passes_ofContact {address : String} {rest : Filter} {others : Bool}
    (last : Filter.passes (toDocument s) rest = .ok others) :
    Filter.passes (toDocument s) (ofContact (.str address) ++ rest) = .ok (s.address == address && others) :=
  passes_cons rfl last

theorem passes_ofKey (key : SessionKey) :
    Filter.passes (toDocument s) (ofKey (.str key.address) (.str key.flowId)) = .ok (s.key == key) := by
  have same : (s.address == key.address && (s.flowId == key.flowId && true)) = (s.key == key) := by
    cases key
    rw [Bool.eq_iff_iff]
    simp only [Session.key, Bool.and_true, Bool.and_eq_true, beq_iff_eq, SessionKey.mk.injEq]
  rw [← same]
  exact passes_ofContact (passes_cons rfl rfl)

theorem passes_ofId (id : String) : Filter.passes (toDocument s) (ofId (.str id)) = .ok (s.id == id) := by
  rw [← Bool.and_true (s.id == id)]
  exact passes_cons rfl rfl

/-- What a swap looks for: the session of an id, provided that it stands at a step. -/
theorem passes_standing (id : String) (expected : Option String) :
    Filter.passes (toDocument s) (ofId (.str id) ++ [("current_step_id", .equals (.ofText? expected))]) =
      .ok (s.id == id && s.currentStep == expected) := by
  rw [← Bool.and_true (s.currentStep == expected), ← same_ofText?]
  exact passes_cons rfl (passes_cons rfl rfl)

theorem passes_active (address : String) :
    Filter.passes (toDocument s) (ofContact (.str address) ++ [isOpen, ("current_step_id", .differs .null)]) =
      .ok (s.address == address && s.isActive) := by
  have standing : (!(Value.ofText? s.currentStep).same .null) = s.currentStep.isSome := by
    cases s.currentStep <;> rfl
  rw [Session.isActive, ← Bool.and_true s.currentStep.isSome, ← standing]
  exact passes_ofContact (passes_isOpen (passes_cons rfl rfl))

theorem passes_due (now : Instant) :
    Filter.passes (toDocument s) [isOpen, ("resume_at", .reached now)] = .ok (isDue now s) := by
  have reached : Filter.passes (toDocument s) [("resume_at", .reached now)] =
      .ok (s.resumeAt.any fun t => t.micros ≤ now.micros) := by
    rw [← Bool.and_true (s.resumeAt.any _)]
    apply passes_cons _ rfl
    change Test.passes (timeValue s.resumeAt) (.reached now) = _
    cases s.resumeAt <;> rfl
  rw [passes_isOpen reached, isDue, dueTime?]
  cases s.status <;> cases s.resumeAt <;> rfl

end Chatflow.Proofs.SessionDocuments
