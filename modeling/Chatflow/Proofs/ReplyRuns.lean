import Chatflow.Conversation.Continue
import Chatflow.Proofs.ParkedSessions
import Chatflow.Proofs.WorkLogic

/-! The runs that replies lead to: what they are computed from, and what may be said of them before they are
saved. -/

namespace Chatflow.Proofs.ReplyRuns
open Conversation Interpreter StepEffects RunEndings ParkedSessions WorkLogic

variable {setup : Setup} {f : Flow} {s : Session} {e : Event} {r : RunResult}

theorem running_aside {α : Type} (run : List Float → Except Fault α × List Float) : Aside (running run) :=
  fun _ => ⟨rfl, rfl, rfl, rfl⟩

theorem runReply_aside (f : Flow) (s : Session) (e : Event) : Aside (runReply setup f s e) := by
  unfold runReply
  refine (Aside.check _).bind fun resolution => ?_
  split
  · exact .pure _
  · exact (Aside.check _).bind fun _ => (Aside.check _).bind fun _ => (running_aside _).bind fun r => .pure _

theorem running_ok {α : Type} {run : List Float → Except Fault α × List Float} {w : World} {a : α}
    (ran : (running run w).1 = .ok a) : ∃ rolls rest, run rolls = (.ok a, rest) :=
  ⟨w.rolls, (run w.rolls).2, Prod.ext ran rfl⟩

/-- A run that takes a session on from a step to where the reply leads there. -/
def Answers (f : Flow) (s : Session) (e : Event) (step : Option String) (r : RunResult) : Prop :=
  ∃ resolution options now rolls rest, Reply.resolve f step e.reply = .ok resolution ∧
    resolution.matchedBy ≠ .noMatch ∧
    continueFromReply f options now s rolls step (.str e.answer) resolution.next resolution.optionId = (.ok r, rest)

theorem runReply_answers {w : World} (ran : (runReply setup f s e w).1 = .ok (some r)) :
    Answers f s e s.currentStep r := by
  have done : runReply setup f s e w = (.ok (some r), (runReply setup f s e w).2) := Prod.ext ran rfl
  unfold runReply at done
  obtain ⟨resolution, middle, resolved, done⟩ := bind_ok done
  have resolves : Reply.resolve f s.currentStep e.reply = .ok resolution := congrArg Prod.fst resolved
  split at done
  · cases done
  next matched =>
    obtain ⟨options, middle, _, done⟩ := bind_ok done
    obtain ⟨now, middle, _, done⟩ := bind_ok done
    obtain ⟨result, middle, ran, done⟩ := bind_ok done
    cases done
    obtain ⟨rolls, rest, ran⟩ := running_ok (congrArg Prod.fst ran)
    exact ⟨resolution, options, now, rolls, rest, resolves, matched, ran⟩

theorem Answers.sameConversation {step : Option String} (answers : Answers f s e step r) :
    SameConversation s r.session := by
  obtain ⟨resolution, options, now, rolls, rest, _, _, ran⟩ := answers
  have same := run_sameConversation ran
  exact ⟨same.id, same.address, same.flowId, same.deviceId, same.createdAt, same.loose⟩

end Chatflow.Proofs.ReplyRuns
