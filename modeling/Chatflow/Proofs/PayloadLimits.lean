import Chatflow.Proofs.JsonRefusals
import Chatflow.Proofs.WrittenPayloads

/-! Payloads that cannot be read. One that is no JSON is handed to a human as it stands. One that goes past a limit of the
reader breaks off the turn, and with it everything the agent said is lost. -/

namespace Chatflow.Proofs.PayloadLimits
open Text Delegate Handoff OutsideWork AgentTurns AgentConversations HandOffs JsonRefusals WrittenPayloads ResolvedReplies

variable {setup : Setup} {s : Session} {agent : Option Agent} {a : Agent} {message : Value} {history : List Value}
  {result : Except Fault String} {o answered : Outside} {text payload : String}

/-- A payload that goes past a limit of the reader: too many digits, or too many lists and tables in one another. -/
def PastLimits (payload : String) : Prop :=
  ∃ e, Value.ofJson payload = .error e ∧ ∀ cause offset, e ≠ .malformed cause offset

/-- Whether a payload goes past a limit can be seen from its text, but for what stands in it as text. -/
theorem PastLimits.shows (past : PastLimits payload) :
    HasLongNumeral payload.toList ∨ Value.Json.deepest < payload.toList.countP isOpening := by
  obtain ⟨e, refused, other⟩ := past
  have warranted := ofJson_refused refused
  cases e with
  | malformed cause offset => exact absurd rfl (other cause offset)
  | tooManyDigits => exact Or.inl warranted
  | tooDeep => exact Or.inr warranted

end Chatflow.Proofs.PayloadLimits
