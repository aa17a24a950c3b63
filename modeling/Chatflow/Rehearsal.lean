import Chatflow.Interpreter
import Chatflow.Reply

/-! Rehearsals of a flow: cues lead a session through it, and nothing is stored or sent. What a cue names may be
any value. A value that is no text is the id of no step and of no option; as an answer it is recorded as it is. -/

namespace Chatflow

inductive Cue where
  /-- The flow runs from a step. -/
  | run (place : Value)
  /-- The flow runs from where the session is to go on once its wait is over. -/
  | resume
  /-- An answer to a question is recorded, and the flow runs from where it leads. -/
  | answer (step answer next option : Value)
  /-- The contact replies, and the reply is resolved first. -/
  | reply (reply : Value)
deriving Repr

namespace Cue

def ofFields (fields : Fields) : Cue :=
  let part (name : String) : Value := (fields.get? name).getD .null
  match (part "do").str? with
  | some "run" => .run (part "from")
  | some "resume" => .resume
  | some "answer" => .answer (part "step") (part "reply") (part "next") (part "option_id")
  | _ => .reply (part "reply")

end Cue

/-- What a cue comes to: how a reply was resolved, and the run if there was one. -/
structure Take where
  resolution : Option Resolution := none
  run : Option (Except Fault Interpreter.RunResult) := none
deriving Repr

/-- The session of a rehearsal, and the lots that are going to be drawn. -/
structure Rehearsal where
  session : Session
  rolls : List Float := []
deriving Repr

namespace Rehearsal

/-- A flow and the place that a value names in it. For a value that is no text it is as if there were no steps. -/
def placeIn (f : Flow) : Value → Flow × Option String
  | .null => (f, none)
  | .str id => (f, some id)
  | _ => ({ f with steps := [] }, some "")

/-- A rehearsal after a run. The session is the new one only if the run did not fail. -/
def after (r : Rehearsal) (resolution : Option Resolution) (run : Except Fault Interpreter.RunResult × List Float) :
    Take × Rehearsal :=
  let session := match run.1 with
    | .ok result => result.session
    | .error _ => r.session
  (⟨resolution, some run.1⟩, ⟨session, run.2⟩)

/-- Records an answer and runs on. -/
def goOn (r : Rehearsal) (f : Flow) (options : RunOptions) (now : Instant) (step : Option String) (answer next : Value)
    (option : Option String) : Except Fault Interpreter.RunResult × List Float :=
  let (f', place) := placeIn f next
  let answer := Interpreter.answerAt f step answer option
  Interpreter.run f' options now
    { r.session with vars := Interpreter.recordAnswer f step answer r.session.vars } r.rolls place

def act (r : Rehearsal) (f : Flow) (options : RunOptions) (now : Instant) : Cue → Take × Rehearsal
  | .run place =>
    let (f, place) := placeIn f place
    r.after none (Interpreter.run f options now r.session r.rolls place)
  | .resume => r.after none (Interpreter.run f options now r.session r.rolls r.session.resumeStep)
  | .answer step answer next option => r.after none (r.goOn f options now step.str? answer next option.str?)
  | .reply reply =>
    match Reply.resolveGiven f r.session.currentStep reply with
    | .error e => r.after none (.error e, r.rolls)
    | .ok resolution =>
      if resolution.matchedBy = .noMatch then (⟨some resolution, none⟩, r)
      else
        r.after (some resolution)
          (Interpreter.continueFromReply f options now r.session r.rolls r.session.currentStep reply resolution.next
            resolution.optionId)

end Rehearsal

end Chatflow
