import Chatflow.Flow.Reachability
import Chatflow.Text.Lower

/-! What is wrong with a flow. Errors make it unusable. Warnings tell of flows that still run: steps that
are never come to, and steps after which a conversation simply ends. -/

namespace Chatflow

inductive Finding where
  | noStartStep
  | multipleStartSteps
  | duplicateStep (id : String)
  | danglingConnection (id source : String)
  | duplicateHandle (handle source : String)
  | invalidConfig (step error : String)
  | noKeywords (step : String)
  | noTag (step : String)
  | noFields (step : String)
  | emptyMessage (step : String)
  | missingMedia (step : String) (kind : MediaKind)
  | emptyQuestion (step : String)
  | noOptions (step : String)
  | unconnectedOption (step option : String)
  | noConditions (step : String)
  | agentRequired (step : String)
  | tooFewBranches (step : String)
  | unreachable (step : String)
  | noOutgoing (step : String)
deriving Repr, DecidableEq

namespace Finding

def code : Finding → String
  | noStartStep => "NO_START_STEP"
  | multipleStartSteps => "MULTIPLE_START_STEPS"
  | duplicateStep _ => "DUPLICATE_STEP_ID"
  | danglingConnection .. => "DANGLING_CONNECTION"
  | duplicateHandle .. => "DUPLICATE_SOURCE_HANDLE"
  | invalidConfig .. => "INVALID_STEP_CONFIG"
  | noKeywords _ => "TRIGGER_WITHOUT_KEYWORDS"
  | noTag _ => "TRIGGER_WITHOUT_TAG"
  | noFields _ => "TRIGGER_WITHOUT_FIELDS"
  | emptyMessage _ => "EMPTY_MESSAGE"
  | missingMedia .. => "MISSING_MEDIA"
  | emptyQuestion _ => "EMPTY_QUESTION"
  | noOptions _ => "NO_OPTIONS"
  | unconnectedOption .. => "OPTION_NO_NEXT_STEP"
  | noConditions _ => "NO_CONDITIONS"
  | agentRequired _ => "AI_AGENT_REQUIRED"
  | tooFewBranches _ => "ROTATOR_TOO_FEW_OPTIONS"
  | unreachable _ => "UNREACHABLE_STEP"
  | noOutgoing _ => "NO_OUTGOING_CONNECTION"

def step? : Finding → Option String
  | noStartStep | multipleStartSteps => none
  | duplicateStep id => some id
  | danglingConnection _ source | duplicateHandle _ source => some source
  | invalidConfig step _ | noKeywords step | noTag step | noFields step | emptyMessage step
  | missingMedia step _ | emptyQuestion step | noOptions step | unconnectedOption step _
  | noConditions step | agentRequired step | tooFewBranches step | unreachable step
  | noOutgoing step => some step

def message : Finding → String
  | noStartStep => "Flow must have a start step"
  | multipleStartSteps => "Flow must have exactly one start step"
  | duplicateStep id => s!"Step id '{id}' is used more than once"
  | danglingConnection id _ => s!"Connection '{id}' references a missing step"
  | duplicateHandle handle _ => s!"Handle '{handle}' is used by more than one connection"
  | invalidConfig _ error => error
  | noKeywords _ => "Message trigger needs at least one keyword unless it matches all messages"
  | noTag _ => "Tag trigger needs a tag"
  | noFields _ => "Third-party trigger needs at least one field"
  | emptyMessage _ => "Text message has no text"
  | missingMedia _ kind => s!"{kind.name} message has no uploaded file"
  | emptyQuestion _ => "Question has no text"
  | noOptions _ => "Choice question needs at least one option"
  | unconnectedOption _ option => s!"Option '{option}' has no next step connected"
  | noConditions _ => "Condition needs at least one rule"
  | agentRequired _ => "AI assignment needs an agent"
  | tooFewBranches _ => "Rotator needs at least 2 options"
  | unreachable step => s!"Step '{step}' is not reachable from start"
  | noOutgoing step => s!"Step '{step}' has no outgoing connection"

def toValue (f : Finding) : Value :=
  .obj [("error_code", .str f.code), ("step_id", .ofText? f.step?), ("message", .str f.message)]

end Finding

structure Validation where
  errors : List Finding
  warnings : List Finding
deriving Repr, DecidableEq

def Validation.isValid (v : Validation) : Bool := v.errors.isEmpty

def Validation.toValue (v : Validation) : Value :=
  .obj [("is_valid", .bool v.isValid), ("errors", .list (v.errors.map Finding.toValue)),
    ("warnings", .list (v.warnings.map Finding.toValue))]

namespace Flow

def triggerErrors (step : String) : Trigger → List Finding
  | .message _ mode keywords => if mode ≠ .all ∧ keywords.isEmpty then [.noKeywords step] else []
  | .tagAdded _ tagId => if isUnfilled tagId then [.noTag step] else []
  | .thirdParty _ fieldNames => if fieldNames.isEmpty then [.noFields step] else []
  | .none => []

def stepErrors (f : Flow) (s : Step) : List Finding :=
  match s.body with
  | .invalid .. | .unknown _ => [.invalidConfig s.id (s.body.error?.getD "")]
  | .start trigger => match trigger with
    | some trigger => triggerErrors s.id trigger
    | none => []
  | .sendMessage c =>
    match c.mediaKind with
    | none => if Text.trim c.text = "" then [.emptyMessage s.id] else []
    | some kind => if c.hasUsableMedia then [] else [.missingMedia s.id kind]
  | .question c => if Text.trim c.text = "" then [.emptyQuestion s.id] else []
  | .choice _ c =>
    (if c.options.isEmpty then [.noOptions s.id] else []) ++
      (c.options.filter fun o => (f.connectionFor? s.id o.id).isNone).map fun o =>
        .unconnectedOption s.id (if o.label = "" then o.id else o.label)
  | .condition c => if c.rules.isEmpty then [.noConditions s.id] else []
  | .assign c => if c.agentKind = .ai ∧ isUnfilled c.agentId then [.agentRequired s.id] else []
  | .rotator c => if c.options.length < 2 then [.tooFewBranches s.id] else []
  | .wait _ | .automation _ | .template _ => []

/-- The step ids that occur more than once, in order. -/
def duplicateIds (f : Flow) : List String :=
  let ids := f.steps.map Step.id
  ((ids.filter fun id => 1 < ids.count id).eraseDups).mergeSort (fun a b => a ≤ b)

/-- The branch a connection belongs to: its source and its handle, if it has one. -/
def branch? (c : Connection) : Option (String × String) :=
  match c.handle with
  | some handle => if handle = "" then none else some (c.source, handle)
  | none => none

/-- What is wrong with the connections, given the branches seen so far. -/
def connectionErrors (f : Flow) : List (String × String) → List Connection → List Finding
  | _, [] => []
  | seen, c :: rest =>
    let dangling : List Finding :=
      if (f.step? c.source).isNone || (f.step? c.target).isNone then [.danglingConnection c.id c.source]
      else []
    match branch? c with
    | none => dangling ++ connectionErrors f seen rest
    | some branch =>
      let doubled : List Finding :=
        if seen.contains branch then [.duplicateHandle branch.2 branch.1] else []
      dangling ++ doubled ++ connectionErrors f (branch :: seen) rest

/-- Whether a branch of the flow may end at a step. -/
def mayEnd (s : Step) : Bool :=
  match s.body.kind? with
  | some .assignConversation | some .startAutomation => true
  | some kind => kind.isChoice
  | none => false

/-- What to warn of at one step. -/
def stepWarnings (f : Flow) (reached : List String) (s : Step) : List Finding :=
  (if reached.contains s.id then [] else [.unreachable s.id]) ++
    if !mayEnd s && (f.outgoing s.id).isEmpty then [.noOutgoing s.id] else []

/-- Looks a flow over. Without a start step nothing else is looked at. -/
def validate (f : Flow) : Validation :=
  match f.steps.filter isStart with
  | [] => ⟨[.noStartStep], []⟩
  | starts =>
    let reached := f.reachable
    ⟨(if starts.length > 1 then [.multipleStartSteps] else []) ++
        f.duplicateIds.map .duplicateStep ++ f.connectionErrors [] f.connections ++
        f.steps.flatMap f.stepErrors,
      f.steps.flatMap (f.stepWarnings reached)⟩

end Flow

end Chatflow
