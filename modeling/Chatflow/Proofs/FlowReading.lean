import Chatflow.Flow.Loading

/-! The reading of flows. Whatever is wrong with a document is found and told as an issue of it, with one exception:
keywords of a trigger that have no members break the reading off. -/

namespace Chatflow.Proofs.FlowReading
open Schema

variable {α β : Type}

/-- Why a check stopped before it had seen everything, if it did. -/
def halt? : Check α → Option Halt
  | .broken halt => some halt
  | _ => none

@[simp] theorem halt?_ok (a : α) : halt? (.ok a) = none := rfl

@[simp] theorem halt?_failed (issues : List Issue) : halt? (.failed issues : Check α) = none := rfl

@[simp] theorem halt?_problem (p : Problem) : halt? (.problem p : Check α) = none := rfl

@[simp] theorem halt?_map (f : α → β) (check : Check α) : halt? (f <$> check) = halt? check := by
  cases check <;> rfl

@[simp] theorem halt?_seq (f : Check (α → β)) (check : Check α) : halt? (f <*> check) = (halt? f).or (halt? check) := by
  cases f <;> cases check <;> rfl

@[simp] theorem halt?_at (step : PathStep) (check : Check α) : halt? (check.at' step) = halt? check := by
  cases check <;> rfl

theorem halt?_andThen (check : Check α) (next : α → Check β) :
    halt? (check.andThen next) = (halt? check).or (check.toOption.bind fun a => halt? (next a)) := by
  cases check <;> rfl

/-- A reader that sees everything, whatever it reads. -/
def Thorough (reader : Reader α) : Prop := ∀ v, halt? (reader v) = none

theorem halt?_required (fields : Fields) (names : List String) (reader : Reader α) :
    halt? (required fields names reader) = (present? fields names).bind fun found => halt? (reader found.2) := by
  unfold required
  cases present? fields names with
  | none => rfl
  | some found => exact halt?_at _ _

theorem halt?_withDefault (fields : Fields) (names : List String) (fallback : α) (reader : Reader α) :
    halt? (withDefault fields names fallback reader) =
      (present? fields names).bind fun found => halt? (reader found.2) := by
  unfold withDefault orElse
  cases present? fields names with
  | none => rfl
  | some found => exact halt?_at _ _

@[simp] theorem Thorough.required {reader : Reader α} (thorough : Thorough reader) (fields : Fields)
    (names : List String) : halt? (Schema.required fields names reader) = none := by
  rw [halt?_required]
  cases present? fields names with
  | none => rfl
  | some found => exact thorough _

@[simp] theorem Thorough.withDefault {reader : Reader α} (thorough : Thorough reader) (fields : Fields)
    (names : List String) (fallback : α) : halt? (Schema.withDefault fields names fallback reader) = none := by
  rw [halt?_withDefault]
  cases present? fields names with
  | none => rfl
  | some found => exact thorough _

theorem lookInto_thorough {read : String → Check α} (thorough : ∀ s, halt? (read s) = none) (s : String) :
    halt? (lookInto s read) = none := by
  unfold lookInto
  split
  · rfl
  · exact thorough s

@[simp] theorem text_thorough : Thorough text := by
  intro v
  cases v <;> rfl

@[simp] theorem table_thorough : Thorough table := by
  intro v
  cases v <;> rfl

theorem oneOf_thorough (choices : List (String × α)) (other : Problem) : Thorough (oneOf choices other) := by
  intro v
  cases v with
  | str s =>
    simp only [oneOf]
    refine lookInto_thorough (fun s => ?_) s
    cases choices.find? fun c => c.1 == s <;> rfl
  | _ => rfl

@[simp] theorem choice_thorough (choices : List (String × α)) : Thorough (choice choices) := oneOf_thorough choices _

theorem flagOfNumber_thorough (n : Int) : halt? (flagOfNumber n) = none := by
  unfold flagOfNumber
  split
  · rfl
  · split <;> rfl

@[simp] theorem flag_thorough : Thorough flag := by
  intro v
  cases v with
  | int n =>
    simp only [flag]
    split
    · exact flagOfNumber_thorough n
    · rfl
  | float x =>
    simp only [flag]
    split
    · exact flagOfNumber_thorough _
    · rfl
  | str s =>
    simp only [flag]
    refine lookInto_thorough (fun s => ?_) s
    cases flagOfText? s <;> rfl
  | _ => rfl

@[simp] theorem number_thorough : Thorough number := by
  intro v
  cases v with
  | int n =>
    simp only [number]
    split <;> rfl
  | str s =>
    simp only [number]
    refine lookInto_thorough (fun s => ?_) s
    split <;> rfl
  | _ => rfl

@[simp] theorem positive_thorough : Thorough positive := by
  intro v
  unfold positive
  rw [halt?_andThen, number_thorough v]
  cases (number v).toOption with
  | none => rfl
  | some x =>
    simp only [Option.bind_some, Option.none_or]
    split <;> rfl

theorem whole_thorough : Thorough whole := by
  intro v
  cases v with
  | float x =>
    simp only [whole]
    split
    · rfl
    · split
      · split <;> rfl
      · rfl
  | str s =>
    simp only [whole]
    refine lookInto_thorough (fun s => ?_) s
    split <;> rfl
  | _ => rfl

@[simp] theorem wholeWithin_thorough (low high : Option Int) : Thorough (wholeWithin low high) := by
  intro v
  unfold wholeWithin
  rw [halt?_andThen, whole_thorough v]
  cases (whole v).toOption with
  | none => rfl
  | some n =>
    simp only [Option.bind_some, Option.none_or]
    split
    · split
      · rfl
      · split <;> rfl
    · split <;> rfl
    · split <;> rfl
    · rfl

@[simp] theorem Thorough.optional {reader : Reader α} (thorough : Thorough reader) :
    Thorough (Schema.optional reader) := by
  intro v
  cases v with
  | null => rfl
  | _ => exact (halt?_map _ _).trans (thorough _)

theorem halt?_itemsFrom (reader : Reader α) (n : Nat) (items : List Value) :
    halt? (itemsFrom reader n items) = items.findSome? fun v => halt? (reader v) := by
  induction items generalizing n with
  | nil => rfl
  | cons v rest ih =>
    rw [itemsFrom, halt?_seq, halt?_map, halt?_at, ih, List.findSome?_cons]
    cases halt? (reader v) <;> rfl

@[simp] theorem Thorough.list {reader : Reader α} (thorough : Thorough reader) : Thorough (Schema.list reader) := by
  intro v
  cases v with
  | list items =>
    simp only [Schema.list]
    rw [halt?_itemsFrom, List.findSome?_eq_none_iff]
    exact fun item _ => thorough item
  | _ => rfl

theorem record_thorough {name : String} {reader : Fields → Check α} (thorough : ∀ fields, halt? (reader fields) = none) :
    Thorough (record name reader) := by
  intro v
  cases v with
  | obj fields => exact thorough fields
  | _ => rfl

/-! What the steps are set to do is read thoroughly, triggers apart. -/

@[simp] theorem message_thorough (fields : Fields) : halt? (MessageConfig.read fields) = none := by
  simp [MessageConfig.read]

@[simp] theorem question_thorough (fields : Fields) : halt? (QuestionConfig.read fields) = none := by
  simp [QuestionConfig.read]

@[simp] theorem choiceOption_thorough : Thorough ChoiceOption.ofValue :=
  record_thorough fun fields => by simp

@[simp] theorem choices_thorough (fields : Fields) : halt? (ChoiceConfig.read fields) = none := by
  simp [ChoiceConfig.read]

@[simp] theorem wait_thorough (fields : Fields) : halt? (WaitConfig.read fields) = none := by
  have given : Thorough fun v => some <$> positive v := fun v => (halt?_map _ _).trans (positive_thorough v)
  simp [WaitConfig.read, given]

@[simp] theorem conditionRule_thorough : Thorough ConditionRule.ofValue :=
  record_thorough fun fields => by simp

@[simp] theorem condition_thorough (fields : Fields) : halt? (ConditionConfig.read fields) = none := by
  simp [ConditionConfig.read]

@[simp] theorem assign_thorough (fields : Fields) : halt? (AssignConfig.read fields) = none := by
  simp [AssignConfig.read]

@[simp] theorem rotatorOption_thorough : Thorough RotatorOption.ofValue :=
  record_thorough fun fields => by simp

@[simp] theorem rotator_thorough (fields : Fields) : halt? (RotatorConfig.read fields) = none := by
  simp [RotatorConfig.read]

@[simp] theorem template_thorough (fields : Fields) : halt? (TemplateConfig.read fields) = none := by
  simp [TemplateConfig.read]

@[simp] theorem automation_thorough (fields : Fields) : halt? (readAutomation fields) = none := by
  simp [readAutomation]

@[simp] theorem connection_thorough : Thorough Connection.ofValue :=
  record_thorough fun fields => by simp

@[simp] theorem device_thorough : Thorough Trigger.device := by
  intro v
  unfold Trigger.device
  split
  · exact text_thorough.optional v
  · rfl

@[simp] theorem scope_thorough (fields : Fields) : halt? (Trigger.readScope fields) = none := by
  simp [Trigger.readScope]

/-! Keywords. -/

/-- A value that has no members and is not simply absent: a number, a flag or a moment. -/
def bare? : Value → Option Value
  | .null | .str _ | .list _ | .obj _ => none
  | v => some v

/-- The bare value that stands in place of the keywords of a trigger. -/
def bareKeywords? : Value → Option Value
  | .obj fields =>
    if (Fields.get? fields "type").bind Value.str? = some "message_received" then
      (Fields.get? fields "keywords").bind bare?
    else none
  | _ => none

theorem keywords_halt (v : Value) : halt? (Trigger.keywords v) = (bare? v).map .noMembers := by
  cases v <;> rfl

theorem present?_single (fields : Fields) (name : String) :
    present? fields [name] = (fields.get? name).map fun v => (name, v) := by
  simp only [present?, List.findSome?_cons, List.findSome?_nil]
  cases fields.get? name <;> rfl

theorem tagged_halt (kinds : List (String × (Fields → Check α))) (fields : Fields) :
    halt? (tagged kinds (.obj fields)) =
      (((Fields.get? fields "type").bind Value.str?).bind fun name => kinds.find? fun kind => kind.1 == name).bind
        fun kind => halt? (kind.2 fields) := by
  simp only [tagged]
  cases Fields.get? fields "type" with
  | none => rfl
  | some tag =>
    simp only [Option.bind_some]
    cases tag.str?.bind fun name => kinds.find? fun kind => kind.1 == name with
    | none => rfl
    | some kind => exact halt?_at _ _

theorem trigger_halt (v : Value) : halt? (Trigger.ofValue v) = (bareKeywords? v).map .noMembers := by
  cases v with
  | obj fields =>
    simp only [Trigger.ofValue, tagged_halt, bareKeywords?]
    cases (Fields.get? fields "type").bind Value.str? with
    | none => rfl
    | some name =>
      by_cases message : name = "message_received"
      · subst message
        simp [halt?_withDefault, present?_single, keywords_halt]
        cases Fields.get? fields "keywords" <;> rfl
      · have other : ("message_received" == name) = false := beq_false_of_ne (Ne.symm message)
        simp only [Option.bind_some, List.find?_cons, List.find?_nil, other, Option.some.injEq, message, if_false]
        cases "none" == name <;> cases "tag_added" == name <;> cases "third_party" == name <;> simp
  | _ => rfl

/-- The bare keywords in the settings of a start step. -/
def startKeywords? (fields : Fields) : Option Value := (fields.get? "trigger").bind bareKeywords?

/-- An optional value is read like one that has to be there, unless it is null. -/
theorem optional_halt {reader : Reader α} {bad? : Value → Option Halt} (absent : bad? .null = none)
    (halts : ∀ v, halt? (reader v) = bad? v) (v : Value) : halt? (Schema.optional reader v) = bad? v := by
  cases v with
  | null => exact absent.symm
  | _ => exact (halt?_map _ _).trans (halts _)

theorem start_halt (fields : Fields) : halt? (readStart fields) = (startKeywords? fields).map .noMembers := by
  simp only [readStart, halt?_withDefault, present?_single, startKeywords?]
  cases fields.get? "trigger" with
  | none => rfl
  | some v => exact optional_halt rfl trigger_halt v

theorem kind_halt (kind : StepKind) (fields : Fields) : halt? (StepBody.readKind kind fields) =
    if kind = .start then (startKeywords? fields).map .noMembers else none := by
  cases kind <;> simp [StepBody.readKind, start_halt]

theorem body_halt (name : String) (fields : Fields) : halt? (StepBody.read name fields) =
    if name = "start" then (startKeywords? fields).map .noMembers else none := by
  have start : StepKind.ofName? "start" = some .start := by decide
  unfold StepBody.read
  cases found : StepKind.ofName? name with
  | none =>
    have other : name ≠ "start" := by
      rintro rfl
      rw [start] at found
      cases found
    rw [if_neg other]
    rfl
  | some kind =>
    have same : name = "start" ↔ kind = .start := by
      constructor
      · rintro rfl
        exact (Option.some.inj (start.symm.trans found)).symm
      · rintro rfl
        unfold StepKind.ofName? at found
        have named := List.find?_some found
        exact (beq_iff_eq.mp named).symm
    simp only [same, ← kind_halt]
    cases StepBody.readKind kind fields <;> rfl

/-! Steps and flows. -/

theorem record_halt (name : String) (reader : Fields → Check α) (v : Value) :
    halt? (record name reader v) = v.fields?.bind fun fields => halt? (reader fields) := by
  cases v <;> rfl

theorem checkStored_thorough {forms : List (String × (Fields → Check Unit))}
    (thorough : ∀ form ∈ forms, ∀ fields, halt? (form.2 fields) = none) (v : Value) (issues : List Issue) :
    halt? (Step.checkStored v forms issues) = none := by
  induction forms generalizing issues with
  | nil => rfl
  | cons form rest ih =>
    obtain ⟨name, reader⟩ := form
    have read : halt? ((record name reader v).at' (.field name)) = none :=
      (halt?_at _ _).trans (record_thorough (thorough _ List.mem_cons_self) v)
    unfold Step.checkStored
    cases checked : (record name reader v).at' (.field name) with
    | ok => rfl
    | failed more => exact ih (fun form member => thorough form (List.mem_cons_of_mem _ member)) _
    | broken halt =>
      rw [checked] at read
      cases read

/-- Only the first form, that of a start step, may break off. -/
theorem stored_halt (v : Value) : halt? (Step.checkStored v Step.storedForms []) =
    (v.fields?.bind startKeywords?).map .noMembers := by
  have first : halt? ((record "StartConfig" (fun fields => (fun _ => ()) <$> readStart fields) v).at'
      (.field "StartConfig")) = (v.fields?.bind startKeywords?).map .noMembers := by
    rw [halt?_at, record_halt]
    cases v.fields? with
    | none => rfl
    | some fields => exact (halt?_map _ _).trans (start_halt fields)
  have others : ∀ form ∈ Step.storedForms.tail, ∀ fields, halt? (form.2 fields) = none := by
    simp [Step.storedForms]
  rw [← first, Step.storedForms, Step.checkStored]
  cases (record "StartConfig" (fun fields => (fun _ => ()) <$> readStart fields) v).at' (.field "StartConfig") with
  | ok => rfl
  | failed more => exact checkStored_thorough others v _
  | broken halt => rfl

theorem toOption_map (f : α → β) (check : Check α) : (f <$> check).toOption = check.toOption.map f := by
  cases check <;> rfl

theorem toOption_seq (f : Check (α → β)) (check : Check α) :
    (f <*> check).toOption = f.toOption.bind fun g => check.toOption.map g := by
  cases f <;> cases check <;> rfl

theorem toOption_at (step : PathStep) (check : Check α) : (check.at' step).toOption = check.toOption := by
  cases check <;> rfl

theorem required_text (fields : Fields) (name : String) :
    (required fields [name] text).toOption = (fields.get? name).bind Value.str? := by
  unfold required
  rw [present?_single]
  cases fields.get? name with
  | none => rfl
  | some v =>
    refine (toOption_at _ _).trans ?_
    cases v <;> rfl

theorem withDefault_table (fields : Fields) (name : String) :
    (withDefault fields [name] [] table).toOption = ((fields.get? name).getD (.obj [])).fields? := by
  unfold withDefault orElse
  rw [present?_single]
  cases fields.get? name with
  | none => rfl
  | some v =>
    refine (toOption_at _ _).trans ?_
    cases v <;> rfl

/-- Whether a step can be read apart from its kind and its settings. -/
def framed (fields : Fields) : Bool :=
  (required fields ["id"] text).toOption.isSome &&
    (withDefault fields ["parsed"] none
      (Schema.optional fun v => Step.checkStored v Step.storedForms [])).toOption.isSome &&
    (withDefault fields ["config_error"] none (Schema.optional text)).toOption.isSome

/-- The bare keywords in a step: among settings in read form, or, in a start step that is well-formed otherwise, among
its settings. -/
def stepKeywords? : Value → Option Value
  | .obj fields =>
    (((Fields.get? fields "parsed").bind Value.fields?).bind startKeywords?).or <|
      if framed fields && (Fields.get? fields "type").bind Value.str? == some "start" then
        ((Fields.get? fields "config").getD (.obj [])).fields?.bind startKeywords?
      else none
  | _ => none

theorem step_halt (v : Value) : halt? (Step.ofValue v) = (stepKeywords? v).map .noMembers := by
  cases v with
  | obj fields =>
    have stored : halt? (withDefault fields ["parsed"] none
        (Schema.optional fun v => Step.checkStored v Step.storedForms [])) =
          (((Fields.get? fields "parsed").bind Value.fields?).bind startKeywords?).map .noMembers := by
      rw [halt?_withDefault, present?_single]
      cases Fields.get? fields "parsed" with
      | none => rfl
      | some v => exact @optional_halt Unit _ (fun v => (v.fields?.bind startKeywords?).map .noMembers) rfl stored_halt v
    simp only [Step.ofValue, record, halt?_andThen, halt?_seq, halt?_map, toOption_seq, toOption_map, required_text,
      withDefault_table, text_thorough.required, table_thorough.withDefault, text_thorough.optional.withDefault,
      stepKeywords?, framed, stored, body_halt, Option.none_or, Option.or_none, Option.map_or]
    congr 1
    -- A part that cannot be read leaves no settings to be read.
    cases (Fields.get? fields "id").bind Value.str? <;> cases (Fields.get? fields "type").bind Value.str? <;>
      cases ((Fields.get? fields "config").getD (.obj [])).fields? <;>
      cases (withDefault fields ["parsed"] none
        (Schema.optional fun v => Step.checkStored v Step.storedForms [])).toOption <;>
      cases (withDefault fields ["config_error"] none (Schema.optional text)).toOption <;> simp
    split <;> rfl
  | _ => rfl

/-- The first bare keywords in the steps of a flow. -/
def flowKeywords? : Value → Option Value
  | .obj fields =>
    match Fields.get? fields "steps" with
    | some (.list items) => items.findSome? stepKeywords?
    | _ => none
  | _ => none

/-- The reading of a flow breaks off exactly at bare keywords, whatever else is in the document. -/
theorem flow_halt (v : Value) : halt? (Flow.ofValue v) = (flowKeywords? v).map .noMembers := by
  cases v with
  | obj fields =>
    simp only [Flow.ofValue, record, halt?_seq, halt?_map, text_thorough.required, text_thorough.withDefault,
      flag_thorough.withDefault, connection_thorough.list.withDefault, Option.none_or, Option.or_none, flowKeywords?]
    rw [halt?_withDefault, present?_single]
    cases Fields.get? fields "steps" with
    | none => rfl
    | some v =>
      cases v with
      | list items =>
        simp only [Option.map_some, Option.bind_some, Schema.list, halt?_itemsFrom, step_halt, List.map_findSome?]
        rfl
      | _ => rfl
  | _ => rfl

/-- The flow in a document, if the document can be read and nothing is wrong with the flow. -/
def wellFormed? (v : Value) : Option Flow := (Flow.ofValue v).toOption.filter fun f => f.validate.isValid

/-- What comes of a document of a flow. -/
inductive Reads (v : Value) : Prop
  | broken {keywords : Value} : flowKeywords? v = some keywords → wellFormed? v = none →
      Flow.ofDocument v = .error (.noMembers keywords) → Reads v
  | kept {f : Flow} : flowKeywords? v = none → wellFormed? v = some f → Flow.ofDocument v = .ok f → Reads v
  | malformed {issues : List Issue} : flowKeywords? v = none → wellFormed? v = none →
      Flow.ofDocument v = .error (.invalidDocument issues) → Reads v
  | refused {id : String} {messages : List String} : flowKeywords? v = none → wellFormed? v = none →
      Flow.ofDocument v = .error (.flowInvalid id messages) → Reads v

theorem reads (v : Value) : Reads v := by
  have halts := flow_halt v
  cases read : Flow.ofValue v with
  | broken halt =>
    rw [read] at halts
    cases bare : flowKeywords? v with
    | none =>
      rw [bare] at halts
      cases halts
    | some keywords =>
      rw [bare] at halts
      cases halts
      exact .broken bare (by simp only [wellFormed?, read]; rfl) (by simp only [Flow.ofDocument, read]; rfl)
  | failed issues =>
    rw [read] at halts
    have unbroken : flowKeywords? v = none := Option.map_eq_none_iff.mp halts.symm
    exact .malformed unbroken (by simp only [wellFormed?, read]; rfl) (by simp only [Flow.ofDocument, read]; rfl)
  | ok f =>
    rw [read] at halts
    have unbroken : flowKeywords? v = none := Option.map_eq_none_iff.mp halts.symm
    cases valid : f.validate.isValid with
    | true =>
      exact .kept (f := f) unbroken (by simp [wellFormed?, read, Check.toOption, valid])
        (by simp [Flow.ofDocument, read, Check.toExcept, Flow.load, valid, bind, Except.bind])
    | false =>
      have refused : Flow.ofDocument v = .error (.flowInvalid f.id (f.validate.errors.map Finding.message)) := by
        simp [Flow.ofDocument, read, Check.toExcept, Flow.load, valid, bind, Except.bind]
      exact .refused unbroken (by simp [wellFormed?, read, Check.toOption, valid]) refused

end Chatflow.Proofs.FlowReading
