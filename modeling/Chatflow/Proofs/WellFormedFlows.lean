import Chatflow.Flow.Loading
import Mathlib

/-! Flows that are well-formed, told without the search for what is wrong with them. The search finds nothing exactly in
these flows, whatever it warns of. -/

namespace Chatflow.Proofs.WellFormedFlows
open Chatflow.Flow

variable {f : Flow} {step : Step}

/-- Something stands in a text besides blanks. -/
def Written (text : String) : Prop := ∃ c ∈ text.toList, Text.isBlank c = false

def Given (text : Option String) : Prop := ∃ s, text = some s ∧ s ≠ ""

/-- A trigger has what its kind needs ever to fire. -/
def Complete : Trigger → Prop
  | .none => True
  | .message _ mode keywords => mode = .all ∨ keywords ≠ []
  | .tagAdded _ tagId => Given tagId
  | .thirdParty _ fieldNames => fieldNames ≠ []

/-- A medium was uploaded, or is at an address that does not only exist in the editor's window. -/
def HasFile (c : MessageConfig) : Prop :=
  Given c.mediaId ∨ ∃ url, c.mediaUrl = some url ∧ url ≠ "" ∧ ¬ "blob:".toList <+: url.toList

/-- What the kind of a step asks of its settings, and a choice of its connections. -/
def MeetsRule (f : Flow) (step : Step) : Prop :=
  match step.body with
  | .start trigger => ∀ t ∈ trigger, Complete t
  | .sendMessage c => (c.kind = .text → Written c.text) ∧ (c.kind ≠ .text → HasFile c)
  | .question c => Written c.text
  | .choice _ c => c.options ≠ [] ∧
      ∀ o ∈ c.options, ∃ branch ∈ f.connections, branch.source = step.id ∧ branch.handle = some o.id
  | .condition c => c.rules ≠ []
  | .assign c => c.agentKind = .ai → Given c.agentId
  | .rotator c => 2 ≤ c.options.length
  | .wait _ | .automation _ | .template _ | .invalid .. | .unknown _ => True

structure WellFormed (f : Flow) : Prop where
  start : (f.steps.filter fun step => step.body.kind? = some .start).length = 1
  distinct : (f.steps.map Step.id).Nodup
  joined : ∀ c ∈ f.connections, c.source ∈ f.steps.map Step.id ∧ c.target ∈ f.steps.map Step.id
  unshared : f.connections.Pairwise fun c d =>
    ∀ handle, handle ≠ "" → c.handle = some handle → d.handle = some handle → c.source ≠ d.source
  readable : ∀ step ∈ f.steps, step.body.isValid = true
  ruled : ∀ step ∈ f.steps, MeetsRule f step

theorem isUnfilled_eq_false {text : Option String} : isUnfilled text = false ↔ Given text := by
  cases text with
  | none => simp [isUnfilled, filled?, Given]
  | some s => by_cases empty : s = "" <;> simp [isUnfilled, filled?, Given, empty]

theorem isUnfilled_iff {text : Option String} : isUnfilled text = true ↔ ¬ Given text := by
  rw [← isUnfilled_eq_false, Bool.not_eq_false]

theorem trimChars_eq_nil {cs : List Char} : Text.trimChars cs = [] ↔ ∀ c ∈ cs, Text.isBlank c = true := by
  constructor
  · intro trimmed
    have blank : ∀ c ∈ Text.trimLeft cs, Text.isBlank c = true := by
      simpa [Text.trimChars, Text.trimRight] using trimmed
    rw [← List.dropWhile_eq_nil_iff]
    cases left : cs.dropWhile Text.isBlank with
    | nil => rfl
    | cons c rest =>
      have first := List.head?_dropWhile_not Text.isBlank cs
      rw [left] at first
      have member : c ∈ Text.trimLeft cs := by rw [Text.trimLeft, left]; exact List.mem_cons_self
      exact absurd (blank c member) (by simpa using first)
  · intro blank
    rw [Text.trimChars, Text.trimLeft, List.dropWhile_eq_nil_iff.mpr blank]
    rfl

theorem trim_ne_empty {text : String} : Text.trim text ≠ "" ↔ Written text := by
  rw [ne_eq, Text.trim, ← String.toList_eq_nil_iff, String.toList_ofList, trimChars_eq_nil]
  simp [Written]

theorem hasUsableMedia_iff {c : MessageConfig} : c.hasUsableMedia = true ↔ HasFile c := by
  unfold MessageConfig.hasUsableMedia HasFile
  rw [Bool.or_eq_true]
  apply or_congr
  · rw [← isUnfilled_eq_false, isUnfilled, Option.isNone_eq_false_iff]
  · cases c.mediaUrl with
    | none => simp [filled?]
    | some url =>
      by_cases empty : url = ""
      · subst empty
        exact iff_of_false Bool.false_ne_true fun ⟨_, same, written, _⟩ => written (Option.some.inj same).symm
      · rw [filled?, Option.filter_some_pos (by simpa using empty)]
        simp [empty, ← List.isPrefixOf_iff_prefix]

theorem triggerErrors_eq_nil {id : String} {t : Trigger} : triggerErrors id t = [] ↔ Complete t := by
  cases t with
  | none => simp [triggerErrors, Complete]
  | message scope mode keywords => simp [triggerErrors, Complete, or_iff_not_imp_left]
  | tagAdded scope tagId => simp [triggerErrors, Complete, isUnfilled_eq_false]
  | thirdParty scope fieldNames => simp [triggerErrors, Complete]

theorem connectionFor?_isSome {id handle : String} :
    (f.connectionFor? id handle).isSome = true ↔
      ∃ branch ∈ f.connections, branch.source = id ∧ branch.handle = some handle := by
  simp [connectionFor?, outgoing]

theorem stepErrors_eq_nil : f.stepErrors step = [] ↔ step.body.isValid = true ∧ MeetsRule f step := by
  unfold stepErrors MeetsRule
  cases step.body with
  | start trigger => cases trigger <;> simp [StepBody.isValid, triggerErrors_eq_nil]
  | sendMessage c =>
    have kinds : c.mediaKind = none ↔ c.kind = .text := by
      cases kind : c.kind <;> simp [MessageConfig.mediaKind, kind]
    dsimp only
    cases medium : c.mediaKind with
    | none => simp [StepBody.isValid, kinds.mp medium, ← trim_ne_empty]
    | some kind =>
      have other : c.kind ≠ .text := fun text => by simp [kinds.mpr text] at medium
      simp [StepBody.isValid, other, ← hasUsableMedia_iff]
  | question c => simp [StepBody.isValid, ← trim_ne_empty]
  | choice style c =>
    simp [StepBody.isValid, ← connectionFor?_isSome, Option.isSome_iff_ne_none]
  | condition c => simp [StepBody.isValid]
  | assign c => simp [StepBody.isValid, isUnfilled_eq_false]
  | rotator c => simp [StepBody.isValid, Nat.succ_le_iff]
  | wait | automation | template | invalid | unknown => simp [StepBody.isValid]

theorem step?_isSome {id : String} : (f.step? id).isSome = true ↔ id ∈ f.steps.map Step.id := by
  simp [step?]

theorem duplicateIds_eq_nil : f.duplicateIds = [] ↔ (f.steps.map Step.id).Nodup := by
  rw [List.nodup_iff_count_le_one, duplicateIds, List.eq_nil_iff_forall_not_mem]
  simp only [List.mem_mergeSort, List.mem_eraseDups, List.mem_filter, decide_eq_true_eq, not_and, Nat.not_lt]
  constructor
  · intro single id
    by_cases present : id ∈ f.steps.map Step.id
    · exact single id present
    · rw [List.count_eq_zero_of_not_mem present]
      exact Nat.zero_le 1
  · intro single id _
    exact single id

theorem branch?_eq_some {c : Connection} {branch : String × String} :
    branch? c = some branch ↔ c.source = branch.1 ∧ c.handle = some branch.2 ∧ branch.2 ≠ "" := by
  obtain ⟨source, handle⟩ := branch
  unfold branch?
  cases c.handle with
  | none => simp
  | some own => by_cases empty : own = "" <;> grind

/-- The induction is on the connections still to be looked at; their branches must differ from those seen before. -/
theorem connectionErrors_eq_nil {seen : List (String × String)} {cs : List Connection} :
    f.connectionErrors seen cs = [] ↔
      (∀ c ∈ cs, (f.step? c.source).isSome = true ∧ (f.step? c.target).isSome = true) ∧
        (cs.filterMap branch?).Nodup ∧ ∀ branch ∈ cs.filterMap branch?, branch ∉ seen := by
  induction cs generalizing seen with
  | nil => simp [connectionErrors]
  | cons c rest ih =>
    have ends : ((f.step? c.source).isNone || (f.step? c.target).isNone) = false ↔
        (f.step? c.source).isSome = true ∧ (f.step? c.target).isSome = true := by
      rw [Bool.or_eq_false_iff, Option.isNone_eq_false_iff, Option.isNone_eq_false_iff]
    rw [List.forall_mem_cons, ← ends, List.filterMap_cons]
    cases branched : branch? c with
    | none =>
      simp only [connectionErrors, branched, List.append_eq_nil_iff, ih, ite_eq_right_iff, List.cons_ne_nil, imp_false,
        Bool.not_eq_true, and_assoc]
    | some branch =>
      simp only [connectionErrors, branched, List.append_eq_nil_iff, ih, ite_eq_right_iff, List.cons_ne_nil, imp_false,
        Bool.not_eq_true, List.nodup_cons, List.mem_cons, not_or, List.contains_eq_mem, decide_eq_false_iff_not,
        forall_eq_or_imp]
      constructor
      · rintro ⟨⟨joined, new⟩, others, distinct, apart⟩
        exact ⟨⟨joined, others⟩, ⟨fun again => (apart branch again).1 rfl, distinct⟩, new, fun other later => (apart other later).2⟩
      · rintro ⟨⟨joined, others⟩, ⟨once, distinct⟩, new, apart⟩
        exact ⟨⟨joined, new⟩, others, distinct, fun other later =>
          ⟨fun same => once (same ▸ later), apart other later⟩⟩

theorem nodup_branches : (f.connections.filterMap branch?).Nodup ↔ f.connections.Pairwise fun c d =>
    ∀ handle, handle ≠ "" → c.handle = some handle → d.handle = some handle → c.source ≠ d.source := by
  rw [List.Nodup, List.pairwise_filterMap]
  apply List.Pairwise.iff
  intro c d
  simp only [branch?_eq_some]
  constructor
  · intro apart handle named own other same
    exact apart (c.source, handle) ⟨rfl, own, named⟩ (d.source, handle) ⟨rfl, other, named⟩ (by rw [same])
  · rintro apart ⟨source, handle⟩ ⟨from', own, named⟩ branch ⟨other, shared, _⟩ same
    subst same
    exact apart handle named own shared (from'.trans other.symm)

theorem validate_clean_iff : f.validate.errors = [] ↔ WellFormed f := by
  have alike : isStart = fun step => decide (step.body.kind? = some .start) := by
    funext step
    rw [isStart, Bool.eq_iff_iff, beq_iff_eq, decide_eq_true_iff]
  have found {first : Step} {others : List Step} (listed : f.steps.filter isStart = first :: others) :
      f.validate.errors = [] ↔ others = [] ∧ f.duplicateIds = [] ∧ f.connectionErrors [] f.connections = [] ∧
        ∀ step ∈ f.steps, f.stepErrors step = [] := by
    simp [validate, listed]
  cases listed : f.steps.filter isStart with
  | nil =>
    refine ⟨fun clean => by simp [validate, listed] at clean, fun wellFormed => ?_⟩
    have start := wellFormed.start
    rw [← alike, listed] at start
    cases start
  | cons first others =>
    rw [found listed, duplicateIds_eq_nil, connectionErrors_eq_nil, nodup_branches]
    constructor
    · rintro ⟨rfl, distinct, ⟨joined, unshared, _⟩, steps⟩
      refine ⟨?_, distinct, fun c member => ?_, unshared, fun step member => (stepErrors_eq_nil.mp (steps step member)).1,
        fun step member => (stepErrors_eq_nil.mp (steps step member)).2⟩
      · rw [← alike, listed]
        rfl
      · rw [← step?_isSome, ← step?_isSome]
        exact joined c member
    · intro wellFormed
      have start := wellFormed.start
      rw [← alike, listed, List.length_cons] at start
      refine ⟨List.length_eq_zero_iff.mp (by omega), wellFormed.distinct, ⟨fun c member => ?_, wellFormed.unshared, ?_⟩, ?_⟩
      · rw [step?_isSome, step?_isSome]
        exact wellFormed.joined c member
      · intro branch _ seen
        cases seen
      · intro step member
        exact stepErrors_eq_nil.mpr ⟨wellFormed.readable step member, wellFormed.ruled step member⟩

theorem load_ok_iff {given : Flow} : given.load = .ok f ↔ given = f ∧ WellFormed f := by
  have loaded : given.load = if given.validate.isValid = true then .ok given
      else .error (.flowInvalid given.id (given.validate.errors.map Finding.message)) := rfl
  rw [← validate_clean_iff, loaded]
  constructor
  · intro accepted
    split at accepted
    case isTrue clean =>
      cases accepted
      exact ⟨rfl, List.isEmpty_iff.mp clean⟩
    case isFalse => cases accepted
  · rintro ⟨rfl, clean⟩
    have valid : given.validate.isValid = true := List.isEmpty_iff.mpr clean
    rw [if_pos valid]

/-- Findings about flows that still run. -/
def Harmless : Finding → Prop
  | .unreachable _ | .noOutgoing _ => True
  | _ => False

theorem forall_told {p : Prop} [Decidable p] {told : Finding} (harmful : ¬ Harmless told) :
    ∀ finding ∈ (if p then [told] else []), ¬ Harmless finding := by
  intro finding member
  split at member
  · rwa [List.mem_singleton.mp member]
  · cases member

theorem stepErrors_harmful : ∀ finding ∈ f.stepErrors step, ¬ Harmless finding := by
  unfold stepErrors
  cases step.body with
  | start trigger =>
    rcases trigger with _ | _ | _ | _ | _
    · simp
    · simp [triggerErrors]
    all_goals exact forall_told id
  | sendMessage c =>
    dsimp only
    split
    · exact forall_told id
    · split <;> simp [Harmless]
  | choice style c =>
    intro finding member
    rcases List.mem_append.mp member with empty | unconnected
    · exact forall_told id finding empty
    · obtain ⟨o, _, rfl⟩ := List.mem_map.mp unconnected
      exact id
  | question | condition | assign | rotator => exact forall_told id
  | wait | automation | template => simp
  | invalid | unknown => simp [Harmless]

theorem connectionErrors_harmful {seen : List (String × String)} {cs : List Connection} :
    ∀ finding ∈ f.connectionErrors seen cs, ¬ Harmless finding := by
  induction cs generalizing seen with
  | nil => simp [connectionErrors]
  | cons c rest ih =>
    intro finding member
    cases branched : branch? c with
    | none =>
      simp only [connectionErrors, branched, List.mem_append] at member
      rcases member with dangling | later
      · exact forall_told id finding dangling
      · exact ih finding later
    | some branch =>
      simp only [connectionErrors, branched, List.mem_append] at member
      rcases member with (dangling | doubled) | later
      · exact forall_told id finding dangling
      · exact forall_told id finding doubled
      · exact ih finding later

theorem validate_tells_apart (f : Flow) :
    (∀ finding ∈ f.validate.errors, ¬ Harmless finding) ∧ ∀ finding ∈ f.validate.warnings, Harmless finding := by
  cases listed : f.steps.filter isStart with
  | nil => simp [validate, listed, Harmless]
  | cons first others =>
    simp only [validate, listed, List.mem_append, List.mem_map, List.mem_flatMap]
    constructor
    · rintro finding (((several | ⟨doubled, _, rfl⟩) | connection) | ⟨step, _, wrong⟩)
      · exact forall_told id finding several
      · exact id
      · exact connectionErrors_harmful finding connection
      · exact stepErrors_harmful finding wrong
    · rintro finding ⟨step, _, told⟩
      unfold stepWarnings at told
      rcases List.mem_append.mp told with told | told <;> split at told <;> cases told <;> trivial

/-- A flow is accepted exactly if it is well-formed: it has one step to start at, no two steps have one id, connections
join steps of the flow and do not share a named branch of one step, all settings can be read, and every step meets the
rule of its kind. All that speaks against a flow is told as an error, and whatever is only warned of makes no difference. -/
theorem flow_accepted_iff_wellFormed (f : Flow) :
    (f.validate.isValid = true ↔ WellFormed f) ∧ (f.load = .ok f ↔ WellFormed f) ∧
    (∀ finding ∈ f.validate.errors, ¬ Harmless finding) ∧ (∀ finding ∈ f.validate.warnings, Harmless finding) ∧
    ∀ warnings, ({ f.validate with warnings := warnings } : Validation).isValid = true ↔ WellFormed f := by
  have clean : ∀ warnings, ({ f.validate with warnings := warnings } : Validation).isValid = true ↔ WellFormed f := by
    intro warnings
    rw [← validate_clean_iff, Validation.isValid, List.isEmpty_iff]
  obtain ⟨harmful, harmless⟩ := validate_tells_apart f
  refine ⟨clean f.validate.warnings, ?_, harmful, harmless, clean⟩
  rw [load_ok_iff, eq_self, true_and]

/-- A flow with a step that nothing leads to, and two steps that lead nowhere. -/
def archipelago : Flow :=
  { id := "archipelago", steps := [⟨"begin", .start none⟩, ⟨"island", .sendMessage { text := "Nobody gets here." }⟩] }

example : archipelago.validate = ⟨[], [.noOutgoing "begin", .unreachable "island", .noOutgoing "island"]⟩ := by cbv

end Chatflow.Proofs.WellFormedFlows
