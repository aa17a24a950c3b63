import Chatflow.Proofs.AcceptedFlows
import Chatflow.Proofs.HandedActions

/-! Where runs fail. Steps that are missing or cannot be read never make a run fail, and neither does the flow: a step
fails over what it finds among the variables of the session, over a clock that calendars do not reach, or over weights
that have no sum. These are all the ways, so whoever keeps them out has runs that always return. -/

namespace Chatflow.Proofs.FailingRuns
open Interpreter StepEffects RunEndings HandedActions

variable {f : Flow} {options : RunOptions} {now : Instant} {vars : Fields} {fault : Fault}

theorem bind_fails {ε α β : Type} {first : Except ε α} {next : α → Except ε β} {e : ε} :
    (first >>= next) = .error e ↔ first = .error e ∨ ∃ a, first = .ok a ∧ next a = .error e := by
  cases first <;> simp [bind, Except.bind]

theorem map_fails {ε α β : Type} {result : Except ε α} {g : α → β} {e : ε} :
    result.map g = .error e ↔ result = .error e := by
  cases result <;> simp [Except.map]

/-- A list of tasks that can fail in one way only fails if one of them does. -/
theorem mapM_fails {ε α β : Type} {g : α → Except ε β} {items : List α} {e : ε}
    (only : ∀ item ∈ items, ∀ other, g item = .error other → other = e) {other : ε} :
    items.mapM g = .error other ↔ other = e ∧ ∃ item ∈ items, g item = .error e := by
  induction items with
  | nil => simp [pure, Except.pure]
  | cons item rest ih =>
    have later := ih fun other member => only other (List.mem_cons_of_mem _ member)
    rw [List.mapM_cons]
    cases first : g item with
    | error found =>
      have same := only item List.mem_cons_self found first
      simp [bind, Except.bind, first, same, eq_comm]
    | ok b =>
      cases others : rest.mapM g with
      | error found =>
        rw [others] at later
        simp only [bind, Except.bind, first, List.mem_cons, exists_eq_or_imp, reduceCtorEq, false_or]
        exact later
      | ok bs =>
        rw [others] at later
        have none : ¬ (other = e ∧ ∃ item ∈ rest, g item = .error e) := fun told => by cases later.mpr told
        simp only [bind, Except.bind, pure, Except.pure, first, List.mem_cons, exists_eq_or_imp, reduceCtorEq,
          false_or, false_iff]
        exact none

/-- A text asks for a variable with a whole number that is too long to be written. -/
def AsksUnwritable (vars : Fields) (text : String) : Prop :=
  ∃ source key value, Template.Piece.placeholder source key ∈ Template.pieces text.toList ∧
    vars.get? (String.ofList key) = some value ∧ value.isShowable = false

theorem fill_fails {text : String} :
    Template.fill vars text = .error fault ↔ fault = .unwritableNumber ∧ AsksUnwritable vars text := by
  have told : (Template.pieces text.toList).all (Template.Piece.isFillable vars) = false ↔ AsksUnwritable vars text := by
    rw [List.all_eq_false]
    constructor
    · rintro ⟨piece, member, unfillable⟩
      cases piece with
      | literal c => simp [Template.Piece.isFillable] at unfillable
      | placeholder source key =>
        cases known : vars.get? (String.ofList key) with
        | none => simp [Template.Piece.isFillable, known] at unfillable
        | some value =>
          exact ⟨source, key, value, member, known, by simpa [Template.Piece.isFillable, known] using unfillable⟩
    · rintro ⟨source, key, value, member, known, long⟩
      exact ⟨_, member, by simp [Template.Piece.isFillable, known, long]⟩
  unfold Template.fill
  cases fillable : (Template.pieces text.toList).all (Template.Piece.isFillable vars) with
  | false =>
    rw [if_neg (by simp)]
    simp [told.mp fillable, eq_comm]
  | true =>
    have filled : ¬ AsksUnwritable vars text := fun asks => by simp [told.mpr asks] at fillable
    simp [filled]

/-- Values that tags cannot be read from: only texts, lists and tables can be gone through, and what stands in a list
has to be written out. -/
inductive Untellable : Value → Fault → Prop where
  | bool {b} : Untellable (.bool b) .wrongType
  | int {n} : Untellable (.int n) .wrongType
  | float {x} : Untellable (.float x) .wrongType
  | time {t} : Untellable (.time t) .wrongType
  | list {items item} (member : item ∈ items) (long : item.isShowable = false) :
      Untellable (.list items) .unwritableNumber

theorem contactTags_fails :
    Condition.contactTags vars = .error fault ↔ ∃ tags, vars.get? "tags" = some tags ∧ Untellable tags fault := by
  unfold Condition.contactTags
  constructor
  · intro failed
    split at failed
    case h_4 items given =>
      split at failed
      · cases failed
      next long =>
        cases failed
        simp only [List.all_eq_true, not_forall, Bool.not_eq_true] at long
        obtain ⟨item, member, long⟩ := long
        exact ⟨_, given, .list member long⟩
    case h_6 tags null str list obj given =>
      cases failed
      refine ⟨tags, given, ?_⟩
      cases tags with
      | null => exact absurd rfl null
      | str s => exact absurd rfl (str s)
      | list items => exact absurd rfl (list items)
      | obj fields => exact absurd rfl (obj fields)
      | bool | int | float | time => constructor
    all_goals cases failed
  · rintro ⟨tags, given, untellable⟩
    rw [given]
    cases untellable with
    | bool | int | float | time => rfl
    | list member long =>
      refine if_neg fun showable => ?_
      rw [List.all_eq_true.mp showable _ member] at long
      cases long

/-- Values that no rotator can count with. Whatever is empty or zero counts as zero. -/
inductive Uncountable : Value → Fault → Prop where
  | infinite {x negative} (infinite : Decimal.Binary.ofFloat x = .infinite negative) (truthy : (Value.float x).truthy) :
      Uncountable (.float x) (.span .infinite)
  | nan {x} (nan : Decimal.Binary.ofFloat x = .nan) (truthy : (Value.float x).truthy) :
      Uncountable (.float x) (.span .notANumber)
  | str {s e} (unread : Decimal.readWhole s.toList = .error e) (truthy : (Value.str s).truthy) :
      Uncountable (.str s) (.ofNumeral s e)
  | time {t} : Uncountable (.time t) .wrongType
  | list {items} (truthy : (Value.list items).truthy) : Uncountable (.list items) .wrongType
  | obj {fields} (truthy : (Value.obj fields).truthy) : Uncountable (.obj fields) .wrongType

theorem uncountable_of_fails {v : Value} (failed : Rotator.counterValue (some v) = .error fault) :
    Uncountable v fault := by
  simp only [Rotator.counterValue] at failed
  split at failed
  case isFalse => cases failed
  next truthy =>
    cases v with
    | null => cases truthy
    | bool | int => cases failed
    | time => cases failed; exact .time
    | list => cases failed; exact .list truthy
    | obj => cases failed; exact .obj truthy
    | str s =>
      dsimp only at failed
      split at failed
      · cases failed
      next e unread => cases failed; exact .str unread truthy
    | float x =>
      dsimp only at failed
      cases read : Decimal.Binary.ofFloat x <;> simp only [read, Decimal.truncate?] at failed <;> cases failed
      · exact .infinite read truthy
      · exact .nan read truthy

theorem Uncountable.fails {v : Value} (uncountable : Uncountable v fault) :
    Rotator.counterValue (some v) = .error fault := by
  cases uncountable with
  | infinite infinite truthy => simp only [Rotator.counterValue, truthy, if_true, infinite, Decimal.truncate?]
  | nan nan truthy => simp only [Rotator.counterValue, truthy, if_true, nan]
  | str unread truthy => simp only [Rotator.counterValue, truthy, if_true, unread]
  | time => rfl
  | list truthy | obj truthy => simp only [Rotator.counterValue, truthy, if_true]

theorem counterValue_fails {count : Option Value} :
    Rotator.counterValue count = .error fault ↔ ∃ v, count = some v ∧ Uncountable v fault := by
  cases count with
  | none => simp [Rotator.counterValue]
  | some v => simpa using ⟨uncountable_of_fails, Uncountable.fails⟩

/-- The texts that a step fills in. -/
def textsOf : StepBody → List String
  | .sendMessage c =>
    match c.mediaKind, c.hasUsableMedia with
    | some _, true => [c.text, (filled? c.caption).getD c.text]
    | _, _ => [c.text]
  | .template c => c.vars
  | .question c => [c.text]
  | .choice _ c => c.message :: c.options.map ChoiceOption.label
  | _ => []

/-- The weights of the branches add up to no finite number. -/
def Endless (options : List RotatorOption) : Prop :=
  ((Rotator.partialSums (Rotator.shares options)).getLastD 0.0).isFinite = false

/-- All the ways in which a step can fail. -/
inductive Fails (options : RunOptions) (now : Instant) (step : Step) (vars : Fields) : Fault → Prop where
  | text {text} (filled : text ∈ textsOf step.body) (asks : AsksUnwritable vars text) :
      Fails options now step vars .unwritableNumber
  | wait {c e} (body : step.body = .wait c) (unreached : now.addSeconds c.seconds = .error e) :
      Fails options now step vars (.span e)
  | clock {c e} (body : step.body = .condition c) (untold : now.inZone options.zone = .error e) :
      Fails options now step vars (.span e)
  | tags {c rule tags told fault} (body : step.body = .condition c) (told : now.inZone options.zone = .ok told)
      (member : rule ∈ c.rules) (asks : rule.kind = .tag) (given : vars.get? "tags" = some tags)
      (untellable : Untellable tags fault) : Fails options now step vars fault
  | count {c count fault} (body : step.body = .rotator c) (branches : c.options ≠ []) (inTurn : c.sequential = true)
      (given : vars.get? (Rotator.counterKey step.id) = some count) (uncountable : Uncountable count fault) :
      Fails options now step vars fault
  | lot {c} (body : step.body = .rotator c) (branches : c.options ≠ []) (byLot : c.sequential = false)
      (endless : Endless c.options) : Fails options now step vars .infiniteWeights

theorem fill_ok {text : String} (fillable : ¬ AsksUnwritable vars text) :
    ∃ filled, Template.fill vars text = .ok filled := by
  cases done : Template.fill vars text with
  | error e => exact absurd (fill_fails.mp done).2 fillable
  | ok filled => exact ⟨filled, rfl⟩

theorem messageContent?_fails {c : MessageConfig} :
    messageContent? c vars = .error fault ↔
      fault = .unwritableNumber ∧ ∃ text ∈ textsOf (.sendMessage c), AsksUnwritable vars text := by
  by_cases asks : AsksUnwritable vars c.text
  · have failed : Template.fill vars c.text = .error .unwritableNumber := fill_fails.mpr ⟨rfl, asks⟩
    have listed : ∃ text ∈ textsOf (.sendMessage c), AsksUnwritable vars text := by
      refine ⟨c.text, ?_, asks⟩
      cases kind : c.mediaKind <;> cases usable : c.hasUsableMedia <;> simp [textsOf, kind, usable]
    simp [messageContent?, failed, listed, bind, Except.bind, eq_comm]
  · obtain ⟨filled, done⟩ := fill_ok asks
    cases kind : c.mediaKind <;> cases usable : c.hasUsableMedia <;>
      simp [messageContent?, textsOf, kind, usable, done, asks, bind_fails, fill_fails, pure, Except.pure]

theorem mapM_fill_fails {texts : List String} :
    texts.mapM (Template.fill vars) = .error fault ↔
      fault = .unwritableNumber ∧ ∃ text ∈ texts, AsksUnwritable vars text := by
  rw [mapM_fails fun text _ other failed => (fill_fails.mp failed).1]
  simp only [fill_fails, true_and]

theorem choiceContent_fails (style : ChoiceStyle) {c : ChoiceConfig} :
    choiceContent c vars = .error fault ↔
      fault = .unwritableNumber ∧ ∃ text ∈ textsOf (.choice style c), AsksUnwritable vars text := by
  let labelled : ChoiceOption → Except Fault ChoiceOption := fun o =>
    Template.fill vars o.label >>= fun label => .ok { o with label := label }
  have one {o : ChoiceOption} {other : Fault} :
      labelled o = .error other ↔ other = .unwritableNumber ∧ AsksUnwritable vars o.label := by
    simp [labelled, bind_fails, fill_fails]
  have all : c.options.mapM labelled = .error fault ↔
      fault = .unwritableNumber ∧ ∃ o ∈ c.options, AsksUnwritable vars o.label := by
    rw [mapM_fails fun o _ other failed => (one.mp failed).1]
    simp only [one, true_and]
  have steps : choiceContent c vars = .error fault ↔ Template.fill vars c.message = .error fault ∨
      ∃ body, Template.fill vars c.message = .ok body ∧ c.options.mapM labelled = .error fault := by
    simp [choiceContent, labelled, bind_fails, pure, Except.pure]
  rw [steps, fill_fails, all]
  by_cases asks : AsksUnwritable vars c.message
  · have unfilled : ∀ body, Template.fill vars c.message ≠ .ok body := by
      intro body done
      rw [fill_fails.mpr ⟨rfl, asks⟩] at done
      cases done
    simp [textsOf, asks, unfilled]
  · obtain ⟨body, done⟩ := fill_ok asks
    simp [textsOf, asks, done]

theorem rotatorEffect_fails {id : String} {c : RotatorConfig} {s : Session} {rolls : List Float} :
    (rotatorEffect f id c s rolls).1 = .error fault ↔ c.options ≠ [] ∧
      ((c.sequential = true ∧ ∃ count, s.vars.get? (Rotator.counterKey id) = some count ∧ Uncountable count fault) ∨
       (c.sequential = false ∧ Endless c.options ∧ fault = .infiniteWeights)) := by
  unfold rotatorEffect
  by_cases none : c.options = []
  · simp [none]
  rw [if_neg (by simpa using none)]
  cases inTurn : c.sequential with
  | true =>
    rw [if_pos rfl, ← counterValue_fails]
    dsimp only
    split
    next e failed => simp [failed, none]
    next count counted => simp [counted, none]
  | false =>
    rw [if_neg (by simp)]
    unfold Rotator.draw Endless
    dsimp only
    cases ((Rotator.partialSums (Rotator.shares c.options)).getLastD 0.0).isFinite <;> simp [none, eq_comm]

theorem positive_fails {rule : ConditionRule} {civil : Civil} :
    Condition.positive rule vars civil = .error fault ↔ rule.kind = .tag ∧ Condition.contactTags vars = .error fault := by
  cases kind : rule.kind <;> simp [Condition.positive, kind, bind_fails, pure, Except.pure]

theorem ruleHolds_fails {rule : ConditionRule} {civil : Civil} :
    Condition.ruleHolds rule vars civil = .error fault ↔ rule.kind = .tag ∧ Condition.contactTags vars = .error fault := by
  unfold Condition.ruleHolds
  rw [bind_fails, positive_fails]
  constructor
  · rintro (failed | ⟨met, _, failed⟩)
    · exact failed
    · cases met <;> cases failed
  · exact Or.inl

/-- The rules of a condition that ask for tags all fail alike. -/
theorem holds_fails {c : ConditionConfig} {civil : Civil} :
    Condition.holds c vars civil = .error fault ↔
      (∃ rule ∈ c.rules, rule.kind = .tag) ∧ Condition.contactTags vars = .error fault := by
  have rules : c.rules.mapM (fun rule => Condition.ruleHolds rule vars civil) = .error fault ↔
      (∃ rule ∈ c.rules, rule.kind = .tag) ∧ Condition.contactTags vars = .error fault := by
    cases tags : Condition.contactTags vars with
    | error e =>
      rw [mapM_fails fun rule _ other failed => Except.error.inj ((ruleHolds_fails.mp failed).2.symm.trans tags)]
      simp only [ruleHolds_fails, tags, and_true, Except.error.injEq]
      exact and_comm.trans (and_congr_right fun _ => eq_comm)
    | ok told =>
      have never (rule : ConditionRule) (other : Fault) : Condition.ruleHolds rule vars civil ≠ .error other := by
        rw [Ne, ruleHolds_fails, tags]
        simp
      rw [mapM_fails (e := fault) fun rule _ other failed => absurd failed (never rule other)]
      simp [never]
  unfold Condition.holds Condition.combine
  cases empty : c.rules.isEmpty with
  | true => simp [List.isEmpty_iff.mp empty, pure, Except.pure]
  | false => simp [bind_fails, rules, pure, Except.pure]

theorem holdsAt_fails {c : ConditionConfig} {zone : Zone} :
    Condition.holdsAt c vars now zone = .error fault ↔
      (∃ e, now.inZone zone = .error e ∧ fault = .span e) ∨
      ∃ told, now.inZone zone = .ok told ∧ ∃ rule ∈ c.rules, rule.kind = .tag ∧
        ∃ tags, vars.get? "tags" = some tags ∧ Untellable tags fault := by
  rw [← contactTags_fails]
  unfold Condition.holdsAt
  rw [bind_fails]
  cases told : now.inZone zone with
  | error e => simp [Except.mapError, eq_comm]
  | ok t =>
    simp only [Except.mapError, Except.ok.injEq, exists_eq_left', holds_fails, reduceCtorEq, false_or, false_and,
      exists_false, exists_and_right, ← and_assoc]

theorem fails_of_effectOf {step : Step} {s : Session} {rolls : List Float}
    (failed : (effectOf f options now step s rolls).1 = .error fault) : Fails options now step s.vars fault := by
  cases body : step.body with
  | start | automation | invalid | unknown | assign =>
    simp only [effectOf, body] at failed
    cases failed
  | sendMessage c =>
    simp only [effectOf, body] at failed
    obtain ⟨rfl, text, filled, asks⟩ := messageContent?_fails.mp (map_fails.mp failed)
    exact .text (body ▸ filled) asks
  | template c =>
    simp only [effectOf, body] at failed
    obtain ⟨rfl, text, filled, asks⟩ := mapM_fill_fails.mp (map_fails.mp (map_fails.mp failed))
    exact .text (body ▸ filled) asks
  | question c =>
    simp only [effectOf, body] at failed
    obtain ⟨rfl, asks⟩ := fill_fails.mp (map_fails.mp (map_fails.mp failed))
    exact .text (body ▸ List.mem_singleton_self c.text) asks
  | choice style c =>
    simp only [effectOf, body] at failed
    obtain ⟨rfl, text, filled, asks⟩ := (choiceContent_fails style).mp (map_fails.mp failed)
    exact .text (body ▸ filled) asks
  | wait c =>
    simp only [effectOf, body, waitEffect] at failed
    split at failed
    next e unreached => cases failed; exact .wait body unreached
    next => cases failed
  | condition c =>
    simp only [effectOf, body] at failed
    split at failed
    next e unheld =>
      cases failed
      rcases holdsAt_fails.mp unheld with ⟨e, untold, rfl⟩ | ⟨t, told, rule, member, asks, tags, given, untellable⟩
      · exact .clock body untold
      · exact .tags body told member asks given untellable
    next => cases failed
  | rotator c =>
    simp only [effectOf, body] at failed
    obtain ⟨branches, ⟨inTurn, count, given, uncountable⟩ | ⟨byLot, endless, rfl⟩⟩ := rotatorEffect_fails.mp failed
    · exact .count body branches inTurn given uncountable
    · exact .lot body branches byLot endless

theorem Fails.effectOf {step : Step} {s : Session} (fails : Fails options now step s.vars fault) (rolls : List Float) :
    (effectOf f options now step s rolls).1 = .error fault := by
  cases fails with
  | text filled asks =>
    cases body : step.body <;> rw [body] at filled
    case sendMessage c => 
      simp only [Interpreter.effectOf, body]
      exact map_fails.mpr (messageContent?_fails.mpr ⟨rfl, _, filled, asks⟩)
    case template c =>
      simp only [Interpreter.effectOf, body]
      exact map_fails.mpr (map_fails.mpr (mapM_fill_fails.mpr ⟨rfl, _, filled, asks⟩))
    case question c =>
      rw [List.mem_singleton.mp filled] at asks
      simp only [Interpreter.effectOf, body]
      exact map_fails.mpr (map_fails.mpr (fill_fails.mpr ⟨rfl, asks⟩))
    case choice style c =>
      simp only [Interpreter.effectOf, body]
      exact map_fails.mpr ((choiceContent_fails style).mpr ⟨rfl, _, filled, asks⟩)
    all_goals cases filled
  | wait body unreached => simp only [Interpreter.effectOf, body, waitEffect, unreached]
  | @clock c e body untold =>
    have failed : Condition.holdsAt c s.vars now options.zone = .error (.span e) :=
      holdsAt_fails.mpr (Or.inl ⟨e, untold, rfl⟩)
    simp only [Interpreter.effectOf, body, failed]
  | @tags c rule tags t fault body told member asks given untellable =>
    have failed : Condition.holdsAt c s.vars now options.zone = .error fault :=
      holdsAt_fails.mpr (Or.inr ⟨t, told, rule, member, asks, tags, given, untellable⟩)
    simp only [Interpreter.effectOf, body, failed]
  | count body branches inTurn given uncountable =>
    simp only [Interpreter.effectOf, body]
    exact rotatorEffect_fails.mpr ⟨branches, Or.inl ⟨inTurn, _, given, uncountable⟩⟩
  | lot body branches byLot endless =>
    simp only [Interpreter.effectOf, body]
    exact rotatorEffect_fails.mpr ⟨branches, Or.inr ⟨byLot, endless, rfl⟩⟩

/-- What a walk comes to: a step, and the session with which it gets there. -/
inductive Comes (f : Flow) (options : RunOptions) (now : Instant) :
    Nat → Session → List Float → Option String → Step → Session → Prop where
  | here {left s rolls id step} (found : f.step? id = some step) :
      Comes f options now (left + 1) s rolls (some id) step s
  | onward {left s rolls id step after actions next rest last reached} (found : f.step? id = some step)
      (passes : effectOf f options now step s rolls = (.ok ⟨after, actions, .goto next⟩, rest))
      (comes : Comes f options now left after rest next last reached) :
      Comes f options now (left + 1) s rolls (some id) last reached

theorem walk_fails {left : Nat} {s : Session} {rolls : List Float} {start : Option String} :
    (walk f options now left s rolls start).1 = .error fault ↔
      ∃ step reached, Comes f options now left s rolls start step reached ∧
        Fails options now step reached.vars fault := by
  constructor
  · intro failed
    induction left generalizing s rolls start with
    | zero => cases start <;> cases failed
    | succ left ih =>
      cases start with
      | none => cases failed
      | some id =>
        cases found : f.step? id with
        | none =>
          simp only [walk, found] at failed
          cases failed
        | some step =>
          rcases done : effectOf f options now step s rolls with ⟨e | ⟨after, actions, onward⟩, rest⟩
          · simp only [walk, found, done] at failed
            cases failed
            exact ⟨step, s, .here found, fails_of_effectOf (congrArg Prod.fst done)⟩
          · cases onward with
            | stop directive =>
              simp only [walk, found, done] at failed
              cases failed
            | goto next =>
              simp only [walk, found, done] at failed
              obtain ⟨last, reached, comes, fails⟩ := ih (map_fails.mp failed)
              exact ⟨last, reached, .onward found done comes, fails⟩
  · rintro ⟨step, reached, comes, fails⟩
    induction comes with
    | @here left s rolls id step found =>
      have failed := fails.effectOf (f := f) rolls
      rcases done : effectOf f options now step s rolls with ⟨e | effect, rest⟩ <;> rw [done] at failed <;> cases failed
      simp only [walk, found, done]
    | onward found passes comes ih =>
      simp only [walk, found, passes]
      exact map_fails.mpr (ih fails)

theorem run_fails {s : Session} {rolls : List Float} {start : Option String} :
    (run f options now s rolls start).1 = .error fault ↔
      ∃ step reached, Comes f options now options.maxSteps s.fresh rolls start step reached ∧
        Fails options now step reached.vars fault := by
  rw [← walk_fails]
  exact map_fails

/-- The variables that the counters of rotators are not kept in are as they were. -/
def SameBesideCounts (vars after : Fields) : Prop :=
  ∀ key, (∀ id, key ≠ Rotator.counterKey id) → after.get? key = vars.get? key

theorem comes_vars {left : Nat} {s reached : Session} {rolls : List Float} {start : Option String} {step : Step}
    (comes : Comes f options now left s rolls start step reached) : SameBesideCounts s.vars reached.vars := by
  induction comes with
  | here found => exact fun key other => rfl
  | @onward _ _ _ _ passed _ _ _ _ _ _ found passes comes ih =>
    intro key other
    rw [ih key other]
    rcases effectOf_vars passes with ⟨_, same⟩ | ⟨_, count, _, same⟩
    · rw [same]
    · rw [same, Fields.get?_set, if_neg (other passed.id).symm]

/-- A step that fails is the last one of a trail. -/
theorem last_of_fails {left : Nat} {s reached : Session} {rolls : List Float} {start : Option String}
    {step : Step} (comes : Comes f options now left s rolls start step reached)
    (fails : Fails options now step reached.vars fault) :
    (trail f options now left s rolls start).2 = .stopped ∧
    (trail f options now left s rolls start).1.getLast? = some step := by
  induction comes with
  | @here _ s rolls _ step found =>
    have failed := fails.effectOf (f := f) rolls
    rcases done : effectOf f options now step s rolls with ⟨e | effect, rest⟩ <;> rw [done] at failed <;> cases failed
    simp only [trail, found, done, List.getLast?_singleton, and_self]
  | onward found passes comes ih =>
    obtain ⟨stopped, last⟩ := ih fails
    simp only [trail, found, passes, stopped, List.getLast?_cons, last, Option.getD_some, and_self]

theorem Fails.undiagnosed {step : Step} (fails : Fails options now step vars fault) :
    Halt.diagnostic? options .stopped (some step) = none := by
  cases fails with
  | text filled asks =>
    cases body : step.body <;> rw [body] at filled <;> simp only [Halt.diagnostic?, Option.map_some, body]
    all_goals cases filled
  | wait body | clock body | tags body | count body | lot body => simp only [Halt.diagnostic?, Option.map_some, body]

def tagged (tags : Value) : Session := { newcomer sorting with vars := [("tags", tags)] }

/-- A run fails exactly if it comes to a step that fails over one of the things that steps can fail over, and the
variables that it finds there are those that the session had, but for counters. A run that ends because the flow has no
such step, or one that cannot be read, or no agent, or too many steps, returns a session that is completed and says so. -/
theorem run_fails_only_for_cause (f : Flow) (options : RunOptions) (now : Instant) (s : Session) (rolls : List Float)
    (start : Option String) :
    let walked := trail f options now options.maxSteps s.fresh rolls start
    (∀ fault, (run f options now s rolls start).1 = .error fault ↔
      ∃ step reached, Comes f options now options.maxSteps s.fresh rolls start step reached ∧
        SameBesideCounts s.vars reached.vars ∧ Fails options now step reached.vars fault) ∧
    ∀ diagnostic, walked.2.diagnostic? options walked.1.getLast? = some diagnostic →
      ∃ r, (run f options now s rolls start).1 = .ok r ∧ r.session.status = .completed ∧
        r.session.diagnostic = some diagnostic.name := by
  intro walked
  refine ⟨fun fault => ?_, ?_⟩
  · rw [run_fails]
    constructor
    · rintro ⟨step, reached, comes, fails⟩
      have kept : SameBesideCounts s.fresh.vars reached.vars := comes_vars comes
      exact ⟨step, reached, comes, kept, fails⟩
    · rintro ⟨step, reached, comes, _, fails⟩
      exact ⟨step, reached, comes, fails⟩
  · intro diagnostic told
    rcases ran : run f options now s rolls start with ⟨fault | r, rest⟩
    · obtain ⟨step, reached, comes, fails⟩ := run_fails.mp (congrArg Prod.fst ran)
      obtain ⟨stopped, last⟩ := last_of_fails comes fails
      rw [stopped, last, fails.undiagnosed] at told
      cases told
    · obtain ⟨⟨ending, fits⟩, said⟩ := run_fits ran
      rw [told] at said
      refine ⟨r, rfl, ?_, said⟩
      cases ending with
      | completed => exact fits.1
      | asking =>
        obtain ⟨_, _, parked, _⟩ := fits
        rw [parked.sound] at said
        cases said
      | waiting =>
        obtain ⟨_, _, _, parked, _⟩ := fits
        rw [parked.sound] at said
        cases said
      | handed =>
        obtain ⟨_, _, _, parked, _⟩ := fits
        rw [parked.sound] at said
        cases said

theorem sorting_with_number_fails :
    ∃ step reached, Comes sorting { zone := Zone.utc } ⟨5, 0⟩ 50 (tagged (.int 5)).fresh [] (some "begin") step reached ∧
      SameBesideCounts [("tags", .int 5)] reached.vars ∧ Fails { zone := Zone.utc } ⟨5, 0⟩ step reached.vars .wrongType := by
  have failed : (run sorting { zone := Zone.utc } ⟨5, 0⟩ (tagged (.int 5)) [] (some "begin")).1 = .error .wrongType := by
    rfl
  exact ((run_fails_only_for_cause sorting { zone := Zone.utc } ⟨5, 0⟩ (tagged (.int 5)) [] (some "begin")).1 .wrongType).mp failed

theorem accepted_flow_fails_over_number_for_tags :
    ¬ ∀ given f : Flow, given.load = .ok f → ∀ options now s rolls,
      ∃ r rest, run f options now s rolls (f.startStep?.map Step.id) = (.ok r, rest) := by
  intro returns
  have accepted : sorting.load = .ok sorting := by cbv
  obtain ⟨r, rest, ran⟩ := returns sorting sorting accepted { zone := Zone.utc } ⟨5, 0⟩ (tagged (.int 5)) []
  have failed : (run sorting { zone := Zone.utc } ⟨5, 0⟩ (tagged (.int 5)) [] (sorting.startStep?.map Step.id)).1 = .error .wrongType := by
    rfl
  rw [ran] at failed
  cases failed

/-- What has to be so for no step of a flow to fail: waits end within the calendar, the clock can be told, lots can be
drawn, and the variables hold nothing that cannot be read as tags, counted with or written. No text asks for a counter,
which might become too long. -/
structure Spared (f : Flow) (options : RunOptions) (now : Instant) (vars : Fields) : Prop where
  waits : ∀ step ∈ f.steps, ∀ c, step.body = .wait c → ∀ e, now.addSeconds c.seconds ≠ .error e
  clock : ∀ e, now.inZone options.zone ≠ .error e
  lots : ∀ step ∈ f.steps, ∀ c, step.body = .rotator c → c.sequential = false → ¬ Endless c.options
  tags : ∀ tags, vars.get? "tags" = some tags → ∀ fault, ¬ Untellable tags fault
  counts : ∀ id count, vars.get? (Rotator.counterKey id) = some count → ∀ fault, ¬ Uncountable count fault
  texts : ∀ step ∈ f.steps, ∀ text ∈ textsOf step.body, ¬ AsksUnwritable vars text
  unasked : ∀ step ∈ f.steps, ∀ text ∈ textsOf step.body, ∀ source key,
    .placeholder source key ∈ Template.pieces text.toList → ∀ id, String.ofList key ≠ Rotator.counterKey id

theorem tags_ne_counterKey (id : String) : "tags" ≠ Rotator.counterKey id := by
  intro same
  have letters := congrArg String.toList same
  simp [Rotator.counterKey] at letters

theorem Spared.count (spared : Spared f options now vars) (id : String) (count : Int) :
    Spared f options now (vars.set (Rotator.counterKey id) (.int count)) where
  waits := spared.waits
  clock := spared.clock
  lots := spared.lots
  unasked := spared.unasked
  tags tags given := by
    rw [Fields.get?_set, if_neg (tags_ne_counterKey id).symm] at given
    exact spared.tags tags given
  counts other value given := by
    rw [Fields.get?_set] at given
    split at given
    · cases given
      exact fun fault uncountable => by cases uncountable
    · exact spared.counts other value given
  texts step member text filled := by
    rintro ⟨source, key, value, piece, given, long⟩
    rw [Fields.get?_set, if_neg (spared.unasked step member text filled source key piece id).symm] at given
    exact spared.texts step member text filled ⟨source, key, value, piece, given, long⟩

theorem Spared.never {step : Step} (spared : Spared f options now vars) (found : f.step? step.id = some step) :
    ¬ Fails options now step vars fault := by
  have member : step ∈ f.steps := List.mem_of_find?_eq_some found
  intro fails
  cases fails with
  | text filled asks => exact spared.texts step member _ filled asks
  | wait body unreached => exact spared.waits step member _ body _ unreached
  | clock body untold => exact spared.clock _ untold
  | tags body told inside asks given untellable => exact spared.tags _ given _ untellable
  | count body branches inTurn given uncountable => exact spared.counts _ _ given _ uncountable
  | lot body branches byLot endless => exact spared.lots step member _ body byLot endless

/-- The induction is on the way that the walk takes: what the steps before it leave spares the step that it comes to. -/
theorem Spared.comes {left : Nat} {s reached : Session} {rolls : List Float} {start : Option String} {step : Step}
    (spared : Spared f options now s.vars) (comes : Comes f options now left s rolls start step reached) :
    Spared f options now reached.vars ∧ f.step? step.id = some step := by
  induction comes with
  | here found => exact ⟨spared, step?_self found⟩
  | onward found passes comes ih =>
    refine ih ?_
    rcases effectOf_vars passes with ⟨_, same⟩ | ⟨_, count, _, same⟩
    · rw [same]
      exact spared
    · rw [same]
      exact spared.count _ (count + 1)

/-- Runs that are spared always return. -/
theorem spared_run_returns {s : Session} (spared : Spared f options now s.vars) (rolls : List Float)
    (start : Option String) : ∃ r, (run f options now s rolls start).1 = .ok r := by
  cases ran : (run f options now s rolls start).1 with
  | ok r => exact ⟨r, rfl⟩
  | error fault =>
    obtain ⟨step, reached, comes, fails⟩ := run_fails.mp ran
    have begun : Spared f options now s.fresh.vars := spared
    obtain ⟨spared, found⟩ := begun.comes comes
    exact absurd fails (spared.never found)

end Chatflow.Proofs.FailingRuns
