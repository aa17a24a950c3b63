import Chatflow.Proofs.FailingRuns

/-! Branches of conditions. Whether a rule holds can be told or not: it takes tags, the name of a day or a time of the day. Of
a rule that can be told and its opposite exactly one holds, and otherwise neither does. Conditions of such rules pick a branch,
unless what stands in the place of the tags is nothing that tags can be read from. -/

namespace Chatflow.Proofs.ConditionBranches
open Condition Text FailingRuns

def opposite (rule : ConditionRule) : ConditionRule := { rule with negated := !rule.negated }

/-- The labels that are given as tags. -/
def labels : Value → List String
  | .str s => split ',' s
  | .list items => items.map Value.display
  | .obj fields => fields.map (·.1)
  | _ => []

/-- A text tells a time of the day. What follows a second colon is of no account. -/
def IsTime (text : String) (hour minute : Nat) : Prop :=
  ∃ hours minutes more, split ':' (trim text) = hours :: minutes :: more ∧ Decimal.readWhole hours.toList = .ok hour ∧
    Decimal.readWhole minutes.toList = .ok minute ∧ hour < 24 ∧ minute < 60

/-- It can be told whether a rule holds. -/
def Evaluable (rule : ConditionRule) (vars : Fields) : Prop :=
  match rule.kind with
  | .tag => ∃ tags, vars.get? "tags" = some tags ∧ tags ≠ .null
  | .weekday => ∃ day, (fold rule.value, day) ∈ weekdays
  | .time => ∃ hour minute, IsTime rule.value hour minute

/-- What a rule asks for, leaving aside whether it asks for the opposite: that the contact has a tag, that it is some day of
the week, or that it is some time of the day or later. -/
def Meets (rule : ConditionRule) (vars : Fields) (now : Civil) : Prop :=
  match rule.kind with
  | .tag => ∃ tags label, vars.get? "tags" = some tags ∧ label ∈ labels tags ∧ trim label ≠ "" ∧ fold label = fold rule.value
  | .weekday => (fold rule.value, now.weekday) ∈ weekdays
  | .time => ∃ hour minute, IsTime rule.value hour minute ∧ (hour < now.hour ∨ hour = now.hour ∧ minute ≤ now.minute)

variable {rule : ConditionRule} {vars : Fields} {now : Civil} {config : ConditionConfig}

theorem mem_foldTags {texts : List String} {tag : String} :
    tag ∈ foldTags texts ↔ ∃ label ∈ texts, trim label ≠ "" ∧ fold label = tag := by
  simp only [foldTags, List.mem_map, List.mem_filter, bne_iff_ne, and_assoc]

theorem contactTags_ok {told : Option (List String)} (read : contactTags vars = .ok told) :
    (told = none ∧ ∀ tags, vars.get? "tags" = some tags → tags = .null) ∨
      ∃ tags, vars.get? "tags" = some tags ∧ tags ≠ .null ∧ told = some (foldTags (labels tags)) := by
  unfold contactTags at read
  split at read
  next missing =>
    cases read
    exact Or.inl ⟨rfl, fun tags given => absurd (missing.symm.trans given) nofun⟩
  next null =>
    cases read
    exact Or.inl ⟨rfl, fun tags given => Option.some.inj (given.symm.trans null)⟩
  next given =>
    cases read
    exact Or.inr ⟨_, given, nofun, rfl⟩
  next given =>
    split at read <;> cases read
    exact Or.inr ⟨_, given, nofun, rfl⟩
  next given =>
    cases read
    exact Or.inr ⟨_, given, nofun, rfl⟩
  next => cases read

theorem find?_weekdays {name : String} {day : Nat} :
    (weekdays.find? fun entry => entry.1 == name).map (·.2) = some day ↔ (name, day) ∈ weekdays := by
  have single : ∀ a ∈ weekdays, ∀ b ∈ weekdays, a.1 = b.1 → a = b := by decide
  cases found : weekdays.find? fun entry => entry.1 == name with
  | none =>
    refine ⟨nofun, fun member => ?_⟩
    exact absurd (beq_self_eq_true name) (List.find?_eq_none.mp found _ member)
  | some entry =>
    have listed := List.mem_of_find?_eq_some found
    have named := List.find?_some found
    rw [beq_iff_eq] at named
    constructor
    · rintro same
      cases same
      rw [← named]
      exact listed
    · intro member
      rw [single entry listed _ member named]
      rfl

theorem timeOfDay?_eq_some {text : String} {hour minute : Nat} :
    timeOfDay? text = some (hour, minute) ↔ IsTime text hour minute := by
  unfold timeOfDay? IsTime
  rcases split ':' (trim text) with _ | ⟨hours, _ | ⟨minutes, more⟩⟩
  · simp
  · simp
  · simp only [List.take_succ_cons, List.take_zero, List.cons.injEq]
    constructor
    · intro told
      split at told
      next h m readHours readMinutes =>
        split at told
        next range =>
          cases told
          exact ⟨_, _, _, ⟨rfl, rfl, rfl⟩, by rw [readHours, Int.toNat_of_nonneg range.1],
            by rw [readMinutes, Int.toNat_of_nonneg range.2.2.1], by omega, by omega⟩
        next => cases told
      next => cases told
    · rintro ⟨_, _, _, ⟨rfl, rfl, rfl⟩, readHours, readMinutes, early, within⟩
      rw [readHours, readMinutes]
      dsimp only
      rw [if_pos (by omega), Int.toNat_natCast, Int.toNat_natCast]

/-- What a rule asks for is told exactly if it can be told, and it is told truly. -/
theorem positive_ok {told : Option Bool} (answered : positive rule vars now = .ok told) :
    (told.isSome ↔ Evaluable rule vars) ∧ (told = some true ↔ Meets rule vars now) := by
  unfold positive at answered
  unfold Evaluable Meets
  cases kind : rule.kind with
  | tag =>
    rw [kind] at answered
    dsimp only at answered ⊢
    obtain ⟨tags, read, mapped⟩ := WorkLogic.produced_of_ok answered
    obtain rfl := Except.ok.inj mapped
    rw [Option.isSome_map]
    rcases contactTags_ok read with ⟨rfl, absent⟩ | ⟨given, known, present, rfl⟩
    · refine ⟨⟨nofun, ?_⟩, nofun, ?_⟩
      · rintro ⟨tags, known, present⟩
        exact absurd (absent tags known) present
      · rintro ⟨tags, label, known, listed, _⟩
        rw [absent tags known] at listed
        cases listed
    · refine ⟨⟨fun _ => ⟨given, known, present⟩, fun _ => rfl⟩, ?_⟩
      rw [Option.map_some, Option.some.injEq, List.contains_iff_mem, mem_foldTags]
      constructor
      · rintro ⟨label, listed, filled, same⟩
        exact ⟨given, label, known, listed, filled, same⟩
      · rintro ⟨tags, label, known', listed, filled, same⟩
        cases known.symm.trans known'
        exact ⟨label, listed, filled, same⟩
  | weekday =>
    rw [kind] at answered
    obtain rfl := Except.ok.inj answered
    dsimp only
    have named : ∀ day, weekday? rule.value = some day ↔ (fold rule.value, day) ∈ weekdays := fun day => find?_weekdays
    rw [Option.isSome_map, Option.isSome_iff_exists, exists_congr named, ← named, Option.map_eq_some_iff]
    refine ⟨Iff.rfl, ⟨?_, fun known => ⟨now.weekday, known, beq_self_eq_true _⟩⟩⟩
    rintro ⟨day, known, today⟩
    rw [known, eq_of_beq today]
  | time =>
    rw [kind] at answered
    obtain rfl := Except.ok.inj answered
    dsimp only
    rw [Option.isSome_map, Option.isSome_iff_exists, Prod.exists]
    refine ⟨exists₂_congr fun hour minute => timeOfDay?_eq_some, ?_⟩
    rw [Option.map_eq_some_iff, Prod.exists]
    refine exists₂_congr fun hour minute => ?_
    rw [timeOfDay?_eq_some]
    simp

/-- What a rule and its opposite come to. -/
structure Sides (rule : ConditionRule) (vars : Fields) (now : Civil) (told opposed : Bool) : Prop where
  opposes : Evaluable rule vars → opposed = !told
  neither : ¬ Evaluable rule vars → told = false ∧ opposed = false
  meets : told = true ↔ Evaluable rule vars ∧ (rule.negated = false ↔ Meets rule vars now)

theorem ruleHolds_ok {told : Bool} (answered : ruleHolds rule vars now = .ok told) :
    ∃ opposed, ruleHolds (opposite rule) vars now = .ok opposed ∧ Sides rule vars now told opposed := by
  obtain ⟨met, asked, answered⟩ := WorkLogic.produced_of_ok answered
  have alike : positive (opposite rule) vars now = .ok met := asked
  obtain ⟨evaluable, meets⟩ := positive_ok asked
  cases met with
  | none =>
    have unknown : ¬ Evaluable rule vars := fun known => nomatch evaluable.mpr known
    cases answered
    refine ⟨false, ?_, fun known => absurd known unknown, fun _ => ⟨rfl, rfl⟩, nofun, fun both => absurd both.1 unknown⟩
    rw [ruleHolds, alike]
    rfl
  | some met =>
    have known : Evaluable rule vars := evaluable.mp rfl
    obtain rfl := Except.ok.inj answered
    refine ⟨_, ?_, fun _ => rfl, fun unknown => absurd known unknown, ?_⟩
    · rw [ruleHolds, alike]
      cases negated : rule.negated <;> cases met <;> simp [opposite, negated, bind, Except.bind, pure, Except.pure]
    · rw [← meets, and_iff_right known]
      cases rule.negated <;> cases met <;> simp

theorem mapM_ok {ε α : Type} {g : α → Except ε Bool} {items : List α} {results : List Bool}
    (done : items.mapM g = .ok results) :
    (results.any id = true ↔ ∃ item ∈ items, g item = .ok true) ∧
      (results.all id = true ↔ ∀ item ∈ items, g item = .ok true) := by
  induction items generalizing results with
  | nil =>
    cases done
    simp
  | cons item rest ih =>
    rw [List.mapM_cons] at done
    obtain ⟨first, told, done⟩ := WorkLogic.produced_of_ok done
    obtain ⟨others, later, done⟩ := WorkLogic.produced_of_ok done
    cases done
    obtain ⟨any, all⟩ := ih later
    simp [any, all, told]

/-- A condition holds if any of its rules does, or if it has rules and all of them do. -/
theorem holds_ok {met : Bool} (answered : holds config vars now = .ok met) :
    met = true ↔ if config.matchAny then ∃ rule ∈ config.rules, ruleHolds rule vars now = .ok true
      else config.rules ≠ [] ∧ ∀ rule ∈ config.rules, ruleHolds rule vars now = .ok true := by
  unfold holds combine at answered
  cases none : config.rules.isEmpty with
  | true =>
    rw [none] at answered
    cases answered
    simp [List.isEmpty_iff.mp none]
  | false =>
    rw [none, if_neg Bool.false_ne_true] at answered
    obtain ⟨results, done, answered⟩ := WorkLogic.produced_of_ok answered
    obtain ⟨any, all⟩ := mapM_ok done
    have some : config.rules ≠ [] := by
      rw [← List.isEmpty_eq_false_iff]
      exact none
    obtain rfl := Except.ok.inj answered
    rw [and_iff_right some]
    split
    · exact any
    · exact all

/-- A condition comes to an answer, unless it asks for tags and what stands in their place is nothing that tags can be read
from. The rules that come to an answer are told apart from their opposites where they can be told at all, and a condition goes
by its rules. -/
theorem condition_picks_branch_unless_tags_untellable (config : ConditionConfig) (vars : Fields) (now : Civil) :
    (∀ fault, holds config vars now = .error fault ↔
      (∃ rule ∈ config.rules, rule.kind = .tag) ∧ ∃ tags, vars.get? "tags" = some tags ∧ Untellable tags fault) ∧
    (∀ rule, (∀ fault, ruleHolds rule vars now = .error fault ↔
        rule.kind = .tag ∧ ∃ tags, vars.get? "tags" = some tags ∧ Untellable tags fault) ∧
      ∀ told, ruleHolds rule vars now = .ok told →
        ∃ opposed, ruleHolds (opposite rule) vars now = .ok opposed ∧ Sides rule vars now told opposed) ∧
    ∀ met, holds config vars now = .ok met →
      (met = true ↔ if config.matchAny then ∃ rule ∈ config.rules, ruleHolds rule vars now = .ok true
        else config.rules ≠ [] ∧ ∀ rule ∈ config.rules, ruleHolds rule vars now = .ok true) := by
  refine ⟨fun fault => ?_, fun rule => ⟨fun fault => ?_, fun told => ruleHolds_ok⟩, fun met => holds_ok⟩
  · rw [holds_fails, contactTags_fails]
  · rw [ruleHolds_fails, contactTags_fails]

theorem number_for_tags_picks_no_branch :
    ¬ ∀ (config : ConditionConfig) (vars : Fields) (now : Civil), ∃ met, holds config vars now = .ok met := by
  intro picks
  obtain ⟨met, picked⟩ := picks ⟨[⟨.tag, false, "vip"⟩], false⟩ [("tags", .int 5)] ⟨2024, 5, 6, 15, 0, 0, 0, 0⟩
  cases picked

end Chatflow.Proofs.ConditionBranches
