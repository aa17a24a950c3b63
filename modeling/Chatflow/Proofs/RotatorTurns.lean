import Chatflow.Proofs.RunFrames
import Chatflow.Proofs.StepVisits
import Mathlib.Data.Int.CardIntervalMod

/-! The turns of rotators. A rotator that takes its branches in turn keeps its count with the session, so that it goes on
where it was, however often it is taken in one run and however the runs of the session are parted by replies and waits. -/

namespace Chatflow.Proofs.RotatorTurns
open Interpreter StepEffects RunEndings StepVisits RunFrames

/-- The step that an id stands for is a rotator that takes its branches in turn. -/
structure Rotates (f : Flow) (step : Step) (c : RotatorConfig) : Prop where
  found : f.step? step.id = some step
  body : step.body = .rotator c
  inTurn : c.sequential = true
  any : c.options ≠ []

/-- A visit of a rotator goes along the branch of the option of a number. -/
def Chooses (f : Flow) (step : Step) (c : RotatorConfig) (v : Visit) (number : Nat) : Prop :=
  ∃ o, c.options[number]? = some o ∧ v.effect.onward = .goto (branchTarget f step.id (some o))

/-- Visits of a rotator, from what its counter stands at before them to what it stands at after them: each goes along the
branch whose turn it is and counts on. -/
inductive TakesTurns (f : Flow) (step : Step) (c : RotatorConfig) : Option Value → List Visit → Option Value → Prop where
  | none (stored : Option Value) : TakesTurns f step c stored [] stored
  | turn {stored count v vs last} (read : Rotator.counterValue stored = .ok count)
      (chooses : Chooses f step c v (count % c.options.length).toNat)
      (onward : TakesTurns f step c (some (.int (count + 1))) vs last) : TakesTurns f step c stored (v :: vs) last

/-- A session through runs of a flow, with the steps that they take. An answer may be recorded before a run, and anything may
happen to the session between runs, as long as one of its variables stays as it is. A run that fails leaves no session behind,
so that the next one starts from the session before. -/
inductive History (f : Flow) (key : String) : Session → List Visit → Session → Prop where
  | begins (s : Session) : History f key s [] s
  | ran {first vs s options now rolls rest start r} (before : History f key first vs s)
      (ran : run f options now s rolls start = (.ok r, rest)) :
      History f key first (vs ++ visits f options now options.maxSteps s.fresh rolls start) r.session
  | replied {first vs s options now rolls rest stepId reply next optionId r} (before : History f key first vs s)
      (apart : ¬ KeepsUnder f stepId key)
      (ran : continueFromReply f options now s rolls stepId reply next optionId = (.ok r, rest)) :
      History f key first (vs ++ visits f options now options.maxSteps
        { s.fresh with vars := recordAnswer f stepId (answerAt f stepId reply optionId) s.vars } rolls next) r.session
  | left {first vs s other} (before : History f key first vs s) (kept : other.vars.get? key = s.vars.get? key) :
      History f key first vs other

variable {f : Flow} {options : RunOptions} {now : Instant} {s first last : Session} {rolls rest : List Float}
  {step : Step} {c : RotatorConfig} {v : Visit} {vs more : List Visit} {stored between final : Option Value} {count : Int}

/-- The numbers of the options that so many turns take, on from a count. -/
def turns (k : Nat) (count : Int) (n : Nat) : List Nat := (List.range n).map fun i : Nat => ((count + i) % k).toNat

theorem turns_succ (k : Nat) (count : Int) (n : Nat) :
    turns k count (n + 1) = (count % k).toNat :: turns k (count + 1) n := by
  simp only [turns, List.range_succ_eq_map, List.map_cons, List.map_map, Nat.cast_zero, Int.add_zero, Function.comp_def,
    Nat.succ_eq_add_one, Nat.cast_add, Nat.cast_one, Int.add_assoc, Int.add_comm 1]

theorem countP_range (p : Nat → Prop) [DecidablePred p] (n : Nat) : (List.range n).countP p = Nat.count p n := by
  induction n with
  | zero => rfl
  | succ n ih => simp [List.range_succ, Nat.count_succ, ih]

/-- Turns are dealt out evenly: each option gets its share of them, rounded down or up. -/
theorem count_turns {k j : Nat} (inside : j < k) (count : Int) (n : Nat) :
    (turns k count n).count j = n / k ∨ (turns k count n).count j = (n + k - 1) / k := by
  have positive : 0 < k := by omega
  have own : (j : Int) % k = j := Int.emod_eq_of_lt (by omega) (by omega)
  have ahead : 0 ≤ ((j : Int) - count) % k := Int.emod_nonneg _ (by omega)
  -- The option comes up in the turns whose numbers are congruent to what it lies ahead of the count.
  have hits (i : Nat) : ((count + i) % k).toNat = j ↔ i ≡ (((j : Int) - count) % k).toNat [MOD k] := by
    have turned : 0 ≤ (count + i) % k := Int.emod_nonneg _ (by omega)
    calc ((count + i) % k).toNat = j
      _ ↔ count + i ≡ j [ZMOD k] := by rw [Int.ModEq, own]; omega
      _ ↔ (i : Int) ≡ j - count [ZMOD k] := by rw [Int.modEq_iff_dvd, Int.modEq_iff_dvd, sub_sub]
      _ ↔ (i : Int) ≡ (j - count) % k [ZMOD k] :=
        ⟨fun same => same.trans (Int.mod_modEq _ _).symm, fun same => same.trans (Int.mod_modEq _ _)⟩
      _ ↔ i ≡ (((j : Int) - count) % k).toNat [MOD k] := by rw [← Int.natCast_modEq_iff, Int.toNat_of_nonneg ahead]
  have evenly : (turns k count n).count j = n / k +
      if (((j : Int) - count) % k).toNat % k < n % k then 1 else 0 := by
    rw [← Nat.count_modEq_card n positive, ← countP_range, List.count_eq_countP, turns, List.countP_map]
    apply List.countP_congr
    intro i _
    simp [hits i]
  rw [evenly]
  split
  next short =>
    have whole := Nat.div_add_mod' n k
    have next := Nat.add_one_mul (n / k) k
    have rest := Nat.mod_lt n positive
    exact Or.inr ((Nat.div_eq_iff positive).mpr (by constructor <;> omega)).symm
  next => exact Or.inl rfl

theorem TakesTurns.append (before : TakesTurns f step c stored vs between) (after : TakesTurns f step c between more final) :
    TakesTurns f step c stored (vs ++ more) final := by
  induction before with
  | none => exact after
  | turn read chooses _ ih => exact .turn read chooses (ih after)

theorem TakesTurns.numbers (takes : TakesTurns f step c stored vs final) (read : Rotator.counterValue stored = .ok count) :
    List.Forall₂ (Chooses f step c) vs (turns c.options.length count vs.length) ∧
    Rotator.counterValue final = .ok (count + vs.length) := by
  induction takes generalizing count with
  | none => exact ⟨.nil, by rw [read, List.length_nil, Nat.cast_zero, Int.add_zero]⟩
  | turn here chooses _ ih =>
    obtain rfl := Except.ok.inj (here.symm.trans read)
    obtain ⟨chosen, stands⟩ := ih (counterValue_int _)
    rw [List.length_cons, turns_succ]
    refine ⟨.cons chooses chosen, ?_⟩
    rw [stands, Nat.cast_succ, Int.add_assoc, Int.add_comm 1]

/-- A rotator is only taken where its counter can be read. -/
theorem TakesTurns.readable (takes : TakesTurns f step c stored vs final) (taken : vs ≠ []) :
    ∃ count, Rotator.counterValue stored = .ok count := by
  cases takes with
  | none => exact absurd rfl taken
  | turn read => exact ⟨_, read⟩

theorem Rotates.effect {effect : Effect} (rotates : Rotates f step c)
    (done : effectOf f options now step s rolls = (.ok effect, rest)) :
    ∃ count, Rotator.counterValue (s.vars.get? (Rotator.counterKey step.id)) = .ok count ∧
      effect.session.vars = s.vars.set (Rotator.counterKey step.id) (.int (count + 1)) ∧
      effect.onward = .goto (branchTarget f step.id (Rotator.turn c.options count)) := by
  simp only [effectOf, rotates.body, rotatorEffect, rotates.inTurn, if_true, List.isEmpty_iff, rotates.any,
    if_false] at done
  split at done <;> cases done
  next count read => exact ⟨count, read, rfl, rfl⟩

theorem Rotates.turn (rotates : Rotates f step c) (taken : v.Taken f options now) (own : v.step.id = step.id) :
    ∃ count, Rotator.counterValue (v.before.vars.get? (Rotator.counterKey step.id)) = .ok count ∧
      Chooses f step c v (count % c.options.length).toNat ∧
      v.effect.session.vars.get? (Rotator.counterKey step.id) = some (.int (count + 1)) := by
  obtain ⟨rolls, rest, done⟩ := taken.done
  have same : v.step = step := by
    have found := taken.found
    rw [own, rotates.found] at found
    exact (Option.some.inj found).symm
  rw [same] at done
  obtain ⟨count, read, vars, onward⟩ := rotates.effect done
  have inside : (count % c.options.length).toNat < c.options.length := by
    have positive := List.length_pos_iff.mpr rotates.any
    have below := Int.emod_lt_of_pos count (Int.natCast_pos.mpr positive)
    omega
  have chosen := List.getElem?_eq_getElem inside
  refine ⟨count, read, ⟨_, chosen, ?_⟩, ?_⟩
  · rw [onward, Rotator.turn, chosen]
  · rw [vars, Fields.get?_set, if_pos rfl]

theorem kept_elsewhere (taken : v.Taken f options now) (other : v.step.id ≠ step.id) :
    v.effect.session.vars.get? (Rotator.counterKey step.id) = v.before.vars.get? (Rotator.counterKey step.id) := by
  obtain ⟨rolls, rest, done⟩ := taken.done
  rcases effectOf_vars done with ⟨_, same⟩ | ⟨_, count, _, same⟩ <;> rw [same]
  rw [Fields.get?_set, if_neg fun key => other (counterKey_inj key)]

/-- The visits among some that are visits of a step. -/
abbrev visitsOf (step : Step) (vs : List Visit) : List Visit := vs.filter fun v => v.step.id = step.id

theorem Chain.takesTurns (rotates : Rotates f step c) (chain : Chain f options now s vs last) :
    TakesTurns f step c (s.vars.get? (Rotator.counterKey step.id)) (visitsOf step vs)
      (last.vars.get? (Rotator.counterKey step.id)) := by
  induction chain with
  | nil => exact .none _
  | @cons v vs last taken _ ih =>
    by_cases own : v.step.id = step.id
    · obtain ⟨count, read, chooses, stands⟩ := rotates.turn taken own
      rw [visitsOf, List.filter_cons_of_pos (by simpa using own)]
      rw [stands] at ih
      exact .turn read chooses ih
    · rw [visitsOf, List.filter_cons_of_neg (by simpa using own), ← kept_elsewhere taken own]
      exact ih

theorem run_takesTurns {start : Option String} {r : RunResult} (rotates : Rotates f step c)
    (ran : run f options now s rolls start = (.ok r, rest)) :
    TakesTurns f step c (s.vars.get? (Rotator.counterKey step.id))
      (visitsOf step (visits f options now options.maxSteps s.fresh rolls start))
      (r.session.vars.get? (Rotator.counterKey step.id)) := by
  obtain ⟨last, chain, vars⟩ := visits_chain f options now options.maxSteps s.fresh rolls start
  rcases walked : walk f options now options.maxSteps s.fresh rolls start with ⟨_ | ended, remaining⟩ <;>
    simp only [run, walked, Except.map] at ran <;> cases ran
  have takes := Chain.takesTurns rotates chain
  rwa [← (vars _ _ walked : ended.session.vars = last.vars)] at takes

theorem counterKey_ne_last_reply (id : String) : Rotator.counterKey id ≠ "last_reply" := by
  intro same
  have letters := congrArg String.toList same
  simp [Rotator.counterKey] at letters

theorem History.takesTurns (rotates : Rotates f step c) (history : History f (Rotator.counterKey step.id) first vs last) :
    TakesTurns f step c (first.vars.get? (Rotator.counterKey step.id)) (visitsOf step vs)
      (last.vars.get? (Rotator.counterKey step.id)) := by
  induction history with
  | begins => exact .none _
  | ran _ ran ih =>
    rw [visitsOf, List.filter_append]
    exact ih.append (run_takesTurns rotates ran)
  | @replied _ s _ _ _ _ stepId reply _ optionId _ _ apart ran ih =>
    have recorded := (recordAnswer_answered f stepId (answerAt f stepId reply optionId) s.vars).others _
      (counterKey_ne_last_reply step.id) apart
    rw [visitsOf, List.filter_append]
    refine ih.append ?_
    rw [← recorded]
    exact run_takesTurns rotates ran
  | left _ kept ih => rwa [kept]

/-- A rotator that takes its branches in turn is fair. However often it is taken through the runs, replies and waits of a
session, while nothing else sets its counter, the options are chosen one after another, on from what the counter stood at and
round again; the counter then stands at one more for each time, and each option has been chosen its share of the times, rounded
down or up. So it goes on in the next run, also if that one fails. The rotator is never taken where its counter cannot be
read. -/
theorem rotator_takes_turns_fairly (rotates : Rotates f step c)
    (history : History f (Rotator.counterKey step.id) first vs last) :
    let k := c.options.length
    let n := (visitsOf step vs).length
    (visitsOf step vs ≠ [] → ∃ count, Rotator.counterValue (first.vars.get? (Rotator.counterKey step.id)) = .ok count) ∧
    ∀ count, Rotator.counterValue (first.vars.get? (Rotator.counterKey step.id)) = .ok count →
      List.Forall₂ (Chooses f step c) (visitsOf step vs) (turns k count n) ∧
      Rotator.counterValue (last.vars.get? (Rotator.counterKey step.id)) = .ok (count + n) ∧
      (∀ j < k, (turns k count n).count j = n / k ∨ (turns k count n).count j = (n + k - 1) / k) ∧
      ∀ options now rolls start,
        let next := visitsOf step (visits f options now options.maxSteps last.fresh rolls start)
        List.Forall₂ (Chooses f step c) next (turns k (count + n) next.length) := by
  have takes := history.takesTurns rotates
  refine ⟨takes.readable, fun count read => ?_⟩
  obtain ⟨chosen, stands⟩ := takes.numbers read
  refine ⟨chosen, stands, fun j inside => count_turns inside count _, fun options now rolls start => ?_⟩
  obtain ⟨_, chain, _⟩ := visits_chain f options now options.maxSteps last.fresh rolls start
  exact ((Chain.takesTurns rotates chain).numbers stands).1

def pick : RotatorConfig :=
  { sequential := true, options := [{ id := "a", weight := 1.0 }, { id := "b", weight := 1.0 }] }

/-- A flow that hands conversations to two people in turn; one of them hands them on. -/
def desk : Flow :=
  { id := "desk",
    steps := [⟨"begin", .start none⟩, ⟨"pick", .rotator pick⟩, ⟨"rosa", .assign { agentId := some "rosa" }⟩,
      ⟨"bruno", .assign { agentId := some "bruno" }⟩],
    connections := [⟨"c1", "begin", "pick", none, none⟩, ⟨"c2", "pick", "rosa", some "a", none⟩,
      ⟨"c3", "pick", "bruno", some "b", none⟩, ⟨"c4", "rosa", "pick", none, none⟩] }

def thirdTurn : Session := { newcomer desk with vars := [("__rotator__pick", .str "3")] }

theorem desk_takes_turns : ∃ vs last, History desk (Rotator.counterKey "pick") thirdTurn vs last ∧
    List.Forall₂ (Chooses desk ⟨"pick", .rotator pick⟩ pick) (visitsOf ⟨"pick", .rotator pick⟩ vs) [1, 0, 1] ∧
    last.vars = [("__rotator__pick", .int 6)] := by
  have rotates : Rotates desk ⟨"pick", .rotator pick⟩ pick := ⟨rfl, rfl, rfl, by decide⟩
  have once : History desk (Rotator.counterKey "pick") thirdTurn _ _ :=
    .ran (.begins thirdTurn) (rfl : run desk {} ⟨5, 0⟩ thirdTurn [] (some "begin") = (.ok _, []))
  have twice : History desk (Rotator.counterKey "pick") thirdTurn _ _ :=
    .ran once (rfl : run desk {} ⟨6, 0⟩ _ [] (some "begin") = (.ok _, []))
  exact ⟨_, _, twice, ((rotator_takes_turns_fairly rotates twice).2 3 rfl).1, rfl⟩

end Chatflow.Proofs.RotatorTurns
