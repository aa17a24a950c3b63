import Chatflow.Proofs.RunEndings

/-! Limits of runs. How many steps a run may take tells only where it is cut off: up to there, it does what it would do
under a larger limit, and one that comes to its end before has nothing to gain from more. -/

namespace Chatflow.Proofs.StepLimits
open Interpreter RunEndings

variable {f : Flow} {options : RunOptions} {now : Instant} {s : Session} {rolls : List Float} {start : Option String}
  {m n : Nat} {short long : RunResult} {rest last : List Float}

/-- A walk that is cut off has taken all the steps that it may take. -/
theorem trail_exhausted (cut : (trail f options now n s rolls start).2 = .exhausted) :
    (trail f options now n s rolls start).1.length = n := by
  induction n generalizing s rolls start with
  | zero => cases start <;> rfl
  | succ n ih =>
    cases start with
    | none => cases cut
    | some id =>
      unfold trail at cut ⊢
      split at cut
      · cases cut
      · split at cut
        · exact congrArg Nat.succ (ih cut)
        · cases cut

/-- Unless it is cut off, a walk is the same if it may take more steps. The induction is on the smaller limit; at the step
that ends the walk, neither limit is looked at any more. -/
theorem walk_longer (order : m ≤ n) (whole : (trail f options now m s rolls start).2 ≠ .exhausted) :
    walk f options now n s rolls start = walk f options now m s rolls start := by
  induction m generalizing n s rolls start with
  | zero =>
    cases start with
    | none => cases n <;> rfl
    | some id => exact absurd rfl whole
  | succ m ih =>
    obtain ⟨n, rfl⟩ := Nat.exists_eq_succ_of_ne_zero (Nat.ne_zero_of_lt order)
    cases start with
    | none => rfl
    | some id =>
      cases found : f.step? id with
      | none => simp only [walk, found]
      | some step =>
        rcases done : effectOf f options now step s rolls with ⟨fault | ⟨after, actions, onward⟩, remaining⟩
        · simp only [walk, found, done]
        · cases onward with
          | stop directive => simp only [walk, found, done]
          | goto next =>
            simp only [trail, found, done] at whole
            simp only [walk, found, done, ih (Nat.le_of_succ_le_succ order) whole]

/-- What a walk has done when it ends or is cut off, it does first if it may take more steps. -/
theorem walk_prefix (order : m ≤ n) (walked : walk f options now m s rolls start = (.ok short, rest))
    (longer : walk f options now n s rolls start = (.ok long, last)) :
    short.actions <+: long.actions ∧ short.executed <+: long.executed := by
  induction m generalizing n s rolls start short long with
  | zero => cases start <;> cases walked <;> exact ⟨List.nil_prefix, List.nil_prefix⟩
  | succ m ih =>
    obtain ⟨n, rfl⟩ := Nat.exists_eq_succ_of_ne_zero (Nat.ne_zero_of_lt order)
    cases start with
    | none => cases walked; exact ⟨List.nil_prefix, List.nil_prefix⟩
    | some id =>
      cases found : f.step? id with
      | none =>
        simp only [walk, found] at walked
        cases walked
        exact ⟨List.nil_prefix, List.nil_prefix⟩
      | some step =>
        rcases done : effectOf f options now step s rolls with ⟨fault | ⟨after, actions, onward⟩, remaining⟩
        · simp only [walk, found, done] at walked
          cases walked
        · cases onward with
          | stop directive =>
            simp only [walk, found, done] at walked longer
            cases walked
            cases longer
            exact ⟨List.prefix_rfl, List.prefix_rfl⟩
          | goto next =>
            -- Both walks have done the same so far; what the rest adds is prefixed by the hypothesis.
            rcases few : walk f options now m after remaining next with ⟨_ | former, _⟩ <;>
              simp only [walk, found, done, few, Except.map] at walked <;> cases walked
            rcases more : walk f options now n after remaining next with ⟨_ | latter, _⟩ <;>
              simp only [walk, found, done, more, Except.map] at longer <;> cases longer
            obtain ⟨sent, taken⟩ := ih (Nat.le_of_succ_le_succ order) few more
            exact ⟨(List.prefix_append_right_inj actions).mpr sent, List.cons_prefix_cons.mpr ⟨rfl, taken⟩⟩

/-- A walk looks at its limit in nothing but the number of its steps. -/
theorem walk_limit (limit : Nat) :
    walk f { options with maxSteps := limit } now n s rolls start = walk f options now n s rolls start := by
  induction n generalizing s rolls start with
  | zero => cases start <;> rfl
  | succ n ih =>
    cases start with
    | none => rfl
    | some id =>
      have same : ∀ step, effectOf f { options with maxSteps := limit } now step s rolls =
          effectOf f options now step s rolls := fun _ => rfl
      simp only [walk, same, ih]

theorem trail_limit (limit : Nat) :
    trail f { options with maxSteps := limit } now n s rolls start = trail f options now n s rolls start := by
  induction n generalizing s rolls start with
  | zero => cases start <;> rfl
  | succ n ih =>
    cases start with
    | none => rfl
    | some id =>
      have same : ∀ step, effectOf f { options with maxSteps := limit } now step s rolls =
          effectOf f options now step s rolls := fun _ => rfl
      simp only [trail, same, ih]

/-- A run under a limit is a walk of so many steps, to whose result the time of the change is set. -/
theorem run_limit (limit : Nat) :
    run f { options with maxSteps := limit } now s rolls start =
      ((walk f options now limit s.fresh rolls start).1.map fun r =>
        { r with session := { r.session with updatedAt := now } },
        (walk f options now limit s.fresh rolls start).2) := by
  simp only [run, walk_limit]

theorem diagnostic_of_cut (ran : run f options now s rolls start = (.ok short, rest)) :
    short.session.diagnostic = some Diagnostic.stepLimit.name ↔
      (trail f options now options.maxSteps s.fresh rolls start).2 = .exhausted := by
  rw [(run_fits ran).2]
  cases (trail f options now options.maxSteps s.fresh rolls start).2 with
  | exhausted => exact iff_of_true rfl rfl
  | finished | lost => simp [Halt.diagnostic?, Diagnostic.name]
  | stopped =>
    simp only [Halt.diagnostic?, reduceCtorEq, iff_false]
    split
    · simp [Diagnostic.name]
    · simp [Diagnostic.name]
    · split <;> simp [Diagnostic.name]
    · simp

/-- A limit only cuts runs off. A run that does not end for having taken as many steps as it may is the same under every
larger limit, with all that it answers and the lots that it leaves; one that does has taken that many, and whatever
comes of a larger limit, it begins with what was done and sent so far. -/
theorem limit_only_cuts (order : m ≤ n)
    (ran : run f { options with maxSteps := m } now s rolls start = (.ok short, rest)) :
    (short.session.diagnostic ≠ some Diagnostic.stepLimit.name →
      run f { options with maxSteps := n } now s rolls start = (.ok short, rest)) ∧
    (short.session.diagnostic = some Diagnostic.stepLimit.name → short.executed.length = m ∧
      ∀ long last, run f { options with maxSteps := n } now s rolls start = (.ok long, last) →
        short.actions <+: long.actions ∧ short.executed <+: long.executed) := by
  have told := diagnostic_of_cut ran
  rw [trail_limit] at told
  rw [ne_eq, told]
  refine ⟨fun whole => ?_, fun cut => ⟨?_, fun long last longer => ?_⟩⟩
  · rw [← ran, run_limit, run_limit, walk_longer order whole]
  · obtain ⟨ended, rfl, executed, _⟩ := run_concludes ran
    rw [trail_limit] at executed
    show ended.executed.length = m
    rw [executed, List.length_map, trail_exhausted cut]
  · rw [run_limit] at ran longer
    rcases few : walk f options now m s.fresh rolls start with ⟨_ | former, _⟩ <;>
      simp only [few, Except.map] at ran <;> cases ran
    rcases more : walk f options now n s.fresh rolls start with ⟨_ | latter, _⟩ <;>
      simp only [more, Except.map] at longer <;> cases longer
    obtain ⟨sent, taken⟩ := walk_prefix order few more
    exact ⟨sent, taken⟩

/-- A flow that goes round, from handing its conversations to a human agent back to its beginning. -/
def roundabout : Flow :=
  { id := "round",
    steps := [⟨"begin", .start none⟩, ⟨"desk", .assign { agentKind := .human, agentId := some "ana" }⟩],
    connections := [⟨"c1", "begin", "desk", none, none⟩, ⟨"c2", "desk", "begin", none, none⟩] }

theorem roundabout_cut : ∃ short long,
    run roundabout { maxSteps := 3 } ⟨5, 0⟩ (newcomer roundabout) [] (some "begin") = (.ok short, []) ∧
    run roundabout { maxSteps := 5 } ⟨5, 0⟩ (newcomer roundabout) [] (some "begin") = (.ok long, []) ∧
    short.executed.length = 3 ∧ short.actions <+: long.actions ∧ short.executed <+: long.executed := by
  refine ⟨_, _, rfl, rfl, ?_⟩
  have ⟨_, cut⟩ := @limit_only_cuts roundabout {} ⟨5, 0⟩ (newcomer roundabout) [] (some "begin") 3 5 _ [] (by decide) rfl
  obtain ⟨taken, longer⟩ := cut rfl
  exact ⟨taken, longer _ [] rfl⟩

end Chatflow.Proofs.StepLimits
