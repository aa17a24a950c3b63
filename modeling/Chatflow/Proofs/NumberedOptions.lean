import Chatflow.Proofs.FailingRuns
import Chatflow.Proofs.ResolvedReplies

/-! The numbers of options. A step that offers a choice lists its options as buttons and as numbered lines, and whoever
replies with a number is taken to the branch of the option that stands beside it. In a flow that was let in every option
has a branch, so that no reply but a wrong one keeps a contact at such a step. -/

namespace Chatflow.Proofs.NumberedOptions
open Text Decimal Interpreter WorkLogic StepEffects RunEndings FlowPaths WellFormedFlows AcceptedFlows ResolvedReplies
  FailingRuns

variable {f : Flow} {step : Step} {style : ChoiceStyle} {c : ChoiceConfig} {vars : Fields}

/-- If no id is doubled, every step is the one that its id stands for. -/
theorem step?_of_mem (single : (f.steps.map Step.id).Nodup) (member : step ∈ f.steps) : f.step? step.id = some step := by
  obtain ⟨found, first⟩ := Option.isSome_iff_exists.mp
    (List.find?_isSome.mpr ⟨step, member, beq_self_eq_true step.id⟩ : (f.step? step.id).isSome = true)
  have same : found = step := List.inj_on_of_nodup_map single (List.mem_of_find?_eq_some first) member (step?_id first)
  rw [Flow.step?, first, same]

/-- A step of a flow offers a choice, and each of its options has a branch. -/
structure Offers (f : Flow) (step : Step) (c : ChoiceConfig) : Prop where
  found : f.step? step.id = some step
  body : ∃ style, step.body = .choice style c
  any : c.options ≠ []
  connected : ∀ o ∈ c.options, ∃ branch, f.connectionFor? step.id o.id = some branch

theorem offers_of_validate (clean : f.validate.errors = []) (member : step ∈ f.steps)
    (body : step.body = .choice style c) : Offers f step c := by
  have wellFormed := validate_clean_iff.mp clean
  have ruled := wellFormed.ruled step member
  simp only [MeetsRule, body] at ruled
  obtain ⟨any, connected⟩ := ruled
  refine ⟨step?_of_mem wellFormed.distinct member, ⟨style, body⟩, any, fun o offered => ?_⟩
  exact Option.isSome_iff_exists.mp (connectionFor?_isSome.mpr (connected o offered))

namespace Offers

theorem asks (offers : Offers f step c) : Reply.asksChoice step = true := by
  obtain ⟨style, body⟩ := offers.body
  cases style <;> simp [Reply.asksChoice, body, StepBody.kind?, ChoiceStyle.kind, StepKind.isChoice]

theorem options (offers : Offers f step c) : Reply.options step = c.options := by
  obtain ⟨style, body⟩ := offers.body
  simp only [Reply.options, body]

theorem leads (offers : Offers f step c) : f.outgoing step.id ≠ [] := by
  obtain ⟨o, rest, listed⟩ := List.exists_cons_of_ne_nil offers.any
  obtain ⟨branch, connected⟩ := offers.connected o (by rw [listed]; exact List.mem_cons_self)
  exact List.ne_nil_of_mem (connectionFor?_mem connected)

end Offers

/-- The option that a reply is the number of. -/
def numbered? (options : List ChoiceOption) (raw : String) : Option ChoiceOption :=
  if Reply.isNumber (normalize raw) then
    match readWhole (normalize raw).toList with
    | .ok n => Reply.optionAt? options n
    | .error _ => none
  else none

theorem numbered?_mem {options : List ChoiceOption} {raw : String} {o : ChoiceOption}
    (told : numbered? options raw = some o) : o ∈ options := by
  simp only [numbered?, Reply.optionAt?] at told
  split at told
  · split at told
    · split at told
      · exact List.mem_of_getElem? told
      · cases told
    · cases told
  · cases told

/-- The number of an option takes to its branch, and what is the number of none is looked for among the ids and words. -/
theorem Offers.resolve (offers : Offers f step c) {raw : String} (readable : ¬ Misnumbered (normalize raw)) :
    Reply.resolve f (some step.id) raw = .ok (((numbered? c.options raw).bind (Reply.follow? f step.id .optionIndex)).getD
      (((Reply.byId f step step.id raw).orElse fun _ =>
        (Reply.byKeyword f step step.id (normalize raw)).orElse fun _ => Reply.bySingle f step step.id).getD .noMatch)) := by
  have told : Reply.byIndex f step step.id (normalize raw) =
      .ok ((numbered? c.options raw).bind (Reply.follow? f step.id .optionIndex)) := by
    unfold Reply.byIndex numbered?
    rw [offers.asks, Bool.true_and, offers.options]
    split
    next number =>
      cases read : readWhole (normalize raw).toList with
      | ok n => rfl
      | error e =>
        have failed : ∃ fault, Reply.byIndex f step step.id (normalize raw) = .error fault := by
          refine ⟨.ofNumeral (normalize raw) e, ?_⟩
          simp only [Reply.byIndex, offers.asks, number, Bool.and_self, if_true, read]
        exact absurd ((byIndex_fails step step.id).mp failed).2 readable
    next => rfl
  simp only [Reply.resolve, Option.bind_some, offers.found, Option.map_some, List.isEmpty_iff, offers.leads, if_false, told]
  cases (numbered? c.options raw).bind (Reply.follow? f step.id .optionIndex) <;> rfl

theorem Offers.resolve_numbered (offers : Offers f step c) {raw : String} {o : ChoiceOption} {branch : Connection}
    (told : numbered? c.options raw = some o) (connected : f.connectionFor? step.id o.id = some branch) :
    Reply.resolve f (some step.id) raw = .ok ⟨some branch.target, .optionIndex, some o.id⟩ := by
  have readable : ¬ Misnumbered (normalize raw) := by
    rintro misnumbered
    obtain ⟨fault, failed⟩ := (byIndex_fails (f := f) step step.id).mpr ⟨offers.asks, misnumbered⟩
    simp only [Reply.byIndex, offers.asks, misnumbered.1, Bool.and_self, if_true] at failed
    split at failed
    next e unread => simp [numbered?, misnumbered.1, unread] at told
    next => cases failed
  have followed : Reply.follow? f step.id .optionIndex o = some ⟨some branch.target, .optionIndex, some o.id⟩ := by
    simp only [Reply.follow?, connected, Option.map_some]
  rw [offers.resolve readable, told, Option.bind_some, followed, Option.getD_some]

section
variable {cs : List Char} {d : Char}

theorem decimalValue?_isDigit (digit : d.isDigit = true) : decimalValue? d = some (d.toNat - 48) := by
  simp only [Char.isDigit, Bool.and_eq_true, decide_eq_true_eq] at digit
  have ascii : d.val < 128 := UInt32.lt_of_le_of_lt digit.2 (by decide)
  rw [decimalValue?, if_pos ascii, if_pos ⟨digit.1, digit.2⟩]

theorem isDigitLike_isDigit (digit : d.isDigit = true) : isDigitLike d = true := by
  simp only [isDigitLike, isDecimal, decimalValue?_isDigit digit, Option.isSome_some, Bool.true_or]

theorem spanGroups_isDigit (digits : ∀ d ∈ cs, d.isDigit = true) :
    spanGroups decimalValue? cs = some (cs.map fun d => d.toNat - 48, []) := by
  induction cs with
  | nil => rfl
  | cons d rest ih =>
    have digit := digits d List.mem_cons_self
    have joins : d ≠ '_' := by
      rintro rfl
      exact absurd digit (by decide)
    have later := ih fun e member => digits e (List.mem_cons_of_mem d member)
    simp [spanGroups, joins, decimalValue?_isDigit digit, later]

theorem digitsValue_eq (cs : List Char) : digitsValue (cs.map fun d => d.toNat - 48) = Nat.ofDigitChars 10 cs 0 := by
  simp only [digitsValue, Nat.ofDigitChars_eq_foldl, List.foldl_map, Nat.mul_comm]
  rfl

/-- Digits are read as the number that they stand for, unless there are too many of them. -/
theorem readWhole_isDigit (digits : ∀ d ∈ cs, d.isDigit = true) (written : cs ≠ []) (short : cs.length ≤ numeralLimit) :
    readWhole cs = .ok (Nat.ofDigitChars 10 cs 0) := by
  have alike : ∀ d ∈ cs, isDigitLike d = true := fun d member => isDigitLike_isDigit (digits d member)
  have joins : cs.head? ≠ some '_' := fun first => absurd (digits '_' (List.mem_of_head? first)) (by decide)
  simp only [readWhole, trimMargins_digits alike, readSign_digits alike, spanGroups_isDigit digits, digitsValue_eq]
  simp [written, joins, short]

theorem lowerAfter_isDigit (digits : ∀ d ∈ cs, d.isDigit = true) (before : List Char) : lowerAfter before cs = cs := by
  induction cs generalizing before with
  | nil => rfl
  | cons d rest ih =>
    have digit := digits d List.mem_cons_self
    simp only [Char.isDigit, Bool.and_eq_true, decide_eq_true_eq] at digit
    have ascii : d.val < 128 := UInt32.lt_of_le_of_lt digit.2 (by decide)
    have capital : d ≠ Char.ofNat 0x3A3 := by
      rintro rfl
      exact absurd ascii (by decide)
    have small : ¬ (d.val ≥ 'A'.val ∧ d.val ≤ 'Z'.val) := fun within =>
      absurd (UInt32.le_trans within.1 digit.2) (by decide)
    have lowered : d.toLower = d := dif_neg small
    rw [lowerAfter, if_neg capital, lowerChar, if_pos ascii, lowered, ih fun e member => digits e (List.mem_cons_of_mem d member)]
    rfl

end

/-- The decimal numeral of a number, with so many zeros before it. -/
def numeral (zeros n : Nat) : String := String.ofList (List.replicate zeros '0') ++ toString n

theorem toList_numeral (zeros n : Nat) : (numeral zeros n).toList = List.replicate zeros '0' ++ Nat.toDigits 10 n := by
  simp only [numeral, String.toList_append, String.toList_ofList, Nat.toString_eq_ofList_toDigits]

theorem isDigit_numeral (zeros n : Nat) : ∀ d ∈ (numeral zeros n).toList, d.isDigit = true := by
  intro d member
  rw [toList_numeral] at member
  rcases List.mem_append.mp member with zero | digit
  · rw [List.eq_of_mem_replicate zero]
    decide
  · exact Nat.isDigit_of_mem_toDigits (by decide) (by decide) digit

theorem numeral_ne_nil (zeros n : Nat) : (numeral zeros n).toList ≠ [] := by
  rw [toList_numeral]
  exact List.append_ne_nil_of_right_ne_nil _ Nat.toDigits_ne_nil

theorem ofDigitChars_numeral (zeros n : Nat) : Nat.ofDigitChars 10 (numeral zeros n).toList 0 = n := by
  have nothing : Nat.ofDigitChars 10 (List.replicate zeros '0') 0 = 0 := by
    induction zeros with
    | zero => rfl
    | succ zeros ih => rw [List.replicate_succ, Nat.ofDigitChars_cons]; exact ih
  rw [toList_numeral, Nat.ofDigitChars_append, nothing, Nat.ofDigitChars_toDigits (by decide) (by decide)]

def Blank (text : String) : Prop := ∀ d ∈ text.toList, isBlank d = true

theorem normalize_numeral (zeros n : Nat) {before after : String} (blankBefore : Blank before) (blankAfter : Blank after) :
    normalize (before ++ numeral zeros n ++ after) = numeral zeros n := by
  have digits := isDigit_numeral zeros n
  have unblank : ∀ d ∈ (numeral zeros n).toList, isBlank d = false := fun d member =>
    not_isBlank_of_isDigitLike (isDigitLike_isDigit (digits d member))
  have trimmed : trimChars (before.toList ++ (numeral zeros n).toList ++ after.toList) = (numeral zeros n).toList :=
    trimChars_surrounded (numeral_ne_nil zeros n) (fun d first => unblank d (List.mem_of_head? first))
      (fun d last => unblank d (List.mem_of_getLast? last)) blankBefore blankAfter
  rw [Text.normalize, lower, trim, String.toList_append, String.toList_append, String.toList_ofList, trimmed,
    lowerAfter_isDigit digits, String.ofList_toList]

theorem numbered?_numeral {options : List ChoiceOption} {k : Nat} {o : ChoiceOption} (placed : options[k]? = some o)
    {zeros : Nat} (short : (numeral zeros (k + 1)).length ≤ numeralLimit) {before after : String}
    (blankBefore : Blank before) (blankAfter : Blank after) :
    numbered? options (before ++ numeral zeros (k + 1) ++ after) = some o := by
  have digits := isDigit_numeral zeros (k + 1)
  have written := numeral_ne_nil zeros (k + 1)
  have number : Reply.isNumber (numeral zeros (k + 1)) = true := by
    simp only [Reply.isNumber, Bool.and_eq_true, bne_iff_ne, List.all_eq_true]
    exact ⟨fun empty => written (String.toList_eq_nil_iff.mpr empty), fun d member => isDigitLike_isDigit (digits d member)⟩
  have read : readWhole (numeral zeros (k + 1)).toList = .ok ((k + 1 : Nat) : Int) := by
    rw [readWhole_isDigit digits written (by rwa [String.length_toList]), ofDigitChars_numeral]
  rw [numbered?, normalize_numeral zeros (k + 1) blankBefore blankAfter, if_pos number, read]
  dsimp only
  rw [Reply.optionAt?, if_pos (by omega), Int.toNat_natCast, Nat.add_sub_cancel, placed]

/-- A prompt lists the options of a choice in their order, each of them with a button and with a line that has its number
before its label. -/
def Lists (c : ChoiceConfig) (vars : Fields) (prompt : ActionContent) : Prop :=
  ∃ body buttons lines, Template.fill vars c.message = .ok body ∧
    prompt = .interactive body buttons
      ("\n".intercalate ((if body = "" then [] else [body, ""]) ++ lines ++ ["", Wording.choiceFooter])) ∧
    buttons.length = c.options.length ∧ lines.length = c.options.length ∧
    ∀ (k : Nat) o, c.options[k]? = some o → ∃ label, Template.fill vars o.label = .ok label ∧
      buttons[k]? = some ⟨o.id, clip buttonTitleMax label⟩ ∧ lines[k]? = some (toString (k + 1) ++ ". " ++ label)

theorem choiceContent_lists {content : ActionContent} (asked : choiceContent c vars = .ok content) :
    Lists c vars content := by
  obtain ⟨body, filled, asked⟩ := produced_of_ok asked
  obtain ⟨labelled, done, asked⟩ := produced_of_ok asked
  cases asked
  obtain ⟨counted, each⟩ := mapM_results done
  unfold numberedList
  refine ⟨body, _, _, filled, rfl, ?_, ?_, ?_⟩
  · rw [List.length_map, counted]
  · rw [List.length_map, List.length_zipIdx, counted]
  · intro k o placed
    obtain ⟨own, told, there⟩ := each k o placed
    obtain ⟨label, fits, told⟩ := produced_of_ok told
    cases told
    refine ⟨label, fits, ?_, ?_⟩
    · rw [List.getElem?_map, there]
      rfl
    · rw [List.getElem?_map, List.getElem?_zipIdx, there]
      simp [Nat.add_comm]

/-- Where a run parks a session at a step that offers a choice, the last thing it does is to list the options. -/
theorem Offers.prompts (offers : Offers f step c) {options : RunOptions} {now : Instant} {s : Session}
    {rolls rest : List Float} {start : Option String} {r : RunResult}
    (ran : run f options now s rolls start = (.ok r, rest)) (place : r.session.currentStep = some step.id) :
    ∃ content, r.actions.getLast? = some ⟨envelope step.id r.session, content⟩ ∧ Lists c r.session.vars content := by
  obtain ⟨style, body⟩ := offers.body
  have here {last : Step} (parked : ParkedAt (trail f options now options.maxSteps s.fresh rolls start).1 last r.session) :
      last = step := by
    have found := trail_found options.maxSteps s.fresh rolls start last (List.mem_of_getLast? parked.last)
    have same : last.id = step.id := Option.some.inj (parked.place.symm.trans place)
    rw [same, offers.found] at found
    exact (Option.some.inj found).symm
  obtain ⟨⟨ending, fits⟩, _⟩ := run_fits ran
  cases ending with
  | completed =>
    rw [fits.2.1] at place
    cases place
  | asking =>
    obtain ⟨last, content, parked, _, _, prompt, sent⟩ := fits
    obtain rfl := here parked
    simp only [prompt?, body, Option.some.injEq] at prompt
    exact ⟨content, sent, choiceContent_lists prompt⟩
  | waiting =>
    obtain ⟨last, _, _, parked, other, _⟩ := fits
    rw [here parked, body] at other
    cases other
  | handed =>
    obtain ⟨last, _, _, parked, _, _, other, _⟩ := fits
    rw [here parked, body] at other
    cases other

/-- A run that begins at such a step stays there, if its texts can be filled in. -/
theorem Offers.stays (offers : Offers f step c) {options : RunOptions} (now : Instant) {s : Session} (rolls : List Float)
    (steps : 0 < options.maxSteps) (fillable : ∀ text ∈ textsOf step.body, ¬ AsksUnwritable s.vars text) :
    ∃ r, run f options now s rolls (some step.id) = (.ok r, rolls) ∧ r.session.currentStep = some step.id := by
  obtain ⟨style, body⟩ := offers.body
  obtain ⟨left, counted⟩ := Nat.exists_eq_succ_of_ne_zero (Nat.pos_iff_ne_zero.mp steps)
  cases asked : choiceContent c s.fresh.vars with
  | error fault =>
    obtain ⟨_, text, listed, asks⟩ := (choiceContent_fails style).mp asked
    exact absurd asks (fillable text (by rwa [body]))
  | ok content =>
    have done : effectOf f options now step s.fresh rolls = (.ok ⟨s.fresh.park step.id,
        [⟨envelope step.id (s.fresh.park step.id), content⟩], .stop none⟩, rolls) := by
      simp only [effectOf, body, asked]
      rfl
    simp only [run, counted, walk, offers.found, done]
    exact ⟨_, rfl, rfl⟩

theorem Offers.numeral_leads (offers : Offers f step c) {k : Nat} {o : ChoiceOption} (placed : c.options[k]? = some o) :
    ∃ branch, f.connectionFor? step.id o.id = some branch ∧
      ∀ before after zeros, Blank before → Blank after → (numeral zeros (k + 1)).length ≤ numeralLimit →
        Reply.resolve f (some step.id) (before ++ numeral zeros (k + 1) ++ after) =
          .ok ⟨some branch.target, .optionIndex, some o.id⟩ := by
  obtain ⟨branch, connected⟩ := offers.connected o (List.mem_of_getElem? placed)
  refine ⟨branch, connected, fun before after zeros blankBefore blankAfter short => ?_⟩
  exact offers.resolve_numbered (numbered?_numeral placed short blankBefore blankAfter) connected

/-- In a flow that was let in, a step that offers a choice lists its options wherever a run comes to it: each is a button
in its place, and the line with its number. The numeral of that number, be there blanks around it or zeros before it,
takes to the branch of that option and so to a step of the flow. There is always such a way on. -/
theorem numbers_of_options_lead_on {given : Flow} (accepted : given.load = .ok f) (member : step ∈ f.steps)
    (body : step.body = .choice style c) :
    (∀ options now s rolls, 0 < options.maxSteps → (∀ text ∈ textsOf step.body, ¬ AsksUnwritable s.vars text) →
      ∃ r, run f options now s rolls (some step.id) = (.ok r, rolls) ∧ r.session.currentStep = some step.id) ∧
    (∀ options now s rolls start r rest, run f options now s rolls start = (.ok r, rest) →
      r.session.currentStep = some step.id →
      ∃ content, r.actions.getLast? = some ⟨envelope step.id r.session, content⟩ ∧ Lists c r.session.vars content) ∧
    (∀ (k : Nat) o, c.options[k]? = some o → ∃ branch, f.connectionFor? step.id o.id = some branch ∧
      (f.step? branch.target).isSome = true ∧
      ∀ before after zeros, Blank before → Blank after → (numeral zeros (k + 1)).length ≤ numeralLimit →
        Reply.resolve f (some step.id) (before ++ numeral zeros (k + 1) ++ after) =
          .ok ⟨some branch.target, .optionIndex, some o.id⟩) ∧
    ∃ reply r target, Reply.resolve f (some step.id) reply = .ok r ∧ r.next = some target ∧
      (f.step? target).isSome = true := by
  obtain ⟨_, clean⟩ := load_accepts accepted
  have offers := offers_of_validate clean member body
  have present {id : String} {branch : Connection} (connected : f.connectionFor? step.id id = some branch) :
      (f.step? branch.target).isSome = true :=
    (navigable_of_validate clean).connected branch (List.mem_of_mem_filter (connectionFor?_mem connected))
  refine ⟨fun options now s rolls => offers.stays now rolls, fun options now s rolls start r rest => offers.prompts, ?_, ?_⟩
  · intro k o placed
    obtain ⟨branch, connected, leads⟩ := offers.numeral_leads placed
    exact ⟨branch, connected, present connected, leads⟩
  · obtain ⟨o, rest, listed⟩ := List.exists_cons_of_ne_nil offers.any
    obtain ⟨branch, connected, leads⟩ := offers.numeral_leads (k := 0) (o := o) (by rw [listed]; rfl)
    have nothing : Blank "" := fun d member => by cases member
    exact ⟨_, _, branch.target, leads "" "" 0 nothing nothing (by decide), rfl, present connected⟩

def drinks : ChoiceConfig :=
  { message := "Tea or coffee?", options := [⟨"2", "Tea"⟩, ⟨"1", "Coffee"⟩, ⟨"", "Neither"⟩] }

/-- A flow whose options have the numbers of each other for ids, and the last an empty one. -/
def bar : Flow :=
  { id := "bar",
    steps := [⟨"begin", .start none⟩, ⟨"ask", .choice .questionMultiple drinks⟩,
      ⟨"tea", .sendMessage { text := "Tea it is." }⟩, ⟨"coffee", .sendMessage { text := "Coffee it is." }⟩],
    connections := [⟨"c1", "begin", "ask", none, none⟩, ⟨"c2", "ask", "tea", some "2", none⟩,
      ⟨"c3", "ask", "coffee", some "1", none⟩, ⟨"c4", "ask", "begin", some "", none⟩] }

theorem second_drink_leads_on :
    bar.load = .ok bar ∧
    (∃ r, run bar {} ⟨5, 0⟩ (newcomer bar) [] (some "ask") = (.ok r, []) ∧
      ∃ content, r.actions.getLast? = some ⟨envelope "ask" r.session, content⟩ ∧ Lists drinks r.session.vars content) ∧
    Reply.resolve bar (some "ask") (" " ++ numeral 1 2 ++ "\n") = .ok ⟨some "coffee", .optionIndex, some "1"⟩ ∧
    ∃ reply r target, Reply.resolve bar (some "ask") reply = .ok r ∧ r.next = some target ∧
      (bar.step? target).isSome = true := by
  have accepted : bar.load = .ok bar := by cbv
  have asking : ⟨"ask", .choice .questionMultiple drinks⟩ ∈ bar.steps := List.mem_cons_of_mem _ List.mem_cons_self
  obtain ⟨stays, prompts, leads, escapes⟩ := numbers_of_options_lead_on accepted asking rfl
  have fillable (text : String) : ¬ AsksUnwritable (newcomer bar).vars text := by
    rintro ⟨_, _, _, _, given, _⟩
    cases given
  obtain ⟨r, ran, place⟩ := stays {} ⟨5, 0⟩ (newcomer bar) [] (by decide) fun text _ => fillable text
  obtain ⟨branch, connected, _, second⟩ := leads 1 ⟨"1", "Coffee"⟩ rfl
  have target : branch.target = "coffee" := by
    have own : bar.connectionFor? "ask" "1" = some ⟨"c3", "ask", "coffee", some "1", none⟩ := by decide
    rw [Option.some.inj (connected.symm.trans own)]
  have resolved := second " " "\n" 1 (by simp [Blank]; decide) (by simp [Blank]; decide) (by decide)
  rw [target] at resolved
  exact ⟨accepted, ⟨r, ran, prompts {} ⟨5, 0⟩ (newcomer bar) [] _ r [] ran place⟩, resolved, escapes⟩

end Chatflow.Proofs.NumberedOptions
