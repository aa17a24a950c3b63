import Chatflow.Event
import Chatflow.Proofs.NumberedOptions

/-! What a button leads to. Whoever presses a button replies with the id of its option, and is taken to the branch of that
id. But replies are taken for numbers before they are taken for ids: an id that is the number of another option takes to
the branch of that one, and an empty id is no reply at all. -/

namespace Chatflow.Proofs.PressedButtons
open Text ResolvedReplies NumberedOptions

variable {f : Flow} {step : Step} {style : ChoiceStyle} {c : ChoiceConfig} {o : ChoiceOption} {branch : Connection}

/-- Of all options with an id, the first one that has a branch is the one that the id is resolved to; they share the branch. -/
theorem byId_follows_own (offers : Offers f step c) (offered : o ∈ c.options) (bare : trim o.id = o.id)
    (named : o.id ≠ "") (connected : f.connectionFor? step.id o.id = some branch) :
    Reply.byId f step step.id o.id = some ⟨some branch.target, .optionId, some o.id⟩ := by
  have follows {other : ChoiceOption} (same : other.id = o.id) :
      Reply.follow? f step.id .optionId other = some ⟨some branch.target, .optionId, some o.id⟩ := by
    simp only [Reply.follow?, same, connected, Option.map_some]
  have asked : (Reply.asksChoice step && o.id != "") = true := by simp [offers.asks, named]
  rw [Reply.byId, if_pos asked, offers.options, bare]
  cases listed : c.options.filter fun other => other.id == o.id with
  | nil =>
    have inside : o ∈ c.options.filter fun other => other.id == o.id :=
      List.mem_filter.mpr ⟨offered, beq_self_eq_true o.id⟩
    rw [listed] at inside
    cases inside
  | cons first rest =>
    have inside : first ∈ c.options.filter fun other => other.id == o.id := by
      rw [listed]
      exact List.mem_cons_self
    have same : first.id = o.id := eq_of_beq (List.mem_filter.mp inside).2
    rw [List.findSome?_cons, follows same]

theorem resolve_empty (offers : Offers f step c) : Reply.resolve f (some step.id) "" = .ok .noMatch := by
  have plain : normalize "" = "" := rfl
  have number : numbered? c.options "" = none := rfl
  have readable : ¬ Misnumbered (normalize "") := by
    rw [plain]
    rintro ⟨number, _⟩
    cases number
  have id : Reply.byId f step step.id "" = none := by simp [Reply.byId]
  have word : Reply.byKeyword f step step.id "" = none := by simp [Reply.byKeyword]
  have only : Reply.bySingle f step step.id = none := by
    unfold Reply.bySingle
    rw [offers.asks]
    split <;> rfl
  rw [offers.resolve readable, number, plain, id, word, only]
  rfl

/-- The button of an option takes to the branch of that option, unless replies are read before they get to ids. Each button
replies with the id of its option, and where the id is not empty and has no blanks at its ends, and can be read if it looks
like a number: an id that is the number of an option takes to that one, and any other id to its own. So a button takes to
its own option exactly if its id is the number of no option of another id. An empty id is resolved to nothing. -/
theorem pressed_button_leads_to_number_or_own {given : Flow} (accepted : given.load = .ok f) (member : step ∈ f.steps)
    (body : step.body = .choice style c) (offered : o ∈ c.options) (bare : trim o.id = o.id) :
    ∃ branch, f.connectionFor? step.id o.id = some branch ∧
      (o.id = "" → Reply.resolve f (some step.id) o.id = .ok .noMatch) ∧
      (o.id ≠ "" → ¬ Misnumbered (normalize o.id) → ∀ e : Event, e.replyId = some o.id →
        (numbered? c.options o.id = none →
          Reply.resolve f (some step.id) e.reply = .ok ⟨some branch.target, .optionId, some o.id⟩) ∧
        (∀ other, numbered? c.options o.id = some other → ∃ own, f.connectionFor? step.id other.id = some own ∧
          Reply.resolve f (some step.id) e.reply = .ok ⟨some own.target, .optionIndex, some other.id⟩) ∧
        ((∃ rule, Reply.resolve f (some step.id) e.reply = .ok ⟨some branch.target, rule, some o.id⟩) ↔
          ∀ other, numbered? c.options o.id = some other → other.id = o.id)) := by
  have offers := offers_of_validate (AcceptedFlows.load_accepts accepted).2 member body
  obtain ⟨branch, connected⟩ := offers.connected o offered
  refine ⟨branch, connected, fun empty => by rw [empty, resolve_empty offers], fun named readable e pressed => ?_⟩
  have reply : e.reply = o.id := by simp only [Event.reply, pressed, named, if_false]
  rw [reply]
  have own (none : numbered? c.options o.id = none) :
      Reply.resolve f (some step.id) o.id = .ok ⟨some branch.target, .optionId, some o.id⟩ := by
    rw [offers.resolve readable, none, byId_follows_own offers offered bare named connected]
    rfl
  have number (other : ChoiceOption) (told : numbered? c.options o.id = some other) :
      ∃ own, f.connectionFor? step.id other.id = some own ∧
        Reply.resolve f (some step.id) o.id = .ok ⟨some own.target, .optionIndex, some other.id⟩ := by
    obtain ⟨own, leads⟩ := offers.connected other (numbered?_mem told)
    exact ⟨own, leads, offers.resolve_numbered told leads⟩
  refine ⟨own, number, ?_, ?_⟩
  · rintro ⟨rule, resolved⟩ other told
    obtain ⟨_, _, instead⟩ := number other told
    rw [instead] at resolved
    exact Option.some.inj (congrArg Resolution.optionId (Except.ok.inj resolved))
  · intro same
    cases told : numbered? c.options o.id with
    | none => exact ⟨_, own told⟩
    | some other =>
      obtain ⟨along, leads, instead⟩ := number other told
      rw [same other told, connected] at leads
      cases leads
      rw [same other told] at instead
      exact ⟨_, instead⟩

theorem tea_button_brings_coffee :
    bar.load = .ok bar ∧ bar.connectionFor? "ask" "2" = some ⟨"c2", "ask", "tea", some "2", none⟩ ∧
      ∀ e : Event, e.replyId = some "2" →
        Reply.resolve bar (some "ask") e.reply = .ok ⟨some "coffee", .optionIndex, some "1"⟩ := by
  have accepted : bar.load = .ok bar := by cbv
  have asking : ⟨"ask", .choice .questionMultiple drinks⟩ ∈ bar.steps := List.mem_cons_of_mem _ List.mem_cons_self
  have offered : ⟨"2", "Tea"⟩ ∈ drinks.options := List.mem_cons_self
  obtain ⟨branch, connected, _, read⟩ :=
    pressed_button_leads_to_number_or_own accepted asking rfl offered (by decide)
  have readable : ¬ Misnumbered (normalize "2") := by
    rintro ⟨_, ⟨d, member, form⟩ | long⟩
    · cases List.mem_singleton.mp (member : d ∈ ['2'])
      cases form
    · exact absurd long (by decide)
  have told : numbered? drinks.options "2" = some ⟨"1", "Coffee"⟩ := by decide
  refine ⟨accepted, by decide, fun e pressed => ?_⟩
  obtain ⟨own, leads, resolved⟩ := (read (by decide) readable e pressed).2.1 _ told
  have target : own = ⟨"c3", "ask", "coffee", some "1", none⟩ := by
    have known : bar.connectionFor? "ask" "1" = some ⟨"c3", "ask", "coffee", some "1", none⟩ := by decide
    exact Option.some.inj (leads.symm.trans known)
  rw [resolved, target]

/-- Neither an id that is the number of another option nor an empty one takes to its own branch. -/
theorem buttons_lead_astray :
    bar.load = .ok bar ∧
    ∀ o ∈ [(⟨"2", "Tea"⟩ : ChoiceOption), ⟨"", "Neither"⟩], o ∈ drinks.options ∧ trim o.id = o.id ∧
      ∃ branch, bar.connectionFor? "ask" o.id = some branch ∧
        ∀ rule, Reply.resolve bar (some "ask") o.id ≠ .ok ⟨some branch.target, rule, some o.id⟩ := by
  have accepted : bar.load = .ok bar := by cbv
  have tea : Reply.resolve bar (some "ask") "2" = .ok ⟨some "coffee", .optionIndex, some "1"⟩ := by rfl
  have neither : Reply.resolve bar (some "ask") "" = .ok .noMatch := by rfl
  refine ⟨accepted, fun o listed => ?_⟩
  simp only [List.mem_cons, List.not_mem_nil, or_false] at listed
  rcases listed with rfl | rfl
  · refine ⟨by decide, by decide, ⟨"c2", "ask", "tea", some "2", none⟩, by decide, fun rule resolved => ?_⟩
    rw [tea] at resolved
    have same : some "1" = some "2" := congrArg Resolution.optionId (Except.ok.inj resolved)
    exact absurd same (by decide)
  · refine ⟨by decide, by decide, ⟨"c4", "ask", "begin", some "", none⟩, by decide, fun rule resolved => ?_⟩
    rw [neither] at resolved
    have same : none = some "" := congrArg Resolution.optionId (Except.ok.inj resolved)
    cases same

end Chatflow.Proofs.PressedButtons
