import Chatflow.Proofs.AgentConversations

/-! What the turns of an agent show, and what they hand over. The contact gets to read what stands before the first marker,
and nothing else of what the agent says is remembered. What stands behind the marker is for a human, who is told of it once,
with the turn that ends the conversation. -/

namespace Chatflow.Proofs.HandOffs
open Text Delegate WorkLogic OutsideWork AgentTurns AgentConversations

variable {setup : Setup} {s updated : Session} {a : Agent} {message : Value} {o rest : Outside} {turn : Delegate.Outcome}
  {part cs before after : List Char} {text shown : String}

/-- A part stands in a text, and for the first time so. -/
structure FirstAt (part cs before after : List Char) : Prop where
  splits : cs = before ++ part ++ after
  first : ∀ front back, cs = front ++ part ++ back → before.length ≤ front.length

/-- A text is cut where the part begins, if it begins right away, and otherwise where what follows is cut. -/
theorem cut?_firstAt (cut : Handoff.cut? part cs = some (before, after)) : FirstAt part cs before after := by
  induction cs generalizing before with
  | nil =>
    unfold Handoff.cut? at cut
    split at cut
    next empty =>
      cases cut
      exact ⟨by rw [List.isEmpty_iff.mp empty]; rfl, fun front back _ => Nat.zero_le _⟩
    next => cases cut
  | cons c others ih =>
    unfold Handoff.cut? at cut
    split at cut
    next begins =>
      cases cut
      refine ⟨?_, fun front back _ => Nat.zero_le _⟩
      obtain ⟨left, same⟩ := List.isPrefixOf_iff_prefix.mp begins
      rw [← same, List.drop_left, List.nil_append]
    next later =>
      obtain ⟨⟨front, back⟩, found, same⟩ := Option.map_eq_some_iff.mp cut
      cases same
      obtain ⟨splits, first⟩ := ih found
      refine ⟨by rw [splits]; rfl, fun front' back' same => ?_⟩
      cases front' with
      | nil =>
        have begins : part <+: c :: others := ⟨back', by rw [same, List.nil_append]⟩
        exact absurd (List.isPrefixOf_iff_prefix.mpr begins) later
      | cons d front' =>
        have behind : others = front' ++ part ++ back' := by
          rw [List.cons_append, List.cons_append] at same
          exact (List.cons.inj same).2
        exact Nat.succ_le_succ (first front' back' behind)

/-- That is the only place to cut it. -/
theorem FirstAt.cut? (here : FirstAt part cs before after) : Handoff.cut? part cs = some (before, after) := by
  have somewhere : (Handoff.cut? part cs).isSome = true := cut?_isSome.mpr ⟨before, after, here.splits.symm⟩
  obtain ⟨⟨front, back⟩, found⟩ := Option.isSome_iff_exists.mp somewhere
  obtain ⟨splits, first⟩ := cut?_firstAt found
  have level : front.length = before.length :=
    Nat.le_antisymm (first before after here.splits) (here.first front back splits)
  have same : front ++ (part ++ back) = before ++ (part ++ after) := by
    rw [← List.append_assoc, ← List.append_assoc, ← splits, ← here.splits]
  obtain ⟨rfl, rest⟩ := List.append_inj same level
  rw [found, List.append_cancel_left rest]

/-- Whatever follows, a part does not stand any earlier. -/
theorem FirstAt.followed (here : FirstAt part (before ++ part) before []) (after : List Char) :
    FirstAt part (before ++ part ++ after) before after := by
  refine ⟨rfl, fun front back same => ?_⟩
  refine Nat.le_of_not_lt fun early => ?_
  have shorter : (front ++ part).length ≤ (before ++ part).length := by
    rw [List.length_append, List.length_append]
    omega
  obtain ⟨left, within⟩ : front ++ part <+: before ++ part :=
    List.prefix_of_prefix_length_le ⟨back, same.symm⟩ ⟨after, rfl⟩ shorter
  exact Nat.not_le_of_lt early (here.first front left within.symm)

/-- Before the first occurrence there is no other one. -/
theorem FirstAt.not_before (here : FirstAt part cs before after) (written : part ≠ []) : ¬ part <:+: before := by
  rintro ⟨front, back, same⟩
  have earlier : cs = front ++ part ++ (back ++ part ++ after) := by
    rw [here.splits, ← same]
    simp only [List.append_assoc]
  have least := here.first front _ earlier
  have length := congrArg List.length same
  have positive := List.length_pos_iff.mpr written
  simp only [List.length_append] at length
  omega

theorem trimChars_within (cs : List Char) : trimChars cs <:+: cs := by
  have left : trimLeft cs <:+: cs := (List.dropWhile_suffix isBlank).isInfix
  have right : trimRight (trimLeft cs) <+: trimLeft cs := by
    rw [← List.reverse_suffix, trimRight, List.reverse_reverse]
    exact List.dropWhile_suffix isBlank
  exact right.isInfix.trans left

/-- What a contact gets to read of a completion: what stands before the first marker, or all of it if there is none,
without the blanks around it. -/
def Shown (text shown : String) : Prop :=
  (¬ HandsOver text ∧ shown = trim text) ∨
    ∃ before after, FirstAt Handoff.marker.toList text.toList before after ∧ shown = trim (String.ofList before)

theorem split_shown (text : String) : Shown text (Handoff.split text).1 := by
  unfold Handoff.split
  cases cut : Handoff.cut? Handoff.marker.toList text.toList with
  | none =>
    refine Or.inl ⟨fun hands => ?_, rfl⟩
    rw [HandsOver, ← cut?_isSome, cut] at hands
    cases hands
  | some parts =>
    obtain ⟨before, after⟩ := parts
    refine Or.inr ⟨before, after, cut?_firstAt cut, ?_⟩
    dsimp only
    rw [trim, String.toList_ofList]

/-- No marker is ever shown. -/
theorem Shown.unmarked (shows : Shown text shown) : ¬ HandsOver shown := by
  intro hands
  rcases shows with ⟨unmarked, rfl⟩ | ⟨before, after, here, rfl⟩
  · rw [HandsOver, trim, String.toList_ofList] at hands
    exact unmarked (hands.trans (trimChars_within text.toList))
  · rw [HandsOver, trim, String.toList_ofList, String.toList_ofList] at hands
    exact here.not_before (by decide) (hands.trans (trimChars_within before))

theorem readHandoff_one {payload : Option String} {read : Option Fields} {plain : Option String}
    (done : readHandoff shown payload = .ok (read, plain)) : read.isSome = !plain.isSome := by
  unfold readHandoff at done
  cases payload with
  | none =>
    cases done
    rfl
  | some carried =>
    obtain ⟨read', _, told⟩ := produced_of_ok done
    cases told
    cases read <;> rfl

/-- What an agent remembers of a turn ends with what it showed. -/
theorem remember_last {window : Int} (counts : 0 ≤ window) (history : List Value) (message : Value) (shown : String) :
    (remember window history message shown).getLast? = some (entry "assistant" (.str shown)) := by
  have long : 2 ≤ (history ++ [entry "user" message, entry "assistant" (.str shown)]).length := by simp
  have kept {n : Nat} (fewer : n < (history ++ [entry "user" message, entry "assistant" (.str shown)]).length) :
      ((history ++ [entry "user" message, entry "assistant" (.str shown)]).drop n).getLast? =
        some (entry "assistant" (.str shown)) := by
    rw [List.getLast?_drop, if_neg (by omega)]
    simp
  unfold remember lastTurns
  dsimp only
  split
  · exact kept (by omega)
  · exact kept (by omega)

/-- What a turn comes to on which the agent said something. The contact reads, and the agent remembers, what is to be shown;
a human is told, once and with one thing to read, if the turn is the last one, and not told otherwise. -/
structure Protocol (setup : Setup) (s : Session) (a : Agent) (message : Value) (history : List Value) (text : String)
    (turn : Delegate.Outcome) (updated : Session) (answered rest : Outside) : Prop where
  shown : Shown text turn.reply
  unmarked : ¬ HandsOver turn.reply
  remembered : updated.vars.get? historyKey =
    some (.list (remember setup.historyWindow (lastTurns setup.historyWindow history) message turn.reply))
  ends : turn.ended = true ↔ IsLast a.maxTurns s.aiTurns text
  notified : turn.ended = true → readHandoff turn.reply (Handoff.split text).2 = .ok (turn.payload, turn.plain) ∧
    turn.payload.isSome = !turn.plain.isSome ∧
    rest = (Notification.notifyHandoff setup updated (some a) turn.payload turn.plain answered).2
  unnotified : turn.ended = false → turn.payload = none ∧ turn.plain = none ∧ rest = answered

theorem handleTurn_protocol {agent : Option Agent}
    (took : handleTurn setup s agent message o = (.ok (turn, updated), rest)) (counts : turn.failed = false) :
    ∃ a history text answered, Asks setup s agent message o a history (.ok text) answered ∧
      Protocol setup s a message history text turn updated answered rest := by
  have kept (vars : Fields) (v : Value) : (vars.set historyKey v).get? historyKey = some v := by
    rw [Fields.get?_set, if_pos rfl]
  cases handleTurn_brings took with
  | unavailable | unanswered => cases counts
  | goesOn asks silent left =>
    rw [← Bool.not_eq_true, split_payload] at silent
    refine ⟨_, _, _, _, asks, split_shown _, (split_shown _).unmarked, kept _ _, ?_, ?_, fun _ => ⟨rfl, rfl, rfl⟩⟩
    · exact iff_of_false Bool.false_ne_true (not_or.mpr ⟨silent, left⟩)
    · intro ended
      cases ended
  | ends asks last read noted told =>
    rw [split_payload] at last
    rw [noted, asks.available] at told
    subst noted
    refine ⟨_, _, _, _, asks, split_shown _, (split_shown _).unmarked, kept _ _, iff_of_true rfl last, ?_, ?_⟩
    · exact fun _ => ⟨read, readHandoff_one read, told⟩
    · intro going
      cases going

/-- To ask providers sends nothing to contacts and operators. -/
theorem outward_of_asks {agent : Option Agent} {history : List Value} {result : Except Fault String} {answered : Outside}
    (asks : Asks setup s agent message o a history result answered) : outward answered = outward o := by
  have left : outward (Completion.complete setup a s.id message (.list (lastTurns setup.historyWindow history))
      (decide (a.maxTurns ≤ s.aiTurns + 1)) o).2 = outward o := outward_unasked.complete a s.id message _ _ o
  rwa [asks.completes] at left

/-- On every turn that does not fail, what the contact reads and what the agent remembers is the part of the completion
before the first marker, and no marker is in it. The turn is the last one exactly if there is a marker or no turn is left,
and exactly then a human is told, once, of a payload or of a text. Without an agent to be asked, or without a reply, the
session is as it was and nobody is told anything. -/
theorem turn_follows_handoff_protocol (setup : Setup) (s : Session) (agent : Option Agent) (message : Value) (o : Outside) :
    (∀ turn updated rest, handleTurn setup s agent message o = (.ok (turn, updated), rest) → turn.failed = false →
      ∃ a history text answered, Asks setup s agent message o a history (.ok text) answered ∧
        outward answered = outward o ∧ Protocol setup s a message history text turn updated answered rest ∧
        (0 ≤ setup.historyWindow → ∃ memory, updated.vars.get? historyKey = some (.list memory) ∧
          memory.getLast? = some (entry "assistant" (.str turn.reply)))) ∧
    (agent.filter Agent.isActive = none → handleTurn setup s agent message o = (.ok (failure, s), o)) ∧
    ∀ a history fault answered, Asks setup s agent message o a history (.error fault) answered →
      handleTurn setup s agent message o = (.ok (failure, s), answered) ∧ outward answered = outward o := by
  refine ⟨fun turn updated rest took counts => ?_, handleTurn_unavailable, fun a history fault answered asks => ?_⟩
  · obtain ⟨a, history, text, answered, asks, protocol⟩ := handleTurn_protocol took counts
    exact ⟨a, history, text, answered, asks, outward_of_asks asks, protocol,
      fun counts => ⟨_, protocol.remembered, remember_last counts _ _ _⟩⟩
  · exact ⟨handleTurn_unanswered asks, outward_of_asks asks⟩

theorem ana_hands_over :
    let o : Outside := { geminiAnswers := [.text "Le llaman. ###HANDOFF### ###HANDOFF### Llamar hoy"] }
    ∃ turn updated rest, handleTurn answering cared (some ana) (.str "Buenas") o = (.ok (turn, updated), rest) ∧
      turn.failed = false ∧ turn.reply = "Le llaman." ∧ ¬ HandsOver turn.reply ∧ turn.ended = true ∧
      turn.payload.isSome = !turn.plain.isSome := by
  intro o
  have took : (handleTurn answering cared (some ana) (.str "Buenas") o).1.toOption.map (fun took =>
      (took.1.failed, took.1.reply, took.1.ended)) = some (false, "Le llaman.", true) := by decide +kernel
  rcases done : handleTurn answering cared (some ana) (.str "Buenas") o with ⟨fault | ⟨turn, updated⟩, rest⟩ <;>
    rw [done] at took
  · cases took
  · simp only [Except.toOption, Option.map_some, Option.some.injEq, Prod.mk.injEq] at took
    obtain ⟨counts, reply, ended⟩ := took
    obtain ⟨_, _, _, _, _, _, protocol, _⟩ :=
      (turn_follows_handoff_protocol answering cared (some ana) (.str "Buenas") o).1 turn updated rest done counts
    exact ⟨turn, updated, rest, rfl, counts, reply, protocol.unmarked, ended, (protocol.notified ended).2.1⟩

end Chatflow.Proofs.HandOffs
