import Chatflow.Dispatch
import Chatflow.Proofs.MessagePosts

/-! Batches of actions on their way out. The actions are delivered one after another, each as if it were alone: whatever comes
of the posts of one, and whatever the cache answers to the breaker that they are made through, the next ones are tried. -/

namespace Chatflow.Proofs.BatchDeliveries
open Cache Channel Dispatch MessagePosts

/-- The forms that the messages for an action may have. -/
def forms : ActionContent → List MessageForm
  | .message _ => [.text]
  | .interactive .. => [.buttons, .text]
  | .media .. => [.media, .text]
  | .template .. => [.template]
  | .assign .. | .email .. => []

section
variable (cache : AnyCache) (setup : Setup) (a : Action)

/-- The ways to deliver an action: what is sent for it, and whether it counts as delivered. -/
inductive Delivers : List Sending → List Letter → Bool → Prop where
  | text {text s} (content : a.content = .message text) (sent : s.OfText cache setup a.envelope text) :
      Delivers [s] [] (isSent s.id)
  | template {name language params s} (content : a.content = .template name language params)
      (sent : s.Of cache setup a.envelope (templateMessage a.envelope.recipient name
        ((filled? language).getD setup.settings.templateLanguage) params)) : Delivers [s] [] (isSent s.id)
  | buttons {body buttons fallback s} (content : a.content = .interactive body buttons fallback)
      (usable : buttons ≠ [] ∧ buttons.length ≤ 3)
      (sent : s.Of cache setup a.envelope (buttonsMessage a.envelope.recipient body buttons))
      (enough : isSent s.id = true ∨ Dispatch.works setup .text = false) : Delivers [s] [] (isSent s.id)
  | listInstead {body buttons fallback s t} (content : a.content = .interactive body buttons fallback)
      (usable : buttons ≠ [] ∧ buttons.length ≤ 3)
      (tried : s.Of cache setup a.envelope (buttonsMessage a.envelope.recipient body buttons)) (refused : s.id = .null)
      (sent : t.OfText cache setup a.envelope fallback) : Delivers [s, t] [] (isSent t.id)
  | list {body buttons fallback s} (content : a.content = .interactive body buttons fallback)
      (unusable : buttons = [] ∨ 3 < buttons.length) (sent : s.OfText cache setup a.envelope fallback) :
      Delivers [s] [] (isSent s.id)
  | medium {kind url mediaId caption fileName source s} (content : a.content = .media kind url mediaId caption fileName)
      (found : mediaSource? url mediaId = some source)
      (sent : s.Of cache setup a.envelope (mediaMessage a.envelope.recipient kind.name source caption fileName))
      (enough : isSent s.id = true ∨ Dispatch.works setup .text = false) : Delivers [s] [] (isSent s.id)
  | captionInstead {kind url mediaId caption fileName source s t}
      (content : a.content = .media kind url mediaId caption fileName) (found : mediaSource? url mediaId = some source)
      (tried : s.Of cache setup a.envelope (mediaMessage a.envelope.recipient kind.name source caption fileName))
      (refused : s.id = .null)
      (sent : t.OfText cache setup a.envelope ((filled? caption).getD Wording.mediaFallback)) : Delivers [s, t] [] false
  | captionAlone {kind url mediaId caption fileName s} (content : a.content = .media kind url mediaId caption fileName)
      (nowhere : mediaSource? url mediaId = none)
      (sent : s.OfText cache setup a.envelope ((filled? caption).getD Wording.mediaFallback)) : Delivers [s] [] false
  | broken {form} (needed : form ∈ forms a.content) (broken : Dispatch.works setup form = false) : Delivers [] [] false
  | assigned {kind agentId} (content : a.content = .assign kind agentId) : Delivers [] [] true
  | mailed {address subject body letter answer} (content : a.content = .email address subject body)
      (states : letter.recipient = address ∧ letter.subject = subject ∧ letter.body = body) :
      Delivers [] [letter] (Notification.isAccepted answer)
  | unmailed {address subject body} (content : a.content = .email address subject body)
      (unable : setup.mail = none ∨ setup.utcNow.isOk = false) : Delivers [] [] false

/-- What comes of a text: nothing if its way is broken, and else a sending. -/
inductive TextSent (env : Envelope) (text : String) : Bool → List Exchange → List Letter → Prop where
  | broken (broken : ¬ Dispatch.works setup .text = true) : TextSent env text false [] []
  | sent {id xs} (sent : Sending.OfText cache setup env text ⟨xs, id⟩) : TextSent env text (isSent id) xs []

/-- What is emitted for an action and whether it counts as delivered go together in one of the ways that there are. -/
def Goes (delivered : Bool) (xs : List Exchange) (ls : List Letter) : Prop :=
  ∃ sendings, xs = sendings.flatMap Sending.exchanges ∧ Delivers cache setup a sendings ls delivered

/-- An action, what was sent for it, and whether it was delivered. -/
structure Delivery where
  action : Action
  sendings : List Sending
  letters : List Letter
  delivered : Bool
  delivers : Delivers cache setup action sendings letters delivered

end

/-- How often a post may be made for an action. -/
def postsMax : ActionContent → Nat
  | .message _ | .template .. => 3
  | .interactive .. | .media .. => 6
  | .assign .. | .email .. => 0

variable {xs ys : List Exchange} {ls : List Letter} {setup : Setup} {cache : AnyCache}

theorem textMessage_addressed (recipient text : String) : Addressed (textMessage recipient text) :=
  addressed_of_to recipient rfl

theorem buttonsMessage_addressed (recipient body : String) (buttons : List Button) :
    Addressed (buttonsMessage recipient body buttons) := addressed_of_to recipient rfl

theorem templateMessage_addressed (recipient name language : String) (params : List String) :
    Addressed (templateMessage recipient name language params) := addressed_of_to recipient rfl

theorem mediaMessage_addressed (recipient : String) (kind : MediaKind) (source : String × String)
    (caption fileName : Option String) : Addressed (mediaMessage recipient kind.name source caption fileName) := by
  have elsewhere : kind.name ≠ "to" := by cases kind <;> decide
  refine addressed_of_to recipient ((Fields.get?_set _ _ _ _).trans ?_)
  rw [if_neg elsewhere]
  rfl

theorem isSent_eq_false {id : Value} : isSent id = false ↔ id = .null := by
  rw [isSent, Bool.not_eq_false']
  cases id with
  | null => exact iff_of_true rfl rfl
  | _ => exact iff_of_false Bool.false_ne_true Value.noConfusion

theorem deliverText_emits (env : Envelope) (text : String) :
    Emits (deliverText setup env text (cache.map throughCache)) (TextSent cache setup env text) := by
  unfold deliverText
  split
  · refine (send_emits env (textMessage_addressed _ _)).bind ?_
    rintro id xs ls ⟨rfl, sent⟩
    refine .pure ?_
    rw [List.append_nil]
    exact .sent sent
  next broken => exact .pure (.broken broken)

namespace Goes
variable {a : Action} {id : Value} {delivered : Bool}

theorem one (delivers : Delivers cache setup a [⟨xs, id⟩] ls delivered) : Goes cache setup a delivered xs ls :=
  ⟨_, by rw [List.flatMap_singleton], delivers⟩

theorem two {other : Value} (delivers : Delivers cache setup a [⟨xs, id⟩, ⟨ys, other⟩] ls delivered) :
    Goes cache setup a delivered (xs ++ ys) ls :=
  ⟨_, by rw [List.flatMap_cons, List.flatMap_singleton], delivers⟩

theorem broken {form : MessageForm} (needed : form ∈ forms a.content) (broken : ¬ Dispatch.works setup form = true) :
    Goes cache setup a false [] [] := ⟨[], rfl, .broken needed (eq_false_of_ne_true broken)⟩

end Goes

section
variable {a : Action}

theorem interactive_emits {body fallback : String} {buttons : List Button}
    (content : a.content = .interactive body buttons fallback) :
    Emits (perform setup a (cache.map throughCache)) (Goes cache setup a) := by
  unfold perform
  simp only [content]
  split
  next able =>
    have usable : buttons ≠ [] ∧ buttons.length ≤ 3 := by
      obtain ⟨any, few⟩ := Bool.and_eq_true_iff.mp able
      exact ⟨by simpa using any, of_decide_eq_true few⟩
    split
    · refine Emits.bind (send_emits a.envelope (buttonsMessage_addressed _ body buttons)) ?_
      rintro id xs ls ⟨rfl, tried⟩
      split
      next sent =>
        refine .pure ?_
        rw [List.append_nil, ← sent]
        exact .one (.buttons content usable tried (.inl sent))
      next unsent =>
        have refused := Bool.not_eq_true _ ▸ unsent
        refine (deliverText_emits a.envelope fallback).weaken fun delivered ys ms text => ?_
        cases text with
        | broken broken =>
          rw [List.append_nil, ← refused]
          exact .one (.buttons content usable tried (.inr (eq_false_of_ne_true broken)))
        | sent sent => exact .two (.listInstead content usable tried (isSent_eq_false.mp refused) sent)
    next broken => exact .pure (.broken (by simp [content, forms]) broken)
  next unable =>
    have unusable : buttons = [] ∨ 3 < buttons.length := by
      rcases Bool.and_eq_false_iff.mp (Bool.not_eq_true _ ▸ unable) with none | many
      · exact Or.inl (by simpa using none)
      · exact Or.inr (Nat.not_le.mp (of_decide_eq_false many))
    refine (deliverText_emits a.envelope fallback).weaken fun delivered xs ls text => ?_
    cases text with
    | broken broken => exact .broken (by simp [content, forms]) broken
    | sent sent => exact .one (.list content unusable sent)

theorem media_emits {kind : MediaKind} {url mediaId caption fileName : Option String}
    (content : a.content = .media kind url mediaId caption fileName) :
    Emits (perform setup a (cache.map throughCache)) (Goes cache setup a) := by
  unfold perform
  simp only [content, sendMedia]
  split
  · cases found : mediaSource? url mediaId with
    | some source =>
      refine Emits.bind (send_emits a.envelope (mediaMessage_addressed _ kind source caption fileName)) ?_
      rintro id xs ls ⟨rfl, tried⟩
      split
      next sent =>
        refine .pure ?_
        rw [List.append_nil, ← sent]
        exact .one (.medium content found tried (.inl sent))
      next unsent =>
        have refused := Bool.not_eq_true _ ▸ unsent
        refine (deliverText_emits a.envelope _).bind fun delivered ys ms text => .pure ?_
        cases text with
        | broken broken =>
          rw [List.append_nil, List.append_nil, ← refused]
          exact .one (.medium content found tried (.inr (eq_false_of_ne_true broken)))
        | sent sent =>
          rw [List.append_nil]
          exact .two (.captionInstead content found tried (isSent_eq_false.mp refused) sent)
    | none =>
      refine (deliverText_emits a.envelope _).bind fun delivered ys ms text => .pure ?_
      cases text with
      | broken broken => exact .broken (by simp [content, forms]) broken
      | sent sent =>
        rw [List.append_nil]
        exact .one (.captionAlone content found sent)
  next broken => exact .pure (.broken (by simp [content, forms]) broken)

theorem email_emits {address subject body : String} (content : a.content = .email address subject body) :
    Emits (Notification.sendEmail setup address subject body) (Goes cache setup a) := by
  unfold Notification.sendEmail
  split
  · exact fun o => ⟨[], [_], .unposted rfl rfl rfl, [], rfl, .mailed content ⟨rfl, rfl, rfl⟩⟩
  next unable =>
    refine .pure ⟨[], rfl, .unmailed content ?_⟩
    cases mail : setup.mail with
    | none => exact .inl rfl
    | some service =>
      cases clock : setup.utcNow with
      | error fault => exact .inr rfl
      | ok now => exact absurd clock (unable service.1 service.2 now mail)

/-- Whatever an action asks for is done in one of the ways that there are. -/
theorem perform_emits (a : Action) : Emits (perform setup a (cache.map throughCache)) (Goes cache setup a) := by
  cases content : a.content with
  | interactive body buttons fallback => exact interactive_emits content
  | media kind url mediaId caption fileName => exact media_emits content
  | message text =>
    unfold perform
    simp only [content]
    refine (deliverText_emits a.envelope text).weaken fun delivered xs ls told => ?_
    cases told with
    | broken broken => exact .broken (by simp [content, forms]) broken
    | sent sent => exact .one (.text content sent)
  | template name language params =>
    unfold perform
    simp only [content]
    split
    · refine Emits.bind (send_emits a.envelope (templateMessage_addressed _ _ _ _)) ?_
      rintro id xs ls ⟨rfl, sent⟩
      refine .pure ?_
      rw [List.append_nil]
      exact .one (.template content sent)
    next broken => exact .pure (.broken (by simp [content, forms]) broken)
  | assign kind agentId =>
    unfold perform
    simp only [content]
    exact .pure ⟨[], rfl, .assigned content⟩
  | email address subject body =>
    unfold perform
    simp only [content]
    exact email_emits content

end

theorem Delivers.exchanges_le {a : Action} {sendings : List Sending} {delivered : Bool}
    (delivers : Delivers cache setup a sendings ls delivered) :
    (sendings.flatMap Sending.exchanges).length ≤ postsMax a.content := by
  cases delivers with
  | text content sent | template content sent =>
    rw [content, List.flatMap_singleton]
    exact sent.patient.few
  | buttons content _ sent _ | list content _ sent | medium content _ sent _ | captionAlone content _ sent =>
    rw [content, List.flatMap_singleton]
    exact Nat.le_trans sent.patient.few (Nat.le_add_right 3 3)
  | listInstead content _ tried _ sent | captionInstead content _ tried _ sent =>
    rw [content, List.flatMap_cons, List.flatMap_singleton, List.length_append]
    exact Nat.add_le_add tried.patient.few sent.patient.few
  | broken | assigned | mailed | unmailed => exact Nat.zero_le _

theorem dispatch_emits (a : Action) : Emits (dispatch setup a (cache.map throughCache)) (Goes cache setup a) := by
  refine .quietly (fun o => ?_) fun _ => perform_emits a
  unfold delay
  split <;> exact .nothing rfl rfl rfl

def Delivery.exchanges (d : Delivery cache setup) : List Exchange := d.sendings.flatMap Sending.exchanges

theorem dispatchAll_emits (actions : List Action) :
    Emits (dispatchAll setup actions (cache.map throughCache)) fun results xs ls =>
      ∃ deliveries : List (Delivery cache setup), deliveries.map Delivery.action = actions ∧
        results = deliveries.map Delivery.delivered ∧
        xs = deliveries.flatMap Delivery.exchanges ∧ ls = deliveries.flatMap Delivery.letters := by
  induction actions with
  | nil => exact .pure ⟨[], rfl, rfl, rfl, rfl⟩
  | cons a rest ih =>
    rw [dispatchAll, List.mapM_cons]
    refine (dispatch_emits a).bind ?_
    rintro delivered _ ls ⟨sendings, rfl, delivers⟩
    refine Emits.bind ih ?_
    rintro _ _ _ ⟨deliveries, same, rfl, rfl, rfl⟩
    refine .pure ⟨⟨a, sendings, ls, delivered, delivers⟩ :: deliveries, ?_, rfl, ?_, ?_⟩
    · rw [List.map_cons, same]
    · rw [List.append_nil, List.flatMap_cons, Delivery.exchanges]
    · rw [List.append_nil, List.flatMap_cons]

/-- A batch goes out action by action: each comes to one answer, in order, and all posts and e-mails of an action are made
before those of the next. No action keeps the others from being tried, whatever the channel and the e-mail service answer and
whatever the cache that keeps the breaker's state does. Each action goes out in one of the ways that there are: a message is
posted three times at most and again only after the connection was lost, never after an answer; and a text that stands in for
buttons or a medium is sent only after these came to no id, or if there are no buttons or too many. -/
theorem batch_goes_out_action_by_action (cache : AnyCache) (setup : Setup) (actions : List Action)
    (o : Outside) : ∃ deliveries : List (Delivery cache setup),
      deliveries.map Delivery.action = actions ∧
      (dispatchAll setup actions (cache.map throughCache) o).1 = deliveries.map Delivery.delivered ∧
      Emitted o (deliveries.flatMap Delivery.exchanges) (deliveries.flatMap Delivery.letters)
        (dispatchAll setup actions (cache.map throughCache) o).2 ∧
      ∀ d ∈ deliveries, d.exchanges.length ≤ postsMax d.action.content := by
  obtain ⟨_, _, emitted, deliveries, same, results, rfl, rfl⟩ := dispatchAll_emits actions o
  exact ⟨deliveries, same, results, emitted, fun d _ => d.delivers.exchanges_le⟩

-- A message that is lost for good does not keep the next one from being sent.
example : (dispatchAll { now := ⟨0, 0⟩ } [⟨{ recipient := "1" }, .message "Hi"⟩, ⟨{ recipient := "1" }, .message "Bye"⟩]
    none { channelAnswers := List.replicate 3 (some (.lost "away")) }).1 = [false, true] := by rfl

end Chatflow.Proofs.BatchDeliveries
