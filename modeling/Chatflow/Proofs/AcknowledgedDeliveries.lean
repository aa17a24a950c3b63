import Chatflow.Http.Service
import Chatflow.Proofs.LegibleDeliveries
import Chatflow.Proofs.WorkLogic

/-! Deliveries that are acknowledged. A delivery that is signed and holds a document is acknowledged, and its events are
handled, exactly if it can be read. One that cannot be read is answered as a failure, and none of its events is
handled. -/

namespace Chatflow.Proofs.AcknowledgedDeliveries
open Http LegibleDeliveries WorkLogic

variable {setup : Setup} {r : Request} {delivery : Value} {w : World}

/-- A delivery as the channel sends it: signed, and with a document in it. -/
structure Signed (setup : Setup) (r : Request) (delivery : Value) : Prop where
  route : r.route = .endpoint .deliver
  signature : Digest.verify (Text.utf8 r.body) ((r.header? "x-hub-signature-256").getD "")
    setup.settings.signingSecret = .ok true
  document : Value.ofJson r.body = .ok delivery

/-- The delivery is counted for the address it came from. -/
def counting (setup : Setup) (r : Request) : StateM Outside Bool :=
  RateLimit.hit setup.link (.peer (Webhook.remoteAddress (r.header? "x-forwarded-for") r.peer))
    ⟨.whole setup.settings.peerRateLimit, 60⟩

def counted (setup : Setup) (r : Request) (w : World) : World := { w with outside := (counting setup r w.outside).2 }

def acknowledgement (r : Request) (count : Nat) : Response :=
  (Response.ofDocument (.obj [("status", .str "success"), ("events", .int count)])).answering r

theorem deliver_posted {path method : String} (offered : (method, Endpoint.deliver) ∈ endpoints path) :
    method = "POST" := by
  have below : ∀ rest, (method, Endpoint.deliver) ∈ interfaceEndpoints rest → method = "POST" := by
    intro rest offered
    unfold interfaceEndpoints at offered
    split at offered
    case h_1 => simpa using offered
    case h_2 => split at offered <;> simp at offered
    all_goals simp at offered
  unfold endpoints at offered
  split at offered
  · simp at offered
  · split at offered
    case h_5 => exact below _ offered
    all_goals simp at offered

theorem Signed.posted (signed : Signed setup r delivery) : r.method = "POST" := by
  have route := signed.route
  unfold Request.route Http.route at route
  split at route
  · split at route <;> cases route
  · split at route
    next found =>
      cases route
      rw [← deliver_posted (List.mem_of_find?_eq_some found)]
      have asked := List.find?_some found
      exact (beq_iff_eq.mp asked).symm
    · cases route

/-- A request to deliver is answered by what responds to it, if there is time for it. -/
theorem Signed.served (signed : Signed setup r delivery) (limit : Float) (w : World) : serve setup r limit w =
    if limit ≤ 0 then (.ok ((Response.refusal 504 "Request timed out").answering r), w) else respond setup r w := by
  have whole : ∀ response, sent r response = response := by
    intro response
    unfold sent
    rw [signed.posted]
    rfl
  have plain : preflight? r = none := by
    unfold preflight?
    rw [signed.posted]
    split
    next posted _ _ => exact absurd posted (by decide)
    next => rfl
  unfold serve
  split
  · rw [whole]
    rfl
  · rw [plain]
    simp only [whole]
    rw [bind_pure]

/-- To filter with a test that never fails does not fail either. -/
theorem filterM_ends {α : Type} {test : α → Work Bool} (ends : ∀ a w, ∃ passes v, test a w = (.ok passes, v))
    (items : List α) (w : World) : ∃ kept v, items.filterM test w = (.ok kept, v) ∧ kept.Sublist items := by
  have collected : ∀ (items taken : List α) (w : World), ∃ kept v,
      List.filterAuxM test items taken w = (.ok (List.reverse kept ++ taken), v) ∧ List.Sublist kept items := by
    intro items
    induction items with
    | nil => exact fun taken w => ⟨[], w, rfl, .slnil⟩
    | cons a rest ih =>
      intro taken w
      obtain ⟨passes, v, tested⟩ := ends a w
      rw [List.filterAuxM, bind_apply, tested]
      cases passes with
      | true =>
        obtain ⟨kept, last, done, among⟩ := ih (a :: taken) v
        exact ⟨a :: kept, last, by simpa using done, among.cons_cons a⟩
      | false =>
        obtain ⟨kept, last, done, among⟩ := ih taken v
        exact ⟨kept, last, done, among.cons a⟩
  obtain ⟨kept, v, done, among⟩ := collected items [] w
  refine ⟨kept, v, ?_, among⟩
  rw [List.filterM, bind_apply, done]
  simp

theorem quota_ends (setup : Setup) (events : List Event) (w : World) :
    ∃ kept v, Answer.withinQuota setup events w = (.ok kept, v) ∧ kept.Sublist events :=
  filterM_ends (fun _ _ => ⟨_, _, rfl⟩) events w

theorem handleAll_ends (setup : Setup) (events : List Event) (w : World) :
    handleAll setup events w = (.ok (), (handleAll setup events w).2) := by
  induction events generalizing w with
  | nil => rfl
  | cons e rest ih =>
    rw [handleAll, bind_apply]
    exact ih _

/-- A delivery that comes from an address which has not sent too many. -/
theorem Signed.answered (signed : Signed setup r delivery) (admitted : (counting setup r w.outside).1 = true) :
    Answer.ofRequest setup r w = (do
      let events ← Answer.withinQuota setup (← Work.check (Webhook.events delivery))
      return (⟨.ofDocument (.obj [("status", .str "success"), ("events", .int events.length)]), events⟩ : Answer))
        (counted setup r w) := by
  simp only [Answer.ofRequest, signed.route, Answer.ofEndpoint, Answer.deliver, Answer.proceed, signed.signature,
    signed.document]
  have hit : Work.onOutside (counting setup r) w = (.ok true, counted setup r w) := by
    rw [← admitted]
    rfl
  rw [bind_apply]
  simp only [Work.check, if_true, Answer.acceptDelivery]
  rw [bind_apply]
  unfold counting at hit
  rw [hit]
  rfl

theorem Signed.acknowledged {kept : List Event} {v : World} (signed : Signed setup r delivery)
    (admitted : (counting setup r w.outside).1 = true) (legible : LegibleDelivery delivery)
    (within : Answer.withinQuota setup (eventsIn delivery) (counted setup r w) = (.ok kept, v)) :
    respond setup r w = (.ok (acknowledgement r kept.length), (handleAll setup kept v).2) := by
  have answer : Answer.ofRequest setup r w =
      (.ok ⟨.ofDocument (.obj [("status", .str "success"), ("events", .int kept.length)]), kept⟩, v) := by
    rw [signed.answered admitted, ((events_read delivery).read _).mpr ⟨legible, rfl⟩, bind_apply]
    simp only [Work.check]
    rw [bind_apply, within]
    rfl
  unfold respond
  rw [bind_apply]
  simp only [Work.attempt, answer]
  rw [bind_apply, handleAll_ends]
  rfl

theorem Signed.refused (signed : Signed setup r delivery) (admitted : (counting setup r w.outside).1 = true)
    (illegible : ¬LegibleDelivery delivery) : respond setup r w = (.ok failure, counted setup r w) := by
  obtain ⟨read, misread⟩ := events_read delivery
  cases failed : Webhook.events delivery with
  | ok events => exact absurd ((read events).mp failed).1 illegible
  | error fault =>
    have answer : Answer.ofRequest setup r w = (.error fault, counted setup r w) := by
      rw [signed.answered admitted, failed]
      rfl
    have unforeseen : ofFault? fault = none := by cases misread fault failed <;> rfl
    unfold respond
    rw [bind_apply]
    simp only [Work.attempt, answer, unforeseen]
    rfl

theorem hexDigits_plain (width n : Nat) : ∀ c ∈ Text.hexDigits width n, c.val < 128 := by
  induction width generalizing n with
  | zero => exact fun c member => by cases member
  | succ width ih =>
    intro c member
    rw [Text.hexDigits, List.mem_append, List.mem_singleton] at member
    rcases member with before | rfl
    · exact ih _ c before
    · have digits : ∀ d < 16, (Text.hexDigit d).val < 128 := by decide
      exact digits _ (Nat.mod_lt _ (by decide))

/-- What a message is signed with is taken for its signature. -/
theorem verify_sign {secret : String} (whole : Text.holdsHalf secret = false) (message : List UInt8) :
    Digest.verify message (String.ofList (Digest.scheme ++ Digest.hexText (Digest.sign (Text.utf8 secret) message)))
      secret = .ok true := by
  generalize hex : Digest.hexText (Digest.sign (Text.utf8 secret) message) = digits
  have plain : ∀ c ∈ digits, c.val < 128 := by
    rw [← hex]
    intro c member
    obtain ⟨_, _, written⟩ := List.mem_flatMap.mp member
    exact hexDigits_plain _ _ c written
  have equal : Digest.agrees (String.ofList digits) (String.ofList digits) = .ok true := by
    unfold Digest.agrees
    rw [if_neg]
    · simp
    · simp only [String.toList_append, String.toList_ofList, List.any_eq_true, List.mem_append, or_self,
        decide_eq_true_eq, not_exists, not_and]
      intro c member high
      exact absurd (plain c member) (UInt32.not_lt.mpr high)
  unfold Digest.verify
  simp only [String.toList_ofList, List.drop_left, hex, equal, whole]
  have marked : Digest.scheme.isPrefixOf (Digest.scheme ++ digits) = true := by
    rw [List.isPrefixOf_iff_prefix]
    exact List.prefix_append _ _
  rw [marked]
  rfl

/-- A delivery with a valid signature is acknowledged exactly if it can be read. Its events then are those of its
messages that have a sender, in their order, and those of contacts who have not sent too many are handled. If any part
of it cannot be read, it is answered as a failure and nothing of it is handled. -/
theorem signed_delivery_acknowledged_iff_legible (signed : Signed setup r delivery)
    (admitted : (counting setup r w.outside).1 = true) (limit : Float) :
    (∀ events, Webhook.events delivery = .ok events ↔ LegibleDelivery delivery ∧ eventsIn delivery = events) ∧
    serve setup r limit w = (if limit ≤ 0 then (.ok ((Response.refusal 504 "Request timed out").answering r), w)
      else respond setup r w) ∧
    (LegibleDelivery delivery → ∃ kept v,
      Answer.withinQuota setup (eventsIn delivery) (counted setup r w) = (.ok kept, v) ∧
      kept.Sublist (eventsIn delivery) ∧
      respond setup r w = (.ok (acknowledgement r kept.length), (handleAll setup kept v).2)) ∧
    (¬LegibleDelivery delivery → respond setup r w = (.ok failure, counted setup r w)) := by
  refine ⟨(events_read delivery).read, signed.served limit w, fun legible => ?_, signed.refused admitted⟩
  obtain ⟨kept, v, within, among⟩ := quota_ends setup (eventsIn delivery) (counted setup r w)
  exact ⟨kept, v, within, among, signed.acknowledged admitted legible within⟩

/-- A service that nothing is connected to. -/
def unattached : Setup := { now := ⟨5, 0⟩ }

/-- A delivery as it is sent to the service. -/
def posting (body : String) : Request where
  method := "POST"
  path := "/api/v1/webhooks/whatsapp"
  headers := [("X-Hub-Signature-256", String.ofList (Digest.scheme ++
    Digest.hexText (Digest.sign (Text.utf8 unattached.settings.signingSecret) (Text.utf8 body))))]
  body := body

theorem posting_signed {body : String} (document : Value.ofJson body = .ok delivery) :
    Signed unattached (posting body) delivery := by
  have name : ("X-Hub-Signature-256".toLower == "x-hub-signature-256") = true := by decide +kernel
  have route : Http.route "POST" (plainPath "/api/v1/webhooks/whatsapp") = .endpoint .deliver := by
    decide +kernel
  refine ⟨route, ?_, document⟩
  simp only [posting, Request.header?, List.find?_cons, name, Option.map_some, Option.getD_some]
  exact verify_sign (by decide) _

/-- A delivery of messages. -/
def batchText (messages : String) : String :=
  "\x7b\"entry\": [\x7b\"changes\": [\x7b\"field\": \"messages\", \"value\": \x7b\"messages\": [" ++ messages ++
    "]\x7d\x7d]\x7d]\x7d"

def batch (messages : List Value) : Value :=
  .obj [("entry", .list [.obj [("changes", .list [.obj [("field", .str "messages"),
    ("value", .obj [("messages", .list messages)])]])]])]

def hiText : String :=
  "\x7b\"from\": \"5215512345678\", \"type\": \"text\", \"text\": \x7b\"body\": \"Hi\"\x7d\x7d"

def hi : Value :=
  .obj [("from", .str "5215512345678"), ("type", .str "text"), ("text", .obj [("body", .str "Hi")])]

def hiEvent : Event := { address := "+5215512345678", text := "Hi", contactId := some "5215512345678" }

theorem hi_told : Webhook.events (batch [hi]) = .ok [hiEvent] := rfl

set_option maxRecDepth 4000 in
theorem hi_signed : Signed unattached (posting (batchText hiText)) (batch [hi]) := posting_signed rfl

theorem greeting_is_acknowledged :
    Signed unattached (posting (batchText hiText)) (batch [hi]) ∧
    (counting unattached (posting (batchText hiText)) ({} : World).outside).1 = true ∧
    respond unattached (posting (batchText hiText)) {} =
      (.ok (acknowledgement (posting (batchText hiText)) 1), (handleAll unattached [hiEvent] {}).2) := by
  obtain ⟨reads, _, acknowledged, _⟩ := @signed_delivery_acknowledged_iff_legible unattached
    (posting (batchText hiText)) (batch [hi]) {} hi_signed rfl timeLimit
  obtain ⟨legible, told⟩ := (reads [hiEvent]).mp hi_told
  obtain ⟨kept, v, within, _, answer⟩ := acknowledged legible
  rw [told] at within
  cases within
  exact ⟨hi_signed, rfl, answer⟩

theorem spoilt_illegible : ¬LegibleDelivery (batch [hi, .null]) := by
  have failed : Webhook.events (batch [hi, .null]) = .error .noFields := rfl
  have read := events_read (batch [hi, .null])
  rw [failed] at read
  exact read.illegible

set_option maxRecDepth 4000 in
/-- Something that is no message keeps a delivery from being acknowledged, and the message beside it from being
handled. -/
theorem spoilt_batch_fails :
    let r := posting (batchText (hiText ++ ", null"))
    Signed unattached r (batch [hi, .null]) ∧ (counting unattached r ({} : World).outside).1 = true ∧
      respond unattached r {} = (.ok failure, {}) ∧ failure.status = 500 := by
  intro r
  have signed : Signed unattached r (batch [hi, .null]) := posting_signed rfl
  exact ⟨signed, rfl, signed.refused rfl spoilt_illegible, rfl⟩

end Chatflow.Proofs.AcknowledgedDeliveries
