import Chatflow.Channel
import Chatflow.Proofs.CacheOutages

/-! Messages on their way to the channel. What happens to the posts of one is told by what the channel answers to them, and
what the cache answers to the breaker, through which they are made, does not change that. -/

namespace Chatflow.Proofs.MessagePosts
open Cache Channel SharedBreaker CacheOutages

/-- A cache, if there is one. It may answer each command with anything, and that may hang on all that happened before. -/
abbrev AnyCache := Option (Link (Server Reading))

def throughCache (cache : Link (Server Reading)) : Link Outside := fun command o =>
  let (reply, after) := cache command o.cache
  (reply, { o with cache := after })

/-- A setup has the breaker keep its state in a cache server, if it has one. -/
theorem link_throughCache (setup : Setup) :
    setup.link = (if setup.hasCache then some (Server.perform setup.reading) else none).map throughCache := by
  unfold Setup.link
  split <;> rfl

/-- A post to the channel, and what came of it. -/
structure Exchange where
  post : Post
  answer : Option PostAnswer

/-- What goes out between two states of the outside: posts to the channel and e-mails, in order. What comes of the posts is
what the channel has in store, in its order. -/
structure Emitted (o : Outside) (exchanges : List Exchange) (letters : List Letter) (after : Outside) : Prop where
  posts : after.posts = o.posts ++ exchanges.map Exchange.post
  answers : ∀ (i : Nat) (e : Exchange), exchanges[i]? = some e → e.answer = o.channelAnswers[i]?.join
  remaining : after.channelAnswers = o.channelAnswers.drop exchanges.length
  letters : after.letters = o.letters ++ letters

/-- One post, made so many times at most, and again only if the connection was at fault. -/
structure Patient (limit : Nat) (post : Post) (exchanges : List Exchange) : Prop where
  few : exchanges.length ≤ limit
  same : ∀ e ∈ exchanges, e.post = post
  again : ∀ e ∈ exchanges.dropLast, ∃ message, e.answer = some (.lost message)

/-- The sending of a message: the posts that were made for it, and the id that came of them. -/
structure Sending where
  exchanges : List Exchange
  id : Value

/-- Whether a message has an id by what came of a post. The channel gives it one if it accepts the message of its own accord,
and else an answer of success may state one. No id is told from an answer that is illegible or in no form. -/
def Earns : Option PostAnswer → Value → Prop
  | none, id => ∃ n : Nat, id = .str s!"wamid.{n}"
  | some (.response status body), id => id = if status = 200 then (messageId body).toOption.getD .null else .null
  | some _, id => id = .null

/-- It is the last post that a message has its id by. -/
def LastEarns (exchanges : List Exchange) (id : Value) : Prop :=
  match exchanges.getLast? with
  | some e => Earns e.answer id
  | none => id = .null

/-- A cache that has a breaker refuse calls, in one state at least. -/
def Shuts (cache : AnyCache) (c : Circuit) (now : Reading) : Prop :=
  ∃ link server, cache = some link ∧ Refuses c now (link (.readTable c.key) server).1

/-- How a message is sent, whatever was sent before. Only a breaker that the cache shuts keeps it from being tried, or a setup
where nothing can be posted. -/
structure Sending.Of (cache : AnyCache) (setup : Setup) (env : Envelope) (message : Fields) (s : Sending) : Prop where
  patient : Patient 3 ⟨setup.channelUrl ++ "/" ++ (filled? env.deviceId).getD setup.channelPhone ++ "/messages",
    .obj message⟩ s.exchanges
  tried : s.exchanges = [] → Shuts cache circuit setup.reading ∨ setup.works .posting = false
  earned : LastEarns s.exchanges s.id

def Sending.OfText (cache : AnyCache) (setup : Setup) (env : Envelope) (text : String) : Sending → Prop :=
  Sending.Of cache setup env (textMessage env.recipient text)

variable {α β : Type} {o middle after : Outside} {xs ys : List Exchange} {ls ms : List Letter} {setup : Setup}
  {cache : AnyCache}

namespace Emitted

theorem unposted (posts : after.posts = o.posts) (answers : after.channelAnswers = o.channelAnswers)
    (letters : after.letters = o.letters ++ ls) : Emitted o [] ls after where
  posts := by rw [posts, List.map_nil, List.append_nil]
  answers i e impossible := by cases impossible
  remaining := by rw [answers, List.length_nil, List.drop_zero]
  letters := letters

theorem nothing (posts : after.posts = o.posts) (answers : after.channelAnswers = o.channelAnswers)
    (letters : after.letters = o.letters) : Emitted o [] [] after :=
  .unposted posts answers (by rw [letters, List.append_nil])

theorem single {post : Post} (posts : after.posts = o.posts ++ [post])
    (answers : after.channelAnswers = o.channelAnswers.tail) (letters : after.letters = o.letters) :
    Emitted o [⟨post, o.channelAnswers.head?.join⟩] [] after where
  posts := posts
  answers i e placed := by
    cases i with
    | zero =>
      cases placed
      rw [List.head?_eq_getElem?]
    | succ i => cases placed
  remaining := by rw [answers, List.length_singleton, List.drop_one]
  letters := by rw [letters, List.append_nil]

theorem trans (first : Emitted o xs ls middle) (next : Emitted middle ys ms after) :
    Emitted o (xs ++ ys) (ls ++ ms) after where
  posts := by rw [next.posts, first.posts, List.map_append, List.append_assoc]
  answers i e placed := by
    rw [List.getElem?_append] at placed
    split at placed
    · exact first.answers i e placed
    next beyond =>
      rw [next.answers _ e placed, first.remaining, List.getElem?_drop, Nat.add_sub_cancel' (Nat.not_lt.mp beyond)]
  remaining := by rw [next.remaining, first.remaining, List.drop_drop, List.length_append]
  letters := by rw [next.letters, first.letters, List.append_assoc]

end Emitted

/-- Work that comes to an answer which fits what it emits. -/
def Emits (work : Outside → α × Outside) (fits : α → List Exchange → List Letter → Prop) : Prop :=
  ∀ o, ∃ xs ls, Emitted o xs ls (work o).2 ∧ fits (work o).1 xs ls

namespace Emits
variable {fits : β → List Exchange → List Letter → Prop} {mid : α → List Exchange → List Letter → Prop}

theorem pure {b : β} (holds : fits b [] []) : Emits (Pure.pure b : StateM Outside β) fits :=
  fun _ => ⟨[], [], .nothing rfl rfl rfl, holds⟩

theorem bind {work : StateM Outside α} {next : α → StateM Outside β} (first : Emits work mid)
    (rest : ∀ a xs ls, mid a xs ls → Emits (next a) fun b ys ms => fits b (xs ++ ys) (ls ++ ms)) :
    Emits (work >>= next) fits := by
  intro o
  obtain ⟨xs, ls, emitted, holds⟩ := first o
  obtain ⟨ys, ms, later, fitting⟩ := rest _ xs ls holds (work o).2
  exact ⟨xs ++ ys, ls ++ ms, emitted.trans later, fitting⟩

/-- Work that emits nothing does not count. -/
theorem quietly {work : StateM Outside α} {next : α → StateM Outside β} (silent : ∀ o, Emitted o [] [] (work o).2)
    (rest : ∀ a, Emits (next a) fits) : Emits (work >>= next) fits := by
  intro o
  obtain ⟨ys, ms, later, fitting⟩ := rest (work o).1 (work o).2
  exact ⟨ys, ms, (silent o).trans later, fitting⟩

theorem weaken {work : StateM Outside β} {other : β → List Exchange → List Letter → Prop} (emits : Emits work fits)
    (implies : ∀ b xs ls, fits b xs ls → other b xs ls) : Emits work other := by
  intro o
  obtain ⟨xs, ls, emitted, holds⟩ := emits o
  exact ⟨xs, ls, emitted, implies _ xs ls holds⟩

end Emits

/-- Commands to the cache emit nothing. -/
theorem emitted_of_commanded {link : Link (Server Reading)} (commanded : Commanded (some (throughCache link)) o after) :
    Emitted o [] [] after := by
  let view (o : Outside) : List Post × List (Option PostAnswer) × List Letter := (o.posts, o.channelAnswers, o.letters)
  have same : view after = view o := commanded.same fun connected linked c o => by
    cases linked
    rfl
  exact .nothing (congrArg Prod.fst same) (congrArg (fun view => view.2.1) same) (congrArg (fun view => view.2.2) same)

/-- A call through a breaker emits what its work does, if it is not refused. -/
theorem callVia_emits {fits : Except Fault α → List Exchange → List Letter → Prop} {c : Circuit} {now : Reading}
    {work : StateM Outside (Except Fault α)} (emits : Emits work fits)
    (refused : Shuts cache c now → fits (.error (.circuitOpen c.service)) [] []) :
    Emits (callVia (cache.map throughCache) c now work) fits := by
  intro o
  cases cache with
  | none => exact emits o
  | some link =>
    by_cases refuses : Refuses c now (throughCache link (.readTable c.key) o).1
    · have read : Commanded (some (throughCache link)) o (throughCache link (.readTable c.key) o).2 :=
        .command .still rfl _
      refine ⟨[], [], ?_, ?_⟩ <;>
        simp only [Option.map_some, callVia, call, bind, StateT.bind, isOpen_refused refuses, if_true]
      · exact emitted_of_commanded read
      · exact refused ⟨link, o.cache, rfl, refuses⟩
    · rw [Option.map_some, callVia, call_let_in refuses]
      obtain ⟨xs, ls, emitted, holds⟩ := emits (isOpen (throughCache link) c now o).2
      have asked := isOpen_commanded (throughCache link) c now o
      have noted := note_commanded (throughCache link) c now (work (isOpen (throughCache link) c now o).2).1.isOk
        (work (isOpen (throughCache link) c now o).2).2
      have whole := ((emitted_of_commanded asked).trans emitted).trans (emitted_of_commanded noted)
      rw [List.nil_append, List.append_nil, List.nil_append, List.append_nil] at whole
      exact ⟨xs, ls, whole, holds⟩

/-- The id that an answer states for a message. -/
def idOf : Except Fault Answer → Value
  | .ok (status, body) => if status = 200 then (body >>= messageId).toOption.getD .null else .null
  | .error _ => .null

/-- What one attempt at a post comes to: the breaker refuses it, the connection is lost, or there is a result. -/
inductive Attempted (shut : Prop) (post : Post) : Except Fault Answer → List Exchange → Prop where
  | refused (service : String) (refuses : shut) : Attempted shut post (.error (.circuitOpen service)) []
  | lost (message : String) : Attempted shut post (.error (.connectionLost message)) [⟨post, some (.lost message)⟩]
  | settled {result answer} (final : ∀ message, result ≠ .error (.connectionLost message))
      (earned : Earns answer (idOf result)) : Attempted shut post result [⟨post, answer⟩]

theorem post_emits (shut : Prop) (url : String) (body : Value) :
    Emits (post url body) fun result xs ls => ls = [] ∧ Attempted shut ⟨url, body⟩ result xs := by
  intro o
  have posted : ∃ accepted, (post url body o).2 = { o with
      posts := o.posts ++ [⟨url, body⟩], channelAnswers := o.channelAnswers.tail, accepted := accepted } ∧
      Attempted shut ⟨url, body⟩ (post url body o).1 [⟨⟨url, body⟩, o.channelAnswers.head?.join⟩] := by
    have changes (f : Outside → Outside) (o : Outside) : (modify f : StateM Outside PUnit) o = (⟨⟩, f o) := rfl
    have looks (o : Outside) : (get : StateM Outside Outside) o = (o, o) := rfl
    unfold post
    simp only [bind, StateT.bind, changes, looks]
    cases o.channelAnswers.head?.join with
    | none => exact ⟨_, rfl, .settled (fun message impossible => by cases impossible) ⟨_, rfl⟩⟩
    | some answer =>
      cases answer with
      | response | broken => exact ⟨_, rfl, .settled (fun message impossible => by cases impossible) rfl⟩
      | illegible status =>
        exact ⟨_, rfl, .settled (fun message impossible => by cases impossible) (ite_self _)⟩
      | lost message => exact ⟨_, rfl, .lost message⟩
  obtain ⟨accepted, same, attempted⟩ := posted
  refine ⟨_, [], ?_, rfl, attempted⟩
  rw [same]
  exact .single rfl rfl rfl

namespace Patient
variable {post : Post} {limit more : Nat}

theorem none (limit : Nat) (post : Post) : Patient limit post [] :=
  ⟨Nat.zero_le limit, fun _ impossible => (by cases impossible), fun _ impossible => (by cases impossible)⟩

theorem once (limit : Nat) (post : Post) (answer : Option PostAnswer) : Patient (limit + 1) post [⟨post, answer⟩] :=
  ⟨Nat.le_add_left 1 limit, fun _ only => (by rw [List.mem_singleton.mp only]),
    fun _ impossible => (by cases impossible)⟩

/-- A post is made again after the connection was lost. -/
theorem cons {message : String} (later : Patient limit post xs) :
    Patient (limit + 1) post (⟨post, some (.lost message)⟩ :: xs) where
  few := Nat.succ_le_succ later.few
  same e member := by
    rcases List.mem_cons.mp member with rfl | inside
    · rfl
    · exact later.same e inside
  again e member := by
    cases xs with
    | nil => cases member
    | cons next rest =>
      rcases List.mem_cons.mp member with rfl | inside
      · exact ⟨message, rfl⟩
      · exact later.again e inside

end Patient

theorem LastEarns.cons {post : Post} {message : String} {id : Value} (later : LastEarns xs id) :
    LastEarns (⟨post, some (.lost message)⟩ :: xs) id := by
  cases xs with
  | nil => exact later
  | cons next rest => exact later

/-- The induction is on the attempts that are left. -/
theorem postAgain_emits (url : String) (body : Value) (attempt left : Nat) :
    Emits (postAgain setup (cache.map throughCache) url body attempt left) fun result xs ls =>
      ls = [] ∧ Patient left ⟨url, body⟩ xs ∧ (xs = [] → Shuts cache circuit setup.reading ∨ left = 0) ∧
        LastEarns xs (idOf result) := by
  induction left generalizing attempt with
  | zero => exact .pure ⟨rfl, .none 0 _, fun _ => .inr rfl, rfl⟩
  | succ left ih =>
    have attempt : Emits (callVia (cache.map throughCache) circuit setup.reading (post url body)) fun result xs ls =>
        ls = [] ∧ Attempted (Shuts cache circuit setup.reading) ⟨url, body⟩ result xs :=
      callVia_emits (post_emits _ url body) fun shut => ⟨rfl, .refused _ shut⟩
    refine attempt.bind ?_
    rintro result xs ls ⟨rfl, attempted⟩
    cases attempted with
    | refused service shut => exact .pure ⟨rfl, .none _ _, fun _ => .inl shut, rfl⟩
    | lost message =>
      dsimp only
      split
      · exact .pure ⟨rfl, .once _ _ _, (absurd · (List.cons_ne_nil _ _)), rfl⟩
      · refine .quietly (fun o => .nothing rfl rfl rfl) fun _ => (ih _).weaken ?_
        rintro result xs ls ⟨rfl, patient, tried, earned⟩
        exact ⟨rfl, patient.cons, (absurd · (List.cons_ne_nil _ _)), earned.cons⟩
    | settled final earned =>
      split
      next message => exact absurd rfl (final message)
      next => exact .pure ⟨rfl, .once _ _ _, (absurd · (List.cons_ne_nil _ _)), earned⟩

theorem postPatiently_emits (url : String) (body : Value) :
    Emits (postPatiently setup url body (cache.map throughCache)) fun result xs ls =>
      ls = [] ∧ Patient 3 ⟨url, body⟩ xs ∧
        (xs = [] → Shuts cache circuit setup.reading ∨ setup.works .posting = false) ∧ LastEarns xs (idOf result) := by
  unfold postPatiently
  split
  · refine (postAgain_emits url _ 1 3).weaken ?_
    rintro result xs ls ⟨rfl, patient, tried, earned⟩
    exact ⟨rfl, patient, fun none => .inl ((tried none).resolve_right (Nat.succ_ne_zero 2)), earned⟩
  next broken => exact .pure ⟨rfl, .none 3 _, fun _ => .inr (eq_false_of_ne_true broken), rfl⟩

theorem raiseAlert_silent (severity error : String) (context : Fields) (o : Outside) :
    Emitted o [] [] (Outside.raiseAlert setup severity error context o).2 := by
  change Emitted o [] [] (if setup.hasAlerting && setup.utcNow.isOk then _ else _)
  split <;> exact .nothing rfl rfl rfl

/-- A message to somebody. -/
def Addressed (message : Fields) : Prop := ((message.get? "to").getD .null).truthy = true

theorem recipient_truthy (s : String) : (Value.str (Phone.recipient s)).truthy = true := by
  have some : Phone.recipientChars s.toList ≠ [] := by
    unfold Phone.recipientChars
    dsimp only
    split
    next plus =>
      intro none
      rw [none] at plus
      cases plus
    · exact List.cons_ne_nil _ _
  refine bne_iff_ne.mpr fun empty => some ?_
  rw [← String.toList_ofList (l := Phone.recipientChars s.toList)]
  exact congrArg String.toList empty

theorem addressed_of_to {message : Fields} (recipient : String)
    (states : message.get? "to" = some (.str (Phone.recipient recipient))) : Addressed message := by
  rw [Addressed, states]
  exact recipient_truthy recipient

theorem send_emits (env : Envelope) {message : Fields} (addressed : Addressed message) :
    Emits (Channel.send setup message env.deviceId (cache.map throughCache)) fun id xs ls =>
      ls = [] ∧ Sending.Of cache setup env message ⟨xs, id⟩ := by
  unfold Channel.send
  dsimp only
  split
  next unaddressed => exact absurd addressed (ne_true_of_eq_false ((Bool.not_eq_true' _).mp unaddressed))
  · refine (postPatiently_emits _ _).bind ?_
    rintro result xs ls ⟨rfl, patient, tried, earned⟩
    have closes {id : Value} (states : id = idOf result) :
        [] ++ [] = ([] : List Letter) ∧ Sending.Of cache setup env message ⟨xs ++ [], id⟩ := by
      rw [List.append_nil, List.append_nil, states]
      exact ⟨rfl, patient, tried, earned⟩
    split
    · exact .quietly (raiseAlert_silent _ _ _) fun _ => .pure (closes rfl)
    next status body =>
      by_cases success : status = 200
      · rw [if_pos success]
        have stated : idOf (.ok (status, body)) = (body >>= messageId).toOption.getD .null := if_pos success
        split
        next id told => exact .pure (closes (by rw [stated, told]; rfl))
        next fault told =>
          exact .quietly (raiseAlert_silent _ _ _) fun _ => .pure (closes (by rw [stated, told]; rfl))
      · rw [if_neg success]
        have none : Value.null = idOf (.ok (status, body)) := (if_neg success).symm
        split
        · split
          · exact .quietly (raiseAlert_silent _ _ _) fun _ => .pure (closes none)
          · exact .pure (closes none)
        · exact .quietly (raiseAlert_silent _ _ _) fun _ => .pure (closes none)

end Chatflow.Proofs.MessagePosts
