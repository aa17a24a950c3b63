import Chatflow.Cache.RateLimit
import Chatflow.Proofs.CacheSlots
import Chatflow.Proofs.Readings
import Chatflow.Proofs.WorkLogic

/-! Hits at a rate limiter whose counts are kept in the cache, over any mix of contacts and peers. The hits of each fall into
windows, and of each window the first so many are allowed. -/

namespace Chatflow.Proofs.RateWindows
open Cache Cache.Server RateLimit CacheSlots WorkLogic

structure Hit (τ : Type) where
  subject : Subject
  now : τ

/-- What comes of a hit: whether its key was missing in the cache, and whether it is allowed. -/
structure Answer (τ : Type) where
  now : τ
  opens : Bool
  allowed : Bool
deriving DecidableEq

variable {τ : Type}

def times (subject : Subject) (hits : List (Hit τ)) : List τ :=
  (hits.filter fun hit => hit.subject = subject).map Hit.now

/-- What comes of the hits of a subject. -/
def told (subject : Subject) (answers : List (Subject × Answer τ)) : List (Answer τ) :=
  (answers.filter fun answer => answer.1 = subject).map Prod.snd

/-- The hits of a window are allowed up to a limit, and the first of them finds its key missing. -/
def answersIn (limit : Nat) (window : List τ) : List (Answer τ) :=
  window.mapIdx fun i now => ⟨now, decide (i = 0), decide (i < limit)⟩

section
variable [Clock τ] (limit seconds : Subject → Nat)

/-- What comes of hits, one after another. -/
def run : List (Hit τ) → Server τ → List (Subject × Answer τ)
  | [], _ => []
  | hit :: rest, s =>
    let quota : Quota := ⟨.whole (limit hit.subject), .whole (seconds hit.subject)⟩
    let answer := RateLimit.hit (some (Server.perform hit.now)) hit.subject quota s
    (hit.subject, ⟨hit.now, (slot? (prune s.slots hit.now) hit.subject.key).isNone, answer.1⟩) :: run rest answer.2

/-- Times in windows. A window is opened by the first time outside the one before, and is open for so many seconds. -/
def windows (seconds : Amount) : List τ → List (List τ)
  | [] => []
  | first :: rest =>
    (first :: rest.takeWhile fun now => !Clock.reached (Clock.after first seconds) now) ::
      windows seconds (rest.dropWhile fun now => !Clock.reached (Clock.after first seconds) now)
termination_by times => times.length
decreasing_by exact Nat.lt_succ_of_le (List.dropWhile_sublist _).length_le

/-- What is reached stays reached. -/
def Stays (τ : Type) [Clock τ] : Prop :=
  ∀ {time now later : τ}, Clock.reached time now = true → Clock.reached now later = true → Clock.reached time later = true

/-- A time is one of a span of so many seconds. -/
def within (start : τ) (seconds : Amount) (now : τ) : Bool :=
  Clock.reached start now && !Clock.reached (Clock.after start seconds) now

/-- How many hits are allowed in a span. -/
def allowedWithin (start : τ) (seconds : Amount) (answers : List (Answer τ)) : Nat :=
  answers.countP fun answer => answer.allowed && within start seconds answer.now

end

section
variable [Clock τ] {subject other : Subject} {quota : Quota} {now : τ} {s : Server τ} {key : String}

theorem subjectKey_injective : Function.Injective Subject.key := by
  have headed : ∀ {former latter a b : String}, former ++ a = latter ++ b →
      former.toList ++ a.toList = latter.toList ++ b.toList := by
    intro former latter a b same
    rw [← String.toList_append, same, String.toList_append]
  have apart : ∀ a b : String, Subject.key (.address a) ≠ Subject.key (.peer b) := by
    intro a b same
    have spelt := congrArg (fun text : List Char => text[11]?) (headed same)
    cases spelt
  intro one another same
  cases one with
  | address a =>
    cases another with
    | address b => rw [String.toList_injective (List.append_cancel_left (headed same))]
    | peer b => exact absurd same (apart a b)
  | peer a =>
    cases another with
    | address b => exact absurd same.symm (apart b a)
    | peer b => rw [String.toList_injective (List.append_cancel_left (headed same))]

/-- A hit is counted, and the first of its key has the key given its time. -/
theorem hit_apply {σ : Type} (link : Link σ) (subject : Subject) (quota : Quota) (s : σ) :
    hit (some link) subject quota s =
      match link (.increment subject.key) s with
      | (.ok (.count n), counted) =>
        if n = 1 then
          match link (.expire subject.key quota.seconds) counted with
          | (.ok _, left) => (quota.limit.allows n, left)
          | (.error _, left) => (true, left)
        else (quota.limit.allows n, counted)
      | (_, counted) => (true, counted) := by
  have run : hit (some link) subject quota s =
      match count link subject.key quota.seconds s with
      | (.ok n, left) => (quota.limit.allows n, left)
      | (.error _, left) => (true, left) := by
    simp only [hit, ExceptT.run, bind, StateT.bind]
    rcases count link subject.key quota.seconds s with ⟨fault | n, left⟩ <;> rfl
  rw [run, count, bind_apply]
  dsimp only [ExceptT.mk]
  rcases link (.increment subject.key) s with ⟨fault | reply, counted⟩
  · rfl
  cases reply with
  | count n =>
    dsimp only
    rw [bind_apply]
    dsimp only [Reply.count?, Pure.pure, StateT.pure]
    by_cases first : n = 1
    · rw [if_pos first, if_pos first, bind_apply]
      rcases link (.expire subject.key quota.seconds) counted with ⟨fault | reply, left⟩ <;> rfl
    · rw [if_neg first, if_neg first]
      rfl
  | done | flag | table => rfl

/-- What is kept by counting a hit and by giving its key a time is kept by a hit. -/
theorem hit_keeps {σ : Type} {link : Link σ} {P : σ → Prop} {s : σ} (holds : P s)
    (increments : ∀ s, P s → P (link (.increment subject.key) s).2)
    (expires : ∀ s, P s → P (link (.expire subject.key quota.seconds) s).2) : P (hit (some link) subject quota s).2 := by
  have counts := increments s holds
  rw [hit_apply]
  rcases done : link (.increment subject.key) s with ⟨fault | reply, counted⟩ <;> rw [done] at counts
  · exact counts
  have timed := expires counted counts
  cases reply with
  | count n =>
    dsimp only
    split
    · rcases done : link (.expire subject.key quota.seconds) counted with ⟨fault | reply, left⟩ <;> rw [done] at timed <;>
        exact timed
    · exact counts
  | done | flag | table => exact counts

/-- Of another key a hit leaves what lasts. -/
theorem slot?_increment (sole : Sole key s.slots) (up : s.isDown = false) {other : String} (apart : other ≠ key) :
    slot? (Server.perform now (.increment other) s).2.slots key = (slot? s.slots key).filter (lasts now) := by
  rw [← sole.slot?_prune]
  simp only [Server.perform, up, Bool.false_eq_true, if_false, execute]
  rcases slot? (prune s.slots now) other with _ | ⟨_, content, expires⟩
  · exact (slot?_store _ _ _).trans (if_neg apart)
  · cases content with
    | count n => exact (slot?_store _ _ _).trans (if_neg apart)
    | text | table => rfl

theorem slot?_expires (sole : Sole key s.slots) (up : s.isDown = false) {other : String} (apart : other ≠ key)
    (seconds : Amount) :
    slot? (Server.perform now (.expire other seconds) s).2.slots key = (slot? s.slots key).filter (lasts now) := by
  rw [← sole.slot?_prune]
  simp only [Server.perform, up, Bool.false_eq_true, if_false, execute]
  rw [slot?_expire, if_neg apart]

/-- The window of a subject that was open last, if it still is: which of its hits was the last, and until when it is open. -/
def stillOpen (now : τ) (last : Option (Nat × τ)) : Option (Nat × τ) :=
  last.filter fun window => !Clock.reached window.2 now

/-- The slot in which the hits of a window are counted. -/
def counter (key : String) (window : Nat × τ) : Slot τ := ⟨key, .count (window.1 + 1), some window.2⟩

/-- The cache has counted the hits of the window of a subject that is open by now. -/
structure Counted (subject : Subject) (now : τ) (last : Option (Nat × τ)) (s : Server τ) : Prop where
  up : s.isDown = false
  sole : Sole subject.key s.slots
  slot : (slot? s.slots subject.key).filter (lasts now) = (stillOpen now last).map (counter subject.key)

variable {last : Option (Nat × τ)} {later : τ}

theorem filter_counter (now : τ) (last : Option (Nat × τ)) (key : String) :
    (last.map (counter key)).filter (lasts now) = (stillOpen now last).map (counter key) := by
  rcases last with _ | window
  · rfl
  · rw [stillOpen, Option.map_some, Option.filter_some, Option.filter_some]
    have same : lasts now (counter key window) = !Clock.reached window.2 now := lasts_eq rfl
    rw [same]
    split <;> rfl

section
variable (stays : Stays τ)
include stays

theorem Counted.goes_on (counted : Counted subject now last s) (ordered : Clock.reached now later = true) :
    Counted subject later last s := by
  refine ⟨counted.up, counted.sole, ?_⟩
  have sooner : ∀ slot : Slot τ, lasts later slot = true → lasts now slot = true := by
    intro slot lasting
    cases expires : slot.expires with
    | none => rw [lasts, expires]
    | some time =>
      rw [lasts_eq expires] at lasting ⊢
      cases elapsed : Clock.reached time now with
      | false => rfl
      | true => rw [stays elapsed ordered] at lasting; exact lasting
  have thin : ∀ o : Option (Slot τ), (o.filter (lasts now)).filter (lasts later) = o.filter (lasts later) := by
    intro o
    rw [Option.filter_filter]
    congr 1
    funext slot
    exact Bool.and_eq_right_iff_imp.mpr (sooner slot)
  rw [← thin, counted.slot, ← filter_counter, thin, filter_counter]

end

/-- A hit of another subject leaves the window open until its time. -/
theorem Counted.passes (counted : Counted subject now last s) (apart : other ≠ subject) (quota : Quota) :
    Counted subject now last (hit (some (Server.perform now)) other quota s).2 := by
  have distinct : other.key ≠ subject.key := fun same => apart (subjectKey_injective same)
  have thin : ∀ o : Option (Slot τ), (o.filter (lasts now)).filter (lasts now) = o.filter (lasts now) := by
    intro o
    rw [Option.filter_filter]
    simp only [Bool.and_self]
  refine hit_keeps counted (fun s counted => ?_) fun s counted => ?_
  · refine ⟨(perform_isDown _ _ _).trans counted.up, counted.sole.perform _ _, ?_⟩
    rw [slot?_increment counted.sole counted.up distinct, thin, counted.slot]
  · refine ⟨(perform_isDown _ _ _).trans counted.up, counted.sole.perform _ _, ?_⟩
    rw [slot?_expires counted.sole counted.up distinct, thin, counted.slot]

/-- The place of a hit in its window, and until when that is open. -/
def place (now : τ) (seconds : Amount) (last : Option (Nat × τ)) : Nat × τ :=
  match stillOpen now last with
  | none => (0, Clock.after now seconds)
  | some (i, time) => (i + 1, time)

theorem Counted.pruned (counted : Counted subject now last s) :
    slot? (prune s.slots now) subject.key = (stillOpen now last).map (counter subject.key) := by
  rw [counted.sole.slot?_prune, counted.slot]

/-- A hit of the subject is allowed by its place in the window. -/
theorem Counted.hits (counted : Counted subject now last s) (limit : Nat) (seconds : Amount) :
    ∃ s', hit (some (Server.perform now)) subject ⟨.whole limit, seconds⟩ s =
      (decide ((place now seconds last).1 < limit), s') ∧ Counted subject now (some (place now seconds last)) s' := by
  have found := counted.pruned
  have swept : Sole subject.key (prune s.slots now) := counted.sole.filter _
  have holds : ∀ s' : Server τ, s'.isDown = false → Sole subject.key s'.slots →
      slot? s'.slots subject.key = some (counter subject.key (place now seconds last)) →
      Counted subject now (some (place now seconds last)) s' := by
    intro s' up sole slot
    refine ⟨up, sole, ?_⟩
    rw [slot]
    exact filter_counter now (some (place now seconds last)) subject.key
  cases still : stillOpen now last with
  | none =>
    rw [still] at found
    let started : Slot τ := ⟨subject.key, .count 1, none⟩
    have counts : Server.perform now (.increment subject.key) s = (.ok (.count 1),
        { s with slots := store (prune s.slots now) started, record := s.record ++ [.increment subject.key] }) := by
      simp only [Server.perform, counted.up, Bool.false_eq_true, if_false, execute, found, Option.map_none, started]
    have stored : slot? (prune (store (prune s.slots now) started) now) subject.key = some started := by
      rw [(swept.store started).slot?_prune, slot?_store, if_pos rfl]
      rfl
    have first : place now seconds last = (0, Clock.after now seconds) := by rw [place, still]
    rw [hit_apply, counts]
    simp only [if_true, Server.perform, counted.up, Bool.false_eq_true, if_false, execute]
    refine ⟨_, Prod.ext ?_ rfl, holds _ rfl ?_ ?_⟩
    · rw [first]
      exact decide_eq_decide.mpr (by omega)
    · exact ((swept.store started).filter _).map fun slot => by split <;> rfl
    · rw [slot?_expire, if_pos rfl, stored, first]
      rfl
  | some window =>
    obtain ⟨i, time⟩ := window
    rw [still] at found
    have another : place now seconds last = (i + 1, time) := by rw [place, still]
    have counts : Server.perform now (.increment subject.key) s = (.ok (.count (i + 1 + 1)),
        { s with
          slots := store (prune s.slots now) (counter subject.key (i + 1, time))
          record := s.record ++ [.increment subject.key] }) := by
      simp only [Server.perform, counted.up, Bool.false_eq_true, if_false, execute, found, Option.map_some, counter]
      rfl
    rw [hit_apply, counts]
    dsimp only
    rw [if_neg (by omega)]
    refine ⟨_, Prod.ext ?_ rfl, holds _ counted.up (swept.store _) ?_⟩
    · rw [another]
      exact decide_eq_decide.mpr (by omega)
    · rw [slot?_store, another]
      exact if_pos rfl

/-- What comes of the hits of a subject, by their times alone. -/
def answersFrom (limit : Nat) (seconds : Amount) : Option (Nat × τ) → List τ → List (Answer τ)
  | _, [] => []
  | last, now :: rest =>
    ⟨now, (stillOpen now last).isNone, decide ((place now seconds last).1 < limit)⟩ ::
      answersFrom limit seconds (some (place now seconds last)) rest

section
variable (limit seconds : Subject → Nat) {hits : List (Hit τ)}
variable (stays : Stays τ)
include stays

/-- Hits of other subjects do not matter. -/
theorem told_run (counted : ∀ hit ∈ hits.head?, Counted subject hit.now last s)
    (ordered : hits.Pairwise fun former later => Clock.reached former.now later.now = true) :
    told subject (run limit seconds hits s) =
      answersFrom (limit subject) (.whole (seconds subject)) last (times subject hits) := by
  induction hits generalizing last s with
  | nil => rfl
  | cons hit rest ih =>
    obtain ⟨following, ordered⟩ := List.pairwise_cons.mp ordered
    have counted := counted hit rfl
    have next : ∀ {last s'}, Counted subject hit.now last s' → ∀ later ∈ rest.head?, Counted subject later.now last s' :=
      fun counted later member => counted.goes_on stays (following later (List.mem_of_mem_head? member))
    by_cases own : hit.subject = subject
    · subst own
      obtain ⟨s', answered, after⟩ := counted.hits (limit hit.subject) (.whole (seconds hit.subject))
      have opens := congrArg Option.isNone counted.pruned
      rw [Option.isNone_map] at opens
      simp only [run, answered, told, times, List.filter_cons, decide_true, if_true, List.map_cons, answersFrom, opens]
      exact congrArg _ (ih (next after) ordered)
    · have passed := counted.passes own ⟨.whole (limit hit.subject), .whole (seconds hit.subject)⟩
      simp only [run, told, times, List.filter_cons, decide_eq_false own, Bool.false_eq_true, if_false]
      exact ih (next passed) ordered

end

section
variable (limit : Nat) (seconds : Amount)

/-- While a window is open its hits are counted on; the first time outside opens another one. -/
theorem answersFrom_some (i : Nat) (time : τ) (rest : List τ) :
    answersFrom limit seconds (some (i, time)) rest =
      (rest.takeWhile fun now => !Clock.reached time now).mapIdx (fun k now => ⟨now, false, decide (i + 1 + k < limit)⟩) ++
        answersFrom limit seconds none (rest.dropWhile fun now => !Clock.reached time now) := by
  induction rest generalizing i with
  | nil => rfl
  | cons now rest ih =>
    cases elapsed : Clock.reached time now with
    | false =>
      have still : stillOpen now (some (i, time)) = some (i, time) := Option.filter_some_pos (by simp [elapsed])
      rw [answersFrom, List.takeWhile_cons_of_pos (by simp [elapsed]), List.dropWhile_cons_of_pos (by simp [elapsed]),
        place, still, ih, List.mapIdx_cons]
      have shifted : ∀ k, i + 1 + 1 + k = i + 1 + (k + 1) := by omega
      simp only [shifted]
      rfl
    | true =>
      have gone : stillOpen now (some (i, time)) = none := Option.filter_some_neg (by simp [elapsed])
      rw [List.takeWhile_cons_of_neg (by simp [elapsed]), List.dropWhile_cons_of_neg (by simp [elapsed])]
      rw [answersFrom, answersFrom, place, place, gone]
      rfl

theorem answersFrom_none (times : List τ) :
    answersFrom limit seconds none times = (windows seconds times).flatMap (answersIn limit) := by
  fun_induction windows seconds times with
  | case1 => rfl
  | case2 first rest ih =>
    have opens : stillOpen first (none : Option (Nat × τ)) = none := rfl
    rw [List.flatMap_cons, ← ih, answersFrom, place, opens, answersFrom_some, answersIn, List.mapIdx_cons]
    have shifted : ∀ k, 0 + 1 + k = k + 1 := by omega
    simp only [shifted]
    rfl

theorem now_answersFrom (last : Option (Nat × τ)) (times : List τ) :
    (answersFrom limit seconds last times).map Answer.now = times := by
  induction times generalizing last with
  | nil => rfl
  | cons now rest ih => exact congrArg (now :: ·) (ih (some (place now seconds last)))

theorem now_mem_of_windows {answer : Answer τ} {times : List τ}
    (member : answer ∈ (windows seconds times).flatMap (answersIn limit)) : answer.now ∈ times := by
  rw [← answersFrom_none] at member
  rw [← now_answersFrom limit seconds none times]
  exact List.mem_map_of_mem member

omit [Clock τ] in
theorem now_mem_of_answersIn {answer : Answer τ} {window : List τ} (member : answer ∈ answersIn limit window) :
    answer.now ∈ window := by
  obtain ⟨i, inside, rfl⟩ := List.mem_mapIdx.mp member
  exact List.getElem_mem inside

theorem allowedWithin_window_le (start : τ) (window : List τ) :
    allowedWithin start seconds (answersIn limit window) ≤ limit := by
  have bounded : ∀ n, allowedWithin start seconds
      (window.mapIdx fun i now => ⟨now, decide (i + n = 0), decide (i + n < limit)⟩) ≤ limit - n := by
    induction window with
    | nil => exact fun n => Nat.zero_le _
    | cons now rest ih =>
      intro n
      have later := ih (n + 1)
      have shifted : ∀ k, k + 1 + n = k + (n + 1) := by omega
      rw [List.mapIdx_cons, allowedWithin, List.countP_cons]
      simp only [shifted]
      unfold allowedWithin at later
      split
      next counts =>
        have below : 0 + n < limit := of_decide_eq_true (Bool.and_eq_true_iff.mp counts).1
        omega
      next => omega
  exact bounded 0

theorem allowedWithin_append (start : τ) (former latter : List (Answer τ)) :
    allowedWithin start seconds (former ++ latter) =
      allowedWithin start seconds former + allowedWithin start seconds latter := List.countP_append

theorem allowedWithin_none {start : τ} {answers : List (Answer τ)}
    (outside : ∀ answer ∈ answers, within start seconds answer.now = false) : allowedWithin start seconds answers = 0 := by
  refine List.countP_eq_zero.mpr fun answer member => ?_
  rw [outside answer member, Bool.and_false]
  exact Bool.false_ne_true

end

section
variable {seconds : Amount} {start : τ} {times : List τ}
variable (stays : Stays τ)
include stays

/-- What comes after a window comes when its time is up. -/
theorem reached_of_dropWhile {time : τ} (ordered : times.Pairwise fun former later => Clock.reached former later = true) :
    ∀ now ∈ times.dropWhile fun now => !Clock.reached time now, Clock.reached time now = true := by
  induction times with
  | nil => exact fun _ member => absurd member List.not_mem_nil
  | cons first rest ih =>
    obtain ⟨following, ordered⟩ := List.pairwise_cons.mp ordered
    cases elapsed : Clock.reached time first with
    | false =>
      rw [List.dropWhile_cons_of_pos (by simp [elapsed])]
      exact ih ordered
    | true =>
      rw [List.dropWhile_cons_of_neg (by simp [elapsed])]
      intro now member
      rcases List.mem_cons.mp member with rfl | member
      · exact elapsed
      · exact stays elapsed (following now member)

/-- Of the windows that are opened in a span none but the first reaches into it. -/
theorem allowedWithin_begun_le (limit : Nat)
    (ordered : times.Pairwise fun former later => Clock.reached former later = true)
    (lengthens : ∀ now ∈ times, Clock.reached start now = true →
      Clock.reached (Clock.after start seconds) (Clock.after now seconds) = true)
    (begun : ∀ now ∈ times, Clock.reached start now = true) :
    allowedWithin start seconds ((windows seconds times).flatMap (answersIn limit)) ≤ limit := by
  cases times with
  | nil =>
    rw [windows]
    exact Nat.zero_le _
  | cons first rest =>
    have longer := lengthens first List.mem_cons_self (begun first List.mem_cons_self)
    have outside : ∀ answer ∈ (windows seconds
        (rest.dropWhile fun now => !Clock.reached (Clock.after first seconds) now)).flatMap (answersIn limit),
        within start seconds answer.now = false := by
      intro answer member
      have elapsed := reached_of_dropWhile stays (List.pairwise_cons.mp ordered).2 answer.now
        (now_mem_of_windows limit seconds member)
      rw [within, stays longer elapsed, Bool.not_true, Bool.and_false]
    rw [windows, List.flatMap_cons, allowedWithin_append, allowedWithin_none seconds outside]
    exact allowedWithin_window_le limit seconds start _

/-- Of all windows none but two reach into a span: one that was opened before it, and the first that is opened in it. -/
theorem allowedWithin_le (limit : Nat)
    (ordered : times.Pairwise fun former later => Clock.reached former later = true)
    (lengthens : ∀ now ∈ times, Clock.reached start now = true →
      Clock.reached (Clock.after start seconds) (Clock.after now seconds) = true) :
    allowedWithin start seconds ((windows seconds times).flatMap (answersIn limit)) ≤ 2 * limit := by
  fun_induction windows seconds times with
  | case1 => exact Nat.zero_le _
  | case2 first rest ih =>
    have split : first :: rest = (first :: rest.takeWhile fun now => !Clock.reached (Clock.after first seconds) now) ++
        rest.dropWhile fun now => !Clock.reached (Clock.after first seconds) now := by
      rw [List.cons_append, List.takeWhile_append_dropWhile]
    rw [split] at ordered lengthens
    obtain ⟨_, laterOrdered, following⟩ := List.pairwise_append.mp ordered
    have laterLengthens := fun now member => lengthens now (List.mem_append_right _ member)
    rw [List.flatMap_cons, allowedWithin_append]
    -- If the window reaches into the span, all later ones are opened in it. Otherwise none of its hits counts.
    by_cases reaches : ∃ now ∈ first :: rest.takeWhile fun now => !Clock.reached (Clock.after first seconds) now,
        Clock.reached start now = true
    · obtain ⟨now, member, reached⟩ := reaches
      have inside := allowedWithin_window_le limit seconds start
        (first :: rest.takeWhile fun now => !Clock.reached (Clock.after first seconds) now)
      have outside := allowedWithin_begun_le stays limit laterOrdered laterLengthens fun later there =>
        stays reached (following now member later there)
      omega
    · rw [allowedWithin_none seconds fun answer member => ?_]
      · have outside := ih laterOrdered laterLengthens
        omega
      · have before : ¬ Clock.reached start answer.now = true :=
          fun reached => reaches ⟨answer.now, now_mem_of_answersIn limit member, reached⟩
        rw [within, Bool.eq_false_iff.mpr before, Bool.false_and]

end

/-- Of the hits of a subject, however they are mixed with those of others, the first of each window are allowed, up to the
limit, and no others. So no more than twice the limit are allowed within the length of a window, and the answers are as if
nobody else were there. -/
theorem hits_are_limited_by_windows (subject : Subject) (limit seconds : Subject → Nat) {hits : List (Hit τ)}
    (stays : Stays τ)
    (ordered : hits.Pairwise fun former later => Clock.reached former.now later.now = true)
    (up : s.isDown = false) (fresh : slot? s.slots subject.key = none) :
    told subject (run limit seconds hits s) =
        (windows (.whole (seconds subject)) (times subject hits)).flatMap (answersIn (limit subject)) ∧
      (∀ start, (∀ hit ∈ hits, Clock.reached start hit.now = true →
          Clock.reached (Clock.after start (.whole (seconds subject))) (Clock.after hit.now (.whole (seconds subject))) = true) →
        allowedWithin start (.whole (seconds subject)) (told subject (run limit seconds hits s)) ≤ 2 * limit subject) ∧
      told subject (run limit seconds hits s) =
        told subject (run limit seconds (hits.filter fun hit => hit.subject = subject) s) := by
  have counted : ∀ now, Counted subject now none s := by
    refine fun now => ⟨up, .of_absent fresh, ?_⟩
    rw [fresh]
    rfl
  have all := told_run limit seconds stays (fun hit _ => counted hit.now) ordered
  have own := told_run limit seconds stays (fun hit _ => counted hit.now)
    (ordered.filter fun hit => hit.subject = subject)
  have answered := all.trans (answersFrom_none (limit subject) (.whole (seconds subject)) (times subject hits))
  refine ⟨answered, fun start lengthens => ?_, ?_⟩
  · rw [answered]
    refine allowedWithin_le stays _ ?_ ?_
    · exact List.pairwise_map.mpr (ordered.filter _)
    · intro now member
      obtain ⟨hit, made, rfl⟩ := List.mem_map.mp member
      exact lengthens hit (List.mem_filter.mp made).1
  · rw [all, own]
    simp only [times, List.filter_filter, Bool.and_self]

end

def visitor : Subject := .address "5215512345678"

/-- Two hits a minute are allowed. The third of the first minute is not, and others count for themselves. -/
def rush : List (Hit Reading) :=
  [⟨visitor, 0⟩, ⟨.peer "10.0.0.1", 1⟩, ⟨visitor, 50⟩, ⟨visitor, 59⟩, ⟨visitor, 60⟩, ⟨visitor, 61⟩, ⟨.peer "10.0.0.1", 62⟩,
    ⟨visitor, 62⟩]

theorem rush_is_limited :
    (Stays Reading ∧ (rush.Pairwise fun former later => Clock.reached former.now later.now = true) ∧
      ({} : Server Reading).isDown = false ∧ slot? ({} : Server Reading).slots visitor.key = none) ∧
    told visitor (run (fun _ => 2) (fun _ => 60) rush {}) =
      [⟨0, true, true⟩, ⟨50, false, true⟩, ⟨59, false, false⟩, ⟨60, true, true⟩, ⟨61, false, true⟩, ⟨62, false, false⟩] ∧
    allowedWithin 50 60 (told visitor (run (fun _ => 2) (fun _ => 60) rush {})) ≤ 2 * 2 := by
  have stays : Stays Reading := fun reached ordered => Readings.reached_mono reached (of_decide_eq_true ordered)
  have ordered : rush.Pairwise fun former later => Clock.reached former.now later.now = true := by decide +kernel
  obtain ⟨answered, bounded, _⟩ := hits_are_limited_by_windows visitor (fun _ => 2) (fun _ => 60) stays ordered
    (show ({} : Server Reading).isDown = false from rfl) rfl
  refine ⟨⟨stays, ordered, rfl, rfl⟩, answered.trans ?_, bounded 50 ?_⟩
  · decide +kernel
  · decide +kernel

end Chatflow.Proofs.RateWindows
