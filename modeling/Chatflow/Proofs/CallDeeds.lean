import Chatflow.Conversation.Request
import Chatflow.Proofs.AgentTurns
import Chatflow.Proofs.ReplyRuns
import Chatflow.Proofs.SwapCounts

/-! What calls do to the stored sessions, deed by deed. A deed is an operation of the store, or a flow that is started
with all that this takes; a course tells the deeds that lie between two worlds, in order. -/

namespace Chatflow.Proofs.CallDeeds
open Conversation Interpreter SessionTable AgentTurns InProcessStore ReplyRuns SwapCounts WorkLogic

/-- Nothing was handed over between two states of the outside: nothing was posted or mailed, and no pause was made. -/
structure Mute (o after : Outside) : Prop where
  posts : after.posts = o.posts
  letters : after.letters = o.letters
  pauses : after.pauses = o.pauses

theorem Mute.refl (o : Outside) : Mute o o := ⟨rfl, rfl, rfl⟩

theorem Mute.trans {o middle after : Outside} (first : Mute o middle) (last : Mute middle after) : Mute o after :=
  ⟨last.posts.trans first.posts, last.letters.trans first.letters, last.pauses.trans first.pauses⟩

/-- Nothing was handed over between two worlds, and nothing was put off to be handed over later. -/
structure Withheld (w after : World) : Prop where
  mute : Mute w.outside after.outside
  postponed : after.postponed = w.postponed

theorem Withheld.refl (w : World) : Withheld w w := ⟨.refl _, rfl⟩

theorem Withheld.trans {w middle after : World} (first : Withheld w middle) (last : Withheld middle after) :
    Withheld w after :=
  ⟨first.mute.trans last.mute, last.postponed.trans first.postponed⟩

/-- Nothing was handed over between two worlds, and nothing was done to the sessions. -/
structure Quiet (w after : World) : Prop extends Withheld w after where
  table : after.table = w.table
  catalogue : after.catalogue = w.catalogue
  foreign : after.foreign = w.foreign

theorem Quiet.refl (w : World) : Quiet w w := ⟨.refl w, rfl, rfl, rfl⟩

theorem Quiet.trans {w middle after : World} (first : Quiet w middle) (last : Quiet middle after) : Quiet w after :=
  ⟨first.toWithheld.trans last.toWithheld, last.table.trans first.table, last.catalogue.trans first.catalogue,
    last.foreign.trans first.foreign⟩

/-- One thing that is done to the stored sessions. -/
inductive Deed where
  /-- A session is made, and its first run is saved. -/
  | started (r : RunResult)
  /-- A session is to be made, but its first run is not saved. -/
  | broken (fault : Fault)
  /-- A run of a session that was stored is saved. -/
  | saved (r : RunResult)
  /-- A change is not made, because the session has changed or there is no present time. -/
  | refused
  /-- A session is ended, because there is no flow for it. -/
  | missed
  /-- An agent is asked for a turn. -/
  | consulted
  /-- An agent's turn is saved. -/
  | turned
  /-- The conversations of a contact are ended. -/
  | ended
  /-- The records of a contact are removed. -/
  | forgotten

namespace Deed

/-- The run that a deed saves. -/
def run? : Deed → Option RunResult
  | started r | saved r => some r
  | _ => none

/-- Deeds of work that starts flows or takes them on. -/
def IsFlowWork : Deed → Prop
  | started _ | saved _ | refused | ended => True
  | _ => False

/-- Deeds that come to nothing. -/
def IsIdle : Deed → Prop
  | refused | consulted => True
  | _ => False

end Deed

/-- The runs that were saved, in order. -/
def savedRuns (deeds : List Deed) : List RunResult := deeds.filterMap Deed.run?

theorem savedRuns_append (deeds more : List Deed) : savedRuns (deeds ++ more) = savedRuns deeds ++ savedRuns more :=
  List.filterMap_append

/-- A run that takes a stored session on, with a reply or after its wait. -/
inductive TakesOn (s : Session) (r : RunResult) : Prop where
  | answer {f e} (answers : Answers f s e s.currentStep r)
  | resume {f options now rolls rest} (ran : Interpreter.run f options now s rolls s.resumeStep = (.ok r, rest))

inductive Leads (setup : Setup) (w : World) : Deed → World → Prop where
  | started {address f vars deviceId step s r after}
      (made : firstRun setup address f vars deviceId step w = (.ok (s, r), after)) : Leads setup w (.started r) after
  | broken {address f vars deviceId step fault after}
      (failed : firstRun setup address f vars deviceId step w = (.error fault, after)) :
      Leads setup w (.broken fault) after
  | saved {s r after} (takesOn : TakesOn s r) (accepted : commit setup s r w = (.ok true, after)) :
      Leads setup w (.saved r) after
  | refused {id expected change answer after} (swapped : Store.swap setup id expected change w = (answer, after))
      (unaccepted : answer ≠ .ok true) : Leads setup w .refused after
  | missed {s after} (accepted : Store.swap setup s.id s.currentStep (missingFlowChange s) w = (.ok true, after)) :
      Leads setup w .missed after
  | consulted (s agent message) :
      Leads setup w .consulted (Work.tryOutside (Delegate.handleTurn setup s agent message).run w).2
  | turned {s updated ended after} (taken : Taken s ended updated)
      (accepted : Store.swap setup updated.id s.currentStep (turnChange updated) w = (.ok true, after)) :
      Leads setup w .turned after
  | ended {address n after} (done : Store.abandonAll setup address w = (.ok n, after)) : Leads setup w .ended after
  | forgotten {address n after} (done : Store.reset setup address w = (.ok n, after)) : Leads setup w .forgotten after

inductive Course (setup : Setup) : World → List Deed → World → Prop where
  | quiet {w after} (quiet : Quiet w after) : Course setup w [] after
  | deed {w d after} (leads : Leads setup w d after) : Course setup w [d] after
  | trans {w deeds middle more after} (first : Course setup w deeds middle) (last : Course setup middle more after) :
      Course setup w (deeds ++ more) after

variable {setup : Setup} {w after : World}

section
variable (inProcess : setup.hasDatabase = false)
include inProcess

/-- Deeds send nothing, but for an agent's turn. -/
theorem leads_swapped {d : Deed} (leads : Leads setup w d after) (work : d ≠ .consulted) :
    ∃ swaps, Swapped swaps w after := by
  cases leads with
  | started made =>
    obtain ⟨swaps, swapped⟩ := firstRun_unsent inProcess _ _ _ _ _ w
    exact ⟨swaps, swapped.ending made⟩
  | broken failed =>
    obtain ⟨swaps, swapped⟩ := firstRun_unsent inProcess _ _ _ _ _ w
    exact ⟨swaps, swapped.ending failed⟩
  | saved _ swapped | refused swapped | missed swapped | turned _ swapped =>
    exact ⟨1, (swap_swapped inProcess _ _ _ w).ending swapped⟩
  | consulted => exact absurd rfl work
  | ended done =>
    rw [abandonAll_apply inProcess] at done
    split at done
    · cases present : setup.utcNow <;> rw [present] at done <;> cases done
      exact ⟨0, rfl, rfl, rfl, rfl⟩
    · cases done
      exact ⟨0, .refl w⟩
  | forgotten done =>
    rw [reset_apply inProcess] at done
    cases done
    exact ⟨0, rfl, rfl, rfl, rfl⟩

end

section
variable {α β : Type}

/-- Work that hands over nothing and does nothing to the sessions. -/
def Calm (work : Work α) : Prop := ∀ w, Quiet w (work w).2

def Reads (work : Work α) : Prop := ∀ w, ∃ a, work w = (.ok a, w)

namespace Reads

theorem look (f : World → α) : Reads (Work.look f) := fun w => ⟨f w, rfl⟩

theorem pure (a : α) : Reads (Pure.pure a) := fun _ => ⟨a, rfl⟩

theorem bind {work : Work α} {next : α → Work β} (first : Reads work) (rest : ∀ a, Reads (next a)) :
    Reads (work >>= next) := by
  intro w
  obtain ⟨a, read⟩ := first w
  rw [bind_apply, read]
  exact rest a w

theorem filterM {test : α → Work Bool} (reads : ∀ a, Reads (test a)) (items : List α) :
    Reads (items.filterM test) := by
  have kept : ∀ items taken, Reads (List.filterAuxM test items taken) := by
    intro items
    induction items with
    | nil => exact fun taken => pure taken
    | cons a rest ih => exact fun taken => (reads a).bind fun _ => ih _
  exact (kept items []).bind fun taken => pure taken.reverse

end Reads

/-- Work does some deeds, and ends in a way that fits them. -/
def Tells (setup : Setup) (work : Work α) (post : Except Fault α → List Deed → Prop) : Prop :=
  ∀ w, ∃ deeds, Course setup w deeds (work w).2 ∧ post (work w).1 deeds

namespace Tells

variable {mid : Except Fault α → List Deed → Prop} {post : Except Fault β → List Deed → Prop}

theorem bind {work : Work α} {next : α → Work β} (first : Tells setup work mid)
    (stops : ∀ fault deeds, mid (.error fault) deeds → post (.error fault) deeds)
    (rest : ∀ a former, mid (.ok a) former → Tells setup (next a) fun result more => post result (former ++ more)) :
    Tells setup (work >>= next) post := by
  intro w
  obtain ⟨former, course, fits⟩ := first w
  rw [bind_apply]
  rcases done : work w with ⟨fault | a, middle⟩ <;> rw [done] at course fits
  · exact ⟨former, course, stops fault former fits⟩
  · obtain ⟨more, further, ends⟩ := rest a former fits middle
    exact ⟨former ++ more, course.trans further, ends⟩

theorem afterCalm {work : Work α} {next : α → Work β} (calm : Calm work) (stops : ∀ fault, post (.error fault) [])
    (rest : ∀ a w, (work w).1 = .ok a → Tells setup (next a) post) : Tells setup (work >>= next) post := by
  intro w
  have before := calm w
  rw [bind_apply]
  rcases done : work w with ⟨fault | a, middle⟩ <;> rw [done] at before
  · exact ⟨[], .quiet before, stops fault⟩
  · obtain ⟨more, further, ends⟩ := rest a w (congrArg Prod.fst done) middle
    exact ⟨[] ++ more, (Course.quiet before).trans further, ends⟩

theorem afterOutside {work : StateM Outside α} {next : α → Work β} (mute : ∀ o, Mute o (work o).2)
    (rest : ∀ a, Tells setup (next a) post) : Tells setup (Work.onOutside work >>= next) post := by
  intro w
  obtain ⟨more, further, ends⟩ := rest (work w.outside).1 { w with outside := (work w.outside).2 }
  have before : Quiet w { w with outside := (work w.outside).2 } := ⟨⟨mute w.outside, rfl⟩, rfl, rfl, rfl⟩
  exact ⟨[] ++ more, (Course.quiet before).trans further, ends⟩

theorem afterReading {work : Work α} {next : α → Work β} (reads : Reads work) (rest : ∀ a, Tells setup (next a) post) :
    Tells setup (work >>= next) post := by
  intro w
  obtain ⟨a, read⟩ := reads w
  rw [bind_apply, read]
  exact rest a w

theorem pure {b : β} (fits : post (.ok b) []) : Tells setup (Pure.pure b) post :=
  fun w => ⟨[], .quiet (.refl w), fits⟩

theorem fail {fault : Fault} (fits : post (.error fault) []) : Tells setup (Work.fail fault) post :=
  fun w => ⟨[], .quiet (.refl w), fits⟩

theorem weaken {work : Work β} {weaker : Except Fault β → List Deed → Prop} (tells : Tells setup work post)
    (implied : ∀ result deeds, post result deeds → weaker result deeds) : Tells setup work weaker := by
  intro w
  obtain ⟨deeds, course, fits⟩ := tells w
  exact ⟨deeds, course, implied _ deeds fits⟩

theorem finally' {work : Work β} {last : Work Unit} (tells : Tells setup work post) (calm : Calm last) :
    Tells setup (work.finally' last) post := by
  intro w
  obtain ⟨deeds, course, fits⟩ := tells w
  have ending : Course setup w (deeds ++ []) (work.finally' last w).2 := course.trans (.quiet (calm (work w).2))
  rw [List.append_nil] at ending
  exact ⟨deeds, ending, fits⟩

end Tells

namespace Calm

theorem check (e : Except Fault α) : Calm (Work.check e) := fun w => .refl w

theorem pure (a : α) : Calm (Pure.pure a) := fun w => .refl w

theorem running (run : List Float → Except Fault α × List Float) : Calm (running run) :=
  fun _ => ⟨⟨.refl _, rfl⟩, rfl, rfl, rfl⟩

theorem bind {work : Work α} {next : α → Work β} (first : Calm work) (rest : ∀ a, Calm (next a)) :
    Calm (work >>= next) := by
  intro w
  have before := first w
  rw [bind_apply]
  rcases done : work w with ⟨_ | a, middle⟩ <;> rw [done] at before
  · exact before
  · exact before.trans (rest a middle)

theorem onOutside {work : StateM Outside α} (mute : ∀ o, Mute o (work o).2) : Calm (Work.onOutside work) :=
  fun w => ⟨⟨mute w.outside, rfl⟩, rfl, rfl, rfl⟩

end Calm

end

end Chatflow.Proofs.CallDeeds
