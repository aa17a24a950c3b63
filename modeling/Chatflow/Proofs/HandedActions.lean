import Chatflow.Proofs.CallCourses

/-! What becomes of the actions of runs that were saved. They are handed over when their call is over, all of them and
in order; a call that fails hands over none, though it may have saved runs. -/

namespace Chatflow.Proofs.HandedActions
open Conversation Interpreter SessionTable InProcessStore ReachableStates SwapCounts CallDeeds CallCourses WorkLogic

variable {setup : Setup} {w after : World}

theorem withheld_of_swapped {n : Nat} (swapped : Swapped n w after) : Withheld w after := by
  refine ⟨?_, swapped.postponed⟩
  rw [swapped.outside]
  exact .refl _

theorem savedRuns_idle {deeds : List Deed} (idle : ∀ d ∈ deeds, d.IsIdle) : savedRuns deeds = [] := by
  refine List.filterMap_eq_nil_iff.mpr fun d member => ?_
  have nothing := idle d member
  cases d <;> first | rfl | exact nothing.elim

theorem unconsulted_of_flowWork {deeds : List Deed} (work : ∀ d ∈ deeds, d.IsFlowWork) :
    ∀ d ∈ deeds, d ≠ .consulted := by
  intro d member same
  have kind := work d member
  rw [same] at kind
  exact kind

/-- No agent is asked in a call that saves a run. -/
theorem unconsulted_of_told {result : Except Fault Outcome} {deeds : List Deed} (told : Told result deeds)
    (saves : savedRuns deeds ≠ []) : ∀ d ∈ deeds, d ≠ .consulted := by
  cases result with
  | ok o =>
    rcases told.2 with none | ⟨work, _⟩
    · exact absurd none saves
    · exact unconsulted_of_flowWork work
  | error fault =>
    rcases told with idle | ⟨whole, rfl, work⟩
    · exact absurd (savedRuns_idle idle) saves
    · exact forall_mem_append (unconsulted_of_flowWork work) (forall_mem_one fun impossible => by cases impossible)

section
variable (inProcess : setup.hasDatabase = false)
include inProcess

/-- Nothing is handed over in the course of deeds that ask no agent. -/
theorem course_withheld {deeds : List Deed} (course : Course setup w deeds after)
    (work : ∀ d ∈ deeds, d ≠ .consulted) : Withheld w after := by
  induction course with
  | quiet quiet => exact quiet.toWithheld
  | deed leads =>
    obtain ⟨swaps, swapped⟩ := leads_swapped inProcess leads (work _ (List.mem_singleton_self _))
    exact withheld_of_swapped swapped
  | trans _ _ first last =>
    have before := first fun d member => work d (List.mem_append_left _ member)
    exact before.trans (last fun d member => work d (List.mem_append_right _ member))

/-- Until a call is over, none of the actions of the runs that it saves are handed over. If it comes to an outcome other
than a conflict, they are then handed over, all of them once and in order. If it fails or ends in a conflict, they never
are, whatever was saved. -/
theorem saved_actions_handed_over_unless_call_fails (call : Call) (w : World) :
    ∃ deeds middle, Course setup w deeds middle ∧ (savedRuns deeds ≠ [] → Withheld w middle) ∧
      match call.perform setup w with
      | (.ok o, after) =>
        if o.status = .conflict then o.actions = [] ∧ Withheld middle after
        else (savedRuns deeds ≠ [] → o.actions = (savedRuns deeds).flatMap RunResult.actions) ∧
          deliver setup o middle = (.ok o, after)
      | (.error _, after) => after = middle := by
  obtain ⟨deeds, middle, course, ends⟩ := call_concludes inProcess call w
  refine ⟨deeds, middle, course, ?_⟩
  rcases done : call.perform setup w with ⟨fault | o, after⟩ <;> rw [done] at ends
  · cases ends with
    | failed told => exact ⟨fun saves => course_withheld inProcess course (unconsulted_of_told told saves), rfl⟩
  · cases ends with
    | handed told delivered =>
      refine ⟨fun saves => course_withheld inProcess course (unconsulted_of_told told saves), ?_⟩
      dsimp only
      rw [if_neg told.1]
      exact ⟨fun saves => (told.2.resolve_left saves).2, delivered⟩
    | conflicted told quiet =>
      refine ⟨fun saves => course_withheld inProcess course (unconsulted_of_told told saves), ?_⟩
      exact ⟨rfl, quiet.toWithheld⟩

end

def greeting : Flow :=
  { id := "greet",
    steps := [⟨"begin", .start none⟩, ⟨"hello", .template { templateName := "hello" }⟩, ⟨"next", .automation "sort"⟩],
    connections := [⟨"c1", "begin", "hello", none, none⟩, ⟨"c2", "hello", "next", none, none⟩] }

/-- A flow that asks for the tags of the contact. -/
def sorting : Flow :=
  { id := "sort",
    steps := [⟨"begin", .start none⟩, ⟨"split", .condition { rules := [{ kind := .tag, value := "vip" }] }⟩],
    connections := [⟨"c", "begin", "split", none, none⟩] }

def offering (flows : List Flow) : World := { catalogue := Catalogue.ofLists flows [] }

def hello : Action := ⟨⟨"+5215512345678", none, some "s1", some "hello", 0⟩, .template "hello" none []⟩

theorem greeting_handed_over :
    let done := (Call.startFlow "greet" "+5215512345678" []).perform (aloneAt ⟨5, 0⟩) (offering [greeting])
    done.1 = .ok ⟨.started, ["s1"], [hello]⟩ ∧
    ∃ deeds middle, Course (aloneAt ⟨5, 0⟩) (offering [greeting]) deeds middle ∧
      (savedRuns deeds ≠ [] → Withheld (offering [greeting]) middle) ∧
      deliver (aloneAt ⟨5, 0⟩) ⟨.started, ["s1"], [hello]⟩ middle = (.ok ⟨.started, ["s1"], [hello]⟩, done.2) := by
  intro done
  have outcome : done.1 = .ok ⟨.started, ["s1"], [hello]⟩ := by
    simp only [done, Call.perform, startFlow, startFound, withLock, maxChained, start, firstRun, bind_apply,
      runOptions_aloneAt]
    rfl
  obtain ⟨deeds, middle, course, withheld, ends⟩ := @saved_actions_handed_over_unless_call_fails (aloneAt ⟨5, 0⟩) rfl
    (.startFlow "greet" "+5215512345678" []) (offering [greeting])
  have whole : (Call.startFlow "greet" "+5215512345678" []).perform (aloneAt ⟨5, 0⟩) (offering [greeting]) =
    (.ok ⟨.started, ["s1"], [hello]⟩, done.2) := Prod.ext outcome rfl
  rw [whole] at ends
  exact ⟨outcome, deeds, middle, course, withheld, ends.2⟩

/-- A contact that has a number for tags. -/
def mistagged : Fields := [("phone", .str "+5215512345678"), ("tags", .int 5)]

def locked : World :=
  (Work.onOutside (Cache.enterLock (aloneAt ⟨5, 0⟩).link lobby (Cache.addressLockName "+5215512345678")
    (.whole (aloneAt ⟨5, 0⟩).settings.addressLockSeconds) 0) (offering [greeting, sorting])).2

def greeted : RunResult where
  actions := [hello]
  session :=
    { id := "s1", address := "+5215512345678", flowId := "greet", vars := mistagged, status := .completed,
      createdAt := ⟨5, 0⟩, updatedAt := ⟨5, 0⟩ }
  directive := some (.startFlow "sort")
  executed := ["start", "template", "start_automation"]

def greetedWorld : World := (firstRun (aloneAt ⟨5, 0⟩) "+5215512345678" greeting mistagged none none locked).2

theorem greeting_saved :
    firstRun (aloneAt ⟨5, 0⟩) "+5215512345678" greeting mistagged none none locked =
      (.ok (newSession "s1" ⟨5, 0⟩ ⟨"+5215512345678", "greet"⟩ mistagged none, greeted), greetedWorld) := by
  refine Prod.ext ?_ rfl
  simp only [firstRun, bind_apply, runOptions_aloneAt]
  rfl

theorem sorting_fails :
    (firstRun (aloneAt ⟨5, 0⟩) "+5215512345678" sorting mistagged none none greetedWorld).1 = .error .wrongType := by
  simp only [greetedWorld, firstRun, bind_apply, runOptions_aloneAt]
  rfl

/-- A greeting that was saved is never handed over, because the flow after it cannot tell the tags. -/
theorem greeting_saved_but_never_handed_over :
    let done := (Call.startFlow "greet" "+5215512345678" [("tags", .int 5)]).perform (aloneAt ⟨5, 0⟩)
      (offering [greeting, sorting])
    done.1 = .error .wrongType ∧ Withheld (offering [greeting, sorting]) done.2 ∧
    Course (aloneAt ⟨5, 0⟩) (offering [greeting, sorting]) [.started greeted, .broken .wrongType] done.2 := by
  intro done
  let last := firstRun (aloneAt ⟨5, 0⟩) "+5215512345678" sorting mistagged none none greetedWorld
  let unlocked := (Work.onOutside
    (Cache.leaveLock (aloneAt ⟨5, 0⟩).link lobby (Cache.addressLockName "+5215512345678") 0 .within) last.2).2
  have failed : last = (.error .wrongType, last.2) := Prod.ext sorting_fails rfl
  have ending : done = (.error .wrongType, unlocked) := by
    simp only [done, unlocked, last, greetedWorld, locked, Call.perform, startFlow, startFound, withLock, maxChained,
      start, firstRun, bind_apply, runOptions_aloneAt]
    rfl
  have entered : Quiet (offering [greeting, sorting]) locked := Calm.onOutside (enterLock_mute _ _ _) _
  have left : Quiet last.2 unlocked := Calm.onOutside (leaveLock_mute _ _ _) _
  have course : Course (aloneAt ⟨5, 0⟩) (offering [greeting, sorting]) [.started greeted, .broken .wrongType]
      unlocked :=
    .trans (.quiet entered) (.trans (.deed (.started greeting_saved)) (.trans (.deed (.broken failed)) (.quiet left)))
  have asksNoAgent : ∀ d ∈ [Deed.started greeted, .broken .wrongType], d ≠ .consulted := by
    intro d member same
    rw [same] at member
    simp at member
  rw [ending]
  exact ⟨rfl, course_withheld rfl course asksNoAgent, course⟩

end Chatflow.Proofs.HandedActions
