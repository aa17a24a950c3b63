import Chatflow.Flow.Basic

/-! Which steps of a flow can be come to from its start. A connection counts when its target exists. Steps that were
found stand in line until their own connections are followed. -/

namespace Chatflow

namespace Flow

/-- A connection leads from one step to another one that exists. -/
inductive Leads (f : Flow) : String → String → Prop where
  | along {c : Connection} : c ∈ f.connections → (f.step? c.target).isSome → Leads f c.source c.target

/-- The steps that can be come to from the start step. -/
inductive Reachable (f : Flow) : String → Prop where
  | start {s : Step} : f.startStep? = some s → Reachable f s.id
  | step {a b : String} : Reachable f a → Leads f a b → Reachable f b

/-- How far a search has come: the steps found so far, and those of them whose connections are still to be
followed. -/
structure Search where
  found : List String
  line : List String

namespace Search

variable (f : Flow)

/-- Adds the target of a connection, if it exists and is new. -/
def note (search : Search) (c : Connection) : Search :=
  if search.found.contains c.target || (f.step? c.target).isNone then search
  else ⟨search.found ++ [c.target], search.line ++ [c.target]⟩

/-- Follows the connections of a step. -/
def follow (search : Search) (id : String) : Search := (f.outgoing id).foldl (note f) search

/-- How many steps are still to be found. -/
def unfound (found : List String) : Nat := f.steps.countP fun s => !found.contains s.id

/-- How many steps are still to be found or followed. -/
def remaining (search : Search) : Nat := unfound f search.found + search.line.length

theorem unfound_lt {found : List String} {id : String} (present : (f.step? id).isSome) (new : found.contains id = false) :
    unfound f (found ++ [id]) < unfound f found := by
  obtain ⟨step, looked⟩ := Option.isSome_iff_exists.mp present
  have same : step.id = id := by simpa only [beq_iff_eq] using List.find?_some looked
  obtain ⟨before, after, split⟩ := List.append_of_mem (List.mem_of_find?_eq_some looked)
  have fewer : ∀ steps : List Step, (steps.countP fun s => !(found ++ [id]).contains s.id) ≤
      steps.countP fun s => !found.contains s.id := by
    intro steps
    apply List.countP_mono_left
    intro s _ unlisted
    simp only [List.contains_append, Bool.not_or, Bool.and_eq_true] at unlisted
    exact unlisted.1
  have first := fewer before
  have last := fewer after
  unfold unfound
  rw [split, List.countP_append, List.countP_append, List.countP_cons_of_neg (by simp [same]),
    List.countP_cons_of_pos (by rw [same, new]; rfl)]
  omega

/-- A step that is found joins the line, but it is one less to be found. -/
theorem remaining_note_le (search : Search) (c : Connection) : (note f search c).remaining f ≤ search.remaining f := by
  unfold note
  split
  · exact Nat.le_refl _
  next new =>
    simp only [Bool.or_eq_true, not_or, Bool.not_eq_true, Option.isNone_eq_false_iff] at new
    have fewer := unfound_lt f new.2 new.1
    simp only [remaining, List.length_append, List.length_singleton]
    omega

theorem remaining_follow_le (search : Search) (id : String) : (follow f search id).remaining f ≤ search.remaining f := by
  unfold follow
  induction f.outgoing id generalizing search with
  | nil => exact Nat.le_refl _
  | cons c rest ih => exact Nat.le_trans (ih _) (remaining_note_le f search c)

end Search

/-- Searches on until the connections of all steps that were found have been followed. -/
def search (f : Flow) (state : Search) : List String :=
  match _h : state.line with
  | [] => state.found
  | id :: rest => search f (Search.follow f { state with line := rest } id)
termination_by state.remaining f
decreasing_by
  have shorter : ({ state with line := rest } : Search).remaining f < state.remaining f := by
    simp only [Search.remaining, _h, List.length_cons]
    omega
  exact Nat.lt_of_le_of_lt (Search.remaining_follow_le f _ id) shorter

/-- The ids of all steps that can be come to. -/
def reachable (f : Flow) : List String :=
  match f.startStep? with
  | some start => f.search ⟨[start.id], [start.id]⟩
  | none => []

end Flow

end Chatflow
