import Chatflow.Cache.Server

/-! The slots of the cache under their keys: what storing, expiring and the passing of time make of a look-up. -/

namespace Chatflow.Proofs.CacheSlots
open Cache Cache.Server

variable {τ : Type} {slots : List (Slot τ)} {slot : Slot τ} {key : String}

theorem slot?_mem (found : slot? slots key = some slot) : slot ∈ slots :=
  List.mem_of_find?_eq_some found

theorem slot?_key (found : slot? slots key = some slot) : slot.key = key := by
  have named := List.find?_some found
  exact eq_of_beq named

theorem slot?_drop (slots : List (Slot τ)) (name key : String) :
    slot? (drop slots name) key = if name = key then none else slot? slots key := by
  unfold slot? drop
  rw [List.find?_filter]
  split
  next same =>
    apply List.find?_eq_none.mpr
    intro slot _
    simp [same]
  next other =>
    congr 1
    funext slot
    by_cases named : slot.key = key
    · simp [named, Ne.symm other]
    · simp [named]

theorem slot?_store (slots : List (Slot τ)) (slot : Slot τ) (key : String) :
    slot? (store slots slot) key = if slot.key = key then some slot else slot? slots key := by
  have others := slot?_drop slots slot.key key
  unfold slot? at others ⊢
  rw [store, List.find?_append, others, List.find?_singleton]
  split
  next same => simp [same]
  next other => simp [other]

theorem slot?_expire (slots : List (Slot τ)) (name key : String) (time : τ) :
    slot? (slots.map fun s => if s.key == name then { s with expires := some time } else s) key =
      if name = key then (slot? slots key).map fun s => { s with expires := some time } else slot? slots key := by
  have keyed : ((fun slot : Slot τ => slot.key == key) ∘
      fun s => if s.key == name then { s with expires := some time } else s) = fun slot => slot.key == key := by
    funext slot
    rw [Function.comp_apply]
    split <;> rfl
  unfold slot?
  rw [List.find?_map, keyed]
  cases found : slots.find? fun slot => slot.key == key with
  | none => simp
  | some slot =>
    have named : slot.key = key := slot?_key found
    by_cases same : name = key
    · simp [named, same]
    · simp [named, same, Ne.symm same]

/-- No two slots have this key. -/
def Sole (key : String) (slots : List (Slot τ)) : Prop :=
  ∀ a ∈ slots, ∀ b ∈ slots, a.key = key → b.key = key → a = b

namespace Sole

theorem of_absent (absent : slot? slots key = none) : Sole key slots := by
  intro a member _ _ named
  exact absurd (beq_iff_eq.mpr named) (List.find?_eq_none.mp absent a member)

theorem filter (sole : Sole key slots) (p : Slot τ → Bool) : Sole key (slots.filter p) := by
  intro a first b second
  exact sole a (List.mem_filter.mp first).1 b (List.mem_filter.mp second).1

theorem store (sole : Sole key slots) (slot : Slot τ) : Sole key (store slots slot) := by
  intro a first b second named alike
  rcases List.mem_append.mp first with former | new <;> rcases List.mem_append.mp second with former' | new'
  · exact sole.filter _ a former b former' named alike
  · cases List.mem_singleton.mp new'
    have other := (List.mem_filter.mp former).2
    simp [named, alike] at other
  · cases List.mem_singleton.mp new
    have other := (List.mem_filter.mp former').2
    simp [named, alike] at other
  · rw [List.mem_singleton.mp new, List.mem_singleton.mp new']

theorem map (sole : Sole key slots) {f : Slot τ → Slot τ} (keeps : ∀ s, (f s).key = s.key) : Sole key (slots.map f) := by
  intro a first b second named alike
  obtain ⟨former, member, rfl⟩ := List.mem_map.mp first
  obtain ⟨other, member', rfl⟩ := List.mem_map.mp second
  rw [keeps] at named alike
  rw [sole former member other member' named alike]

end Sole

section
variable [Clock τ] {now : τ}

/-- Whether the time of a slot is not up. -/
def lasts (now : τ) (s : Slot τ) : Bool :=
  match s.expires with
  | some time => !Clock.reached time now
  | none => true

theorem lasts_eq {slot : Slot τ} {time : τ} (expires : slot.expires = some time) :
    lasts now slot = !Clock.reached time now := by
  rw [lasts, expires]

theorem prune_eq_filter (slots : List (Slot τ)) (now : τ) : prune slots now = slots.filter (lasts now) := rfl

theorem prune_eq_self : prune slots now = slots ↔
    ∀ slot ∈ slots, ∀ time, slot.expires = some time → Clock.reached time now = false := by
  rw [prune_eq_filter, List.filter_eq_self]
  refine forall₂_congr fun slot _ => ?_
  unfold lasts
  cases slot.expires <;> simp

theorem prune_prune (slots : List (Slot τ)) (now : τ) : prune (prune slots now) now = prune slots now := by
  simp only [prune_eq_filter, List.filter_filter, Bool.and_self]

/-- What is stored under another key is not seen under this one. -/
theorem slot?_prune_store (other : slot.key ≠ key) (now : τ) :
    slot? (prune (store slots slot) now) key = slot? (prune slots now) key := by
  have dropped : (drop slots slot.key).filter (lasts now) = drop (prune slots now) slot.key := by
    simp only [drop, prune_eq_filter, List.filter_filter, Bool.and_comm]
  rw [prune_eq_filter, store, List.filter_append, dropped]
  cases lasting : lasts now slot with
  | false =>
    rw [List.filter_cons_of_neg (by simp [lasting]), List.filter_nil, List.append_nil, slot?_drop, if_neg other]
  | true =>
    rw [List.filter_cons_of_pos lasting, List.filter_nil]
    exact (slot?_store _ slot key).trans (if_neg other)

/-- Of a key that only one slot has, nothing is left but that slot, as long as its time is not up. -/
theorem Sole.slot?_prune (sole : Sole key slots) (now : τ) :
    slot? (prune slots now) key = (slot? slots key).filter (lasts now) := by
  cases found : slot? slots key with
  | none =>
    apply List.find?_eq_none.mpr
    intro slot member
    exact List.find?_eq_none.mp found slot (List.mem_filter.mp member).1
  | some slot =>
    cases lasting : lasts now slot with
    | false =>
      rw [Option.filter_some_neg (by simp [lasting])]
      apply List.find?_eq_none.mpr
      intro other member
      obtain ⟨present, kept⟩ := List.mem_filter.mp member
      intro named
      rw [← sole slot (slot?_mem found) other present (slot?_key found) (eq_of_beq named)] at kept
      exact absurd (kept.symm.trans lasting) (by decide)
    | true =>
      rw [Option.filter_some_pos lasting]
      unfold slot? at found ⊢
      rw [prune_eq_filter, List.find?_filter]
      obtain ⟨named, before, after, split, others⟩ := List.find?_eq_some_iff_append.mp found
      refine List.find?_eq_some_iff_append.mpr ⟨by simp [lasting, named], before, after, split, ?_⟩
      intro other member
      simp [by simpa using others other member]

theorem Sole.execute (sole : Sole key slots) {grantsLocks : Bool} {c : Command} {reply : Reply} {after : List (Slot τ)}
    (done : execute now grantsLocks slots c = .ok (reply, after)) : Sole key after := by
  cases c with
  | set =>
    simp only [Cache.Server.execute] at done
    split at done <;> cases done
    · exact sole
    · exact sole.store _
  | increment =>
    simp only [Cache.Server.execute] at done
    split at done <;> cases done
    · exact sole.store _
    · exact sole.store _
  | expire =>
    cases done
    apply sole.map
    intro s
    split <;> rfl
  | readTable name =>
    simp only [Cache.Server.execute] at done
    cases found : cells? slots name <;> rw [found] at done <;> cases done
    exact sole
  | writeTable name =>
    simp only [Cache.Server.execute] at done
    cases found : cells? slots name <;> rw [found] at done <;> cases done
    exact sole.store _
  | dropCell name =>
    simp only [Cache.Server.execute] at done
    cases found : cells? slots name <;> rw [found] at done <;> cases done
    split
    · exact sole.store _
    · exact sole
  | incrementCell name cell =>
    simp only [Cache.Server.execute] at done
    cases found : cells? slots name with
    | error fault =>
      rw [found] at done
      cases done
    | ok cells =>
      cases counted : countIn cells cell <;> simp only [found, counted, bind, Except.bind] at done <;> cases done
      exact sole.store _
  | delete =>
    cases done
    exact sole.filter _
  | ping | lock | release | acquire =>
    cases done
    exact sole

theorem perform_isDown (now : τ) (c : Command) (s : Server τ) : (Server.perform now c s).2.isDown = s.isDown := by
  simp only [Server.perform]
  split
  · rfl
  · split <;> rfl

theorem Sole.perform {s : Server τ} (sole : Sole key s.slots) (now : τ) (c : Command) :
    Sole key (Server.perform now c s).2.slots := by
  have pruned : Sole key (prune s.slots now) := sole.filter _
  simp only [Server.perform]
  split
  · exact pruned
  · split
    next done => exact pruned.execute done
    · exact pruned

end

end Chatflow.Proofs.CacheSlots
