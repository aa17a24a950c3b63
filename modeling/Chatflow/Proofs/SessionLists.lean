import Chatflow.Proofs.StoredSessions
import Mathlib.Data.List.Nodup

/-! The session table as a list of sessions, each of which tells by itself under which key it is stored. What is found
in the list does not depend on its order, and what is put into it takes the place of one session or comes on top. -/

namespace Chatflow.Proofs.SessionLists
open SessionTable StoredSessions

variable {t : SessionTable} {s : Session} {l r : List Session}

theorem map_eq_self {α : Type} {f : α → α} {items : List α} (same : ∀ a ∈ items, f a = a) : items.map f = items := by
  rw [List.map_congr_left same, List.map_id']

theorem rows_eq (sound : Sound t) : t.rows = t.sessions.map fun s => (s.key, s) := by
  rw [sessions, List.map_map]
  refine (map_eq_self fun row member => ?_).symm
  rw [Function.comp_apply, ← sound.own row member]

theorem findForFlow?_sessions (sound : Sound t) (key : SessionKey) :
    t.findForFlow? key = t.sessions.find? fun s => s.key == key := by
  rw [findForFlow?, rows_eq sound, List.find?_map, Option.map_map]
  exact Option.map_id'

theorem has_sessions (sound : Sound t) (key : SessionKey) : t.has key = t.sessions.any fun s => s.key == key := by
  rw [has, rows_eq sound, List.any_map]
  rfl

theorem rowsOf_sessions (sound : Sound t) (address : String) :
    (t.rowsOf address).map (·.2) = t.sessions.filter fun s => s.address == address := by
  rw [rowsOf, rows_eq sound, List.filter_map, List.map_map]
  exact List.map_id' _

theorem keys_nodup (sound : Sound t) : (t.sessions.map Session.key).Nodup := by
  have keys := sound.keys
  rw [rows_eq sound, List.map_map] at keys
  exact keys

theorem ids_nodup (sound : Sound t) : (t.sessions.map Session.id).Nodup := by
  have ids := sound.ids
  rw [rows_eq sound, List.map_map] at ids
  exact ids

theorem eq_of_key (sound : Sound t) {first other : Session} (member : first ∈ t.sessions)
    (inside : other ∈ t.sessions) (same : first.key = other.key) : first = other :=
  List.inj_on_of_nodup_map (keys_nodup sound) member inside same

/-- What is unique in a list is found wherever it stands. -/
theorem find?_perm {p : Session → Bool} (same : l.Perm r)
    (unique : ∀ a ∈ r, ∀ b ∈ r, p a = true → p b = true → a = b) : l.find? p = r.find? p := by
  cases found : r.find? p with
  | none =>
    rw [List.find?_eq_none] at found ⊢
    exact fun a member => found a (same.mem_iff.mp member)
  | some b =>
    have member := List.mem_of_find?_eq_some found
    have fits := List.find?_some found
    cases other : l.find? p with
    | none => exact absurd fits (List.find?_eq_none.mp other b (same.mem_iff.mpr member))
    | some a =>
      have inside := same.mem_iff.mp (List.mem_of_find?_eq_some other)
      rw [unique a inside b member (List.find?_some other) fits]

theorem putRow_perm (key : SessionKey) (s : Session) {rows : List (SessionKey × Session)}
    (keys : (rows.map Prod.fst).Nodup) :
    (putRow key s rows).Perm (rows.filter (fun row => !(row.1 == key)) ++ [(key, s)]) := by
  induction rows with
  | nil => exact .refl _
  | cons first rest ih =>
    rw [List.map_cons, List.nodup_cons] at keys
    unfold putRow
    split
    next own =>
      have others : rest.filter (fun row => !(row.1 == key)) = rest := by
        refine List.filter_eq_self.mpr fun row member => ?_
        have apart : row.1 ≠ key := fun same =>
          keys.1 (List.mem_map.mpr ⟨row, member, same.trans own.symm⟩)
        simp [apart]
      rw [List.filter_cons_of_neg (by simp [own]), others]
      exact List.perm_append_singleton _ _ |>.symm
    next other =>
      rw [List.filter_cons_of_pos (by simp [other])]
      exact (ih keys.2).cons first

theorem putRow_present {key : SessionKey} (s : Session) {rows : List (SessionKey × Session)}
    (keys : (rows.map Prod.fst).Nodup) (present : key ∈ rows.map Prod.fst) :
    putRow key s rows = rows.map fun row => if row.1 == key then (key, s) else row := by
  induction rows with
  | nil => cases present
  | cons first rest ih =>
    rw [List.map_cons, List.nodup_cons] at keys
    unfold putRow
    split
    next own =>
      have others : rest.map (fun row => if row.1 == key then (key, s) else row) = rest := by
        refine map_eq_self fun row member => if_neg fun same => keys.1 ?_
        exact List.mem_map.mpr ⟨row, member, (eq_of_beq same).trans own.symm⟩
      rw [List.map_cons, others, if_pos (beq_iff_eq.mpr own)]
    next other =>
      have later := (List.mem_cons.mp present).resolve_left (Ne.symm other)
      rw [List.map_cons, if_neg (by rwa [beq_iff_eq]), ih keys.2 later]

/-- A session that is put comes on top of the sessions of other keys. -/
theorem put_sessions (sound : Sound t) (s : Session) :
    (t.put s).sessions.Perm (t.sessions.filter (fun other => !(other.key == s.key)) ++ [s]) := by
  have put := (putRow_perm s.key s sound.keys).map (·.2)
  have kept : (t.rows.filter fun row => !(row.1 == s.key)).map (·.2) =
      t.sessions.filter fun other => !(other.key == s.key) := by
    rw [rows_eq sound, List.filter_map, List.map_map]
    exact List.map_id' _
  rwa [List.map_append, kept] at put

/-- A session that is put in the place of a stored one changes nothing else. -/
theorem put_sessions_stored (sound : Sound t) {former : Session} (member : former ∈ t.sessions)
    (same : s.key = former.key) :
    (t.put s).sessions = t.sessions.map fun other => if other.key == former.key then s else other := by
  have present : s.key ∈ t.rows.map Prod.fst := by
    rw [same, rows_eq sound, List.map_map]
    exact List.mem_map.mpr ⟨former, member, rfl⟩
  rw [sessions, SessionTable.put, putRow_present s sound.keys present, rows_eq sound, same, List.map_map, List.map_map]
  refine List.map_congr_left fun other _ => ?_
  simp only [Function.comp_apply, apply_ite Prod.snd]

/-- Nothing stands at a step under an id: no session has both. -/
theorem standsAt?_none (sound : Sound t) {id : String} {expected : Option String}
    (stands : t.standsAt? id expected = none) :
    ∀ other ∈ t.sessions, (other.id == id && other.currentStep == expected) = false := by
  intro other member
  rw [Bool.eq_false_iff]
  intro both
  rw [Bool.and_eq_true, beq_iff_eq] at both
  have found := sound.get?_of_mem member
  rw [standsAt?, ← both.1, found, Option.filter_some, if_pos both.2] at stands
  cases stands

/-- The session that stands at a step under an id is the only one that has both. -/
theorem standsAt?_some (sound : Sound t) {id : String} {expected : Option String}
    (stands : t.standsAt? id expected = some s) :
    s ∈ t.sessions ∧ ∀ other ∈ t.sessions, (other.id == id && other.currentStep == expected) = (other.key == s.key) := by
  obtain ⟨found, step⟩ := Option.filter_eq_some_iff.mp stands
  have stored := get?_mem found
  refine ⟨stored, fun other member => ?_⟩
  rw [Bool.eq_iff_iff]
  simp only [Bool.and_eq_true, beq_iff_eq]
  constructor
  · intro both
    rw [sound.eq_of_id member stored (both.1.trans (get?_id found).symm)]
  · intro same
    rw [eq_of_key sound member stored same]
    exact ⟨get?_id found, eq_of_beq step⟩

/-- A swap changes the session that stands at the step, and it alone. -/
theorem swapped_sessions (sound : Sound t) {id : String} {expected : Option String}
    (stands : t.standsAt? id expected = some s) (c : Change) (now : Instant) :
    (t.put (c.apply now s)).sessions =
      t.sessions.map fun other => if other.id == id && other.currentStep == expected then c.apply now other else other := by
  obtain ⟨stored, only⟩ := standsAt?_some sound stands
  rw [put_sessions_stored sound stored (apply_key c now s)]
  refine List.map_congr_left fun other member => ?_
  rw [only other member]
  split
  next same => rw [eq_of_key sound member stored (eq_of_beq same)]
  · rfl

/-- Where no conversation is open, none is ended. -/
theorem abandonAll_idle {address : String} (idle : t.rows.any (isOpenRow address) = false) (now : Instant) :
    t.abandonAll now address = (0, t) := by
  have closed : ∀ row ∈ t.rows, ¬isOpenRow address row = true := List.any_eq_false.mp idle
  have count : t.rows.countP (isOpenRow address) = 0 := List.countP_eq_zero.mpr closed
  have unchanged : (t.rows.map fun row => if isOpenRow address row then (row.1, row.2.abandon now) else row) = t.rows :=
    map_eq_self fun row member => if_neg (closed row member)
  rw [SessionTable.abandonAll, count, unchanged]

theorem abandonAll_sessions (sound : Sound t) (now : Instant) (address : String) :
    (t.abandonAll now address).2.sessions =
      t.sessions.map fun s => if s.address == address && s.status == .active then s.abandon now else s := by
  rw [sessions, SessionTable.abandonAll, rows_eq sound, List.map_map, List.map_map]
  refine List.map_congr_left fun s _ => ?_
  simp only [Function.comp_apply, apply_ite Prod.snd]
  rfl

theorem abandonAll_count (sound : Sound t) (now : Instant) (address : String) :
    (t.abandonAll now address).1 = t.sessions.countP fun s => s.address == address && s.status == .active := by
  rw [SessionTable.abandonAll, rows_eq sound, List.countP_map]
  rfl

theorem reset_sessions (sound : Sound t) (address : String) :
    (t.reset address).2.sessions = t.sessions.filter fun s => !(s.address == address) := by
  rw [sessions, SessionTable.reset, rows_eq sound, List.filter_map, List.map_map]
  exact List.map_id' _

theorem reset_count (sound : Sound t) (address : String) :
    (t.reset address).1 = t.sessions.countP fun s => s.address == address := by
  rw [List.countP_eq_length_filter, ← rowsOf_sessions sound, List.length_map]
  rfl

theorem later_max (first other : Session) :
    first.updatedAt.micros ≤ (later first other).updatedAt.micros ∧
      other.updatedAt.micros ≤ (later first other).updatedAt.micros := by
  unfold later
  split <;> omega

theorem foldl_later_max (rest : List Session) (first : Session) :
    ∀ other ∈ first :: rest, other.updatedAt.micros ≤ (rest.foldl later first).updatedAt.micros := by
  induction rest generalizing first with
  | nil =>
    intro other member
    rw [List.mem_singleton.mp member]
    exact Int.le_refl _
  | cons next rest ih =>
    have reached := ih (later first next) _ List.mem_cons_self
    have greater := later_max first next
    intro other member
    rw [List.foldl_cons]
    rcases List.mem_cons.mp member with rfl | member
    · exact Int.le_trans greater.1 reached
    · rcases List.mem_cons.mp member with rfl | inside
      · exact Int.le_trans greater.2 reached
      · exact ih (later first next) other (List.mem_cons_of_mem _ inside)

end Chatflow.Proofs.SessionLists
