import Chatflow.Store.Table

/-! The session table: what is found under an id or a key, and that no change of the table confuses two records. -/

namespace Chatflow.Proofs.StoredSessions
open SessionTable

variable {t : SessionTable} {s : Session}

/-- Every record is stored under its own key; no two have one key, and no two have one id. -/
structure Sound (t : SessionTable) : Prop where
  own : ∀ row ∈ t.rows, row.1 = row.2.key
  keys : (t.rows.map Prod.fst).Nodup
  ids : (t.rows.map fun row => row.2.id).Nodup

theorem sound_empty : Sound {} := ⟨by simp, by simp, by simp⟩

theorem mem_sessions : s ∈ t.sessions ↔ ∃ row ∈ t.rows, row.2 = s := by
  simp only [sessions, List.mem_map]

theorem get?_mem {id : String} (found : t.get? id = some s) : s ∈ t.sessions := List.mem_of_find?_eq_some found

theorem get?_id {id : String} (found : t.get? id = some s) : s.id = id := by
  simpa only [beq_iff_eq] using List.find?_some found

theorem get?_self {id : String} (found : t.get? id = some s) : t.get? s.id = some s := by rw [get?_id found, found]

theorem find?_of_nodup {α β : Type} [BEq β] [LawfulBEq β] {items : List α} {key : α → β}
    (unique : (items.map key).Nodup) {a : α} (member : a ∈ items) :
    items.find? (fun b => key b == key a) = some a := by
  induction items with
  | nil => cases member
  | cons b rest ih =>
    simp only [List.map_cons, List.nodup_cons] at unique
    rcases List.mem_cons.mp member with rfl | inside
    · exact List.find?_cons_of_pos (by simp)
    · rw [List.find?_cons_of_neg, ih unique.2 inside]
      intro same
      apply unique.1
      rw [eq_of_beq same]
      exact List.mem_map.mpr ⟨a, inside, rfl⟩

/-- A stored session is what is found under its id. -/
theorem Sound.get?_of_mem (sound : Sound t) (member : s ∈ t.sessions) : t.get? s.id = some s := by
  apply find?_of_nodup _ member
  simpa only [sessions, List.map_map, Function.comp_def] using sound.ids

theorem mem_putRow {key : SessionKey} {rows : List (SessionKey × Session)} {row : SessionKey × Session}
    (member : row ∈ putRow key s rows) : row = (key, s) ∨ row ∈ rows := by
  induction rows with
  | nil => exact Or.inl (List.mem_singleton.mp member)
  | cons first rest ih =>
    unfold putRow at member
    split at member
    · rcases List.mem_cons.mp member with same | inside
      · exact Or.inl same
      · exact Or.inr (List.mem_cons_of_mem _ inside)
    · rcases List.mem_cons.mp member with rfl | inside
      · exact Or.inr List.mem_cons_self
      · exact (ih inside).imp id (List.mem_cons_of_mem _)

theorem putRow_mem (key : SessionKey) (s : Session) (rows : List (SessionKey × Session)) :
    (key, s) ∈ putRow key s rows := by
  induction rows with
  | nil => exact List.mem_singleton.mpr rfl
  | cons first rest ih =>
    unfold putRow
    split
    · exact List.mem_cons_self
    · exact List.mem_cons_of_mem _ ih

/-- Whatever tells rows apart still does after a row was put, if the new row is told from those of other keys. -/
theorem nodup_putRow {β : Type} {project : SessionKey × Session → β} {key : SessionKey}
    {rows : List (SessionKey × Session)} (keys : (rows.map Prod.fst).Nodup) (unique : (rows.map project).Nodup)
    (apart : ∀ row ∈ rows, project row = project (key, s) → row.1 = key) :
    ((putRow key s rows).map project).Nodup := by
  induction rows with
  | nil => simp [putRow]
  | cons first rest ih =>
    simp only [List.map_cons, List.nodup_cons] at keys unique
    have apartRest : ∀ row ∈ rest, project row = project (key, s) → row.1 = key :=
      fun row inside => apart row (List.mem_cons_of_mem _ inside)
    unfold putRow
    split
    next here =>
      simp only [List.map_cons, List.nodup_cons]
      refine ⟨?_, unique.2⟩
      intro clash
      obtain ⟨row, inside, same⟩ := List.mem_map.mp clash
      apply keys.1
      rw [here, ← apartRest row inside same]
      exact List.mem_map.mpr ⟨row, inside, rfl⟩
    next elsewhere =>
      simp only [List.map_cons, List.nodup_cons]
      refine ⟨?_, ih keys.2 unique.2 apartRest⟩
      intro clash
      obtain ⟨row, inside, same⟩ := List.mem_map.mp clash
      rcases mem_putRow inside with rfl | inside
      · exact elsewhere (apart first List.mem_cons_self same.symm)
      · exact unique.1 (List.mem_map.mpr ⟨row, inside, same⟩)

/-- A record may be put if its id belongs to no record of another key. -/
theorem Sound.put (sound : Sound t) (apart : ∀ other ∈ t.sessions, other.id = s.id → other.key = s.key) :
    Sound (t.put s) := by
  refine ⟨?_, ?_, ?_⟩
  · intro row member
    rcases mem_putRow member with rfl | inside
    · rfl
    · exact sound.own row inside
  · exact nodup_putRow sound.keys sound.keys fun _ _ same => same
  · apply nodup_putRow sound.keys sound.ids
    intro row inside same
    rw [sound.own row inside]
    exact apart row.2 (mem_sessions.mpr ⟨row, inside, rfl⟩) same

theorem mem_put {other : Session} (member : other ∈ (t.put s).sessions) : other = s ∨ other ∈ t.sessions := by
  obtain ⟨row, inside, rfl⟩ := mem_sessions.mp member
  rcases mem_putRow inside with rfl | inside
  · exact Or.inl rfl
  · exact Or.inr (mem_sessions.mpr ⟨row, inside, rfl⟩)

theorem put_mem (t : SessionTable) (s : Session) : s ∈ (t.put s).sessions :=
  mem_sessions.mpr ⟨_, putRow_mem s.key s t.rows, rfl⟩

theorem Sound.eq_of_id (sound : Sound t) {first other : Session} (member : first ∈ t.sessions)
    (inside : other ∈ t.sessions) (same : first.id = other.id) : first = other := by
  have found := sound.get?_of_mem member
  rw [same, sound.get?_of_mem inside] at found
  exact (Option.some.inj found).symm

@[simp]
theorem apply_key (c : Change) (now : Instant) (s : Session) : (c.apply now s).key = s.key := rfl

theorem Sound.apply (sound : Sound t) (member : s ∈ t.sessions) (c : Change) (now : Instant) :
    Sound (t.put (c.apply now s)) := by
  apply sound.put
  intro other inside same
  rw [sound.eq_of_id inside member same, apply_key]

theorem Sound.get?_put (sound : Sound (t.put s)) : (t.put s).get? s.id = some s := sound.get?_of_mem (put_mem t s)

theorem Sound.map (sound : Sound t) {f : SessionKey × Session → SessionKey × Session}
    (key : ∀ row, (f row).1 = row.1) (own : ∀ row, (f row).2.key = row.2.key)
    (id : ∀ row, (f row).2.id = row.2.id) : Sound ⟨t.rows.map f⟩ := by
  refine ⟨?_, ?_, ?_⟩
  · intro row member
    obtain ⟨former, inside, rfl⟩ := List.mem_map.mp member
    rw [key, own, sound.own former inside]
  · simpa only [List.map_map, Function.comp_def, key] using sound.keys
  · simpa only [List.map_map, Function.comp_def, id] using sound.ids

theorem Sound.filter (sound : Sound t) (p : SessionKey × Session → Bool) : Sound ⟨t.rows.filter p⟩ :=
  ⟨fun row member => sound.own row (List.mem_filter.mp member).1,
    sound.keys.sublist (List.filter_sublist.map _), sound.ids.sublist (List.filter_sublist.map _)⟩

theorem Sound.abandonAll (sound : Sound t) (now : Instant) (address : String) :
    Sound (t.abandonAll now address).2 := by
  apply sound.map
  · intro row
    split <;> rfl
  · intro row
    split <;> rfl
  · intro row
    split <;> rfl

theorem Sound.reset (sound : Sound t) (address : String) : Sound (t.reset address).2 := sound.filter _

/-- What is left of a session when the conversations of its contact are ended: itself, or a session that is over. -/
theorem mem_abandonAll_open {now : Instant} {address : String} (member : s ∈ (t.abandonAll now address).2.sessions) :
    s ∈ t.sessions ∨ ∃ former ∈ t.sessions, former.status = .active ∧ s = former.abandon now := by
  obtain ⟨row, inside, rfl⟩ := mem_sessions.mp member
  obtain ⟨former, stored, rfl⟩ := List.mem_map.mp inside
  split
  next isOpen =>
    refine Or.inr ⟨former.2, mem_sessions.mpr ⟨former, stored, rfl⟩, ?_, rfl⟩
    simp only [isOpenRow, Bool.and_eq_true, beq_iff_eq] at isOpen
    exact isOpen.2
  · exact Or.inl (mem_sessions.mpr ⟨former, stored, rfl⟩)

theorem mem_abandonAll {now : Instant} {address : String} (member : s ∈ (t.abandonAll now address).2.sessions) :
    s ∈ t.sessions ∨ ∃ former ∈ t.sessions, s = former.abandon now :=
  (mem_abandonAll_open member).imp_right fun ⟨former, stored, _, same⟩ => ⟨former, stored, same⟩

theorem mem_reset {address : String} (member : s ∈ (t.reset address).2.sessions) : s ∈ t.sessions := by
  obtain ⟨row, inside, rfl⟩ := mem_sessions.mp member
  exact mem_sessions.mpr ⟨row, (List.mem_filter.mp inside).1, rfl⟩

theorem later_mem {first other : Session} : later first other = first ∨ later first other = other := by
  unfold later
  split
  · exact Or.inr rfl
  · exact Or.inl rfl

theorem foldl_later_mem (rest : List Session) (first : Session) : rest.foldl later first ∈ first :: rest := by
  induction rest generalizing first with
  | nil => exact List.mem_cons_self
  | cons next rest ih =>
    rw [List.foldl_cons]
    rcases List.mem_cons.mp (ih (later first next)) with here | there
    · rw [here]
      rcases @later_mem first next with same | same <;> rw [same]
      · exact List.mem_cons_self
      · exact List.mem_cons_of_mem _ List.mem_cons_self
    · exact List.mem_cons_of_mem _ (List.mem_cons_of_mem _ there)

theorem latest?_mem {sessions : List Session} (latest : latest? sessions = some s) : s ∈ sessions := by
  cases sessions with
  | nil => cases latest
  | cons first rest => cases latest; exact foldl_later_mem rest first

theorem find?_mem {address : String} (found : t.find? address = some s) : s ∈ t.sessions := by
  have inside := (List.mem_filter.mp (latest?_mem found)).1
  obtain ⟨row, member, rfl⟩ := List.mem_map.mp inside
  exact mem_sessions.mpr ⟨row, (List.mem_filter.mp member).1, rfl⟩

theorem find?_active {address : String} (found : t.find? address = some s) : s.isActive = true :=
  (List.mem_filter.mp (latest?_mem found)).2

/-- Where no active session is found for a contact, none of its sessions is active. -/
theorem find?_none {address : String} (absent : t.find? address = none) {row : SessionKey × Session}
    (stored : row ∈ t.rows) (own : row.1.address = address) : row.2.isActive = false := by
  unfold SessionTable.find? latest? at absent
  split at absent
  next none =>
    have inside : row.2 ∈ (t.rowsOf address).map (·.2) :=
      List.mem_map.mpr ⟨row, List.mem_filter.mpr ⟨stored, beq_iff_eq.mpr own⟩, rfl⟩
    exact Bool.eq_false_iff.mpr (List.filter_eq_nil_iff.mp none row.2 inside)
  next => cases absent

theorem not_active_of_closed {address : String} (closed : t.rows.any (isOpenRow address) = false)
    {row : SessionKey × Session} (stored : row ∈ t.rows) (own : row.1.address = address) : row.2.isActive = false := by
  have finished := List.any_eq_false.mp closed row stored
  cases status : row.2.status with
  | active => simp [isOpenRow, own, status] at finished
  | completed => simp [Session.isActive, status]

/-- Once the conversations of a contact are ended, none of its sessions is active. -/
theorem abandonAll_rests {now : Instant} {address : String} {row : SessionKey × Session}
    (stored : row ∈ (t.abandonAll now address).2.rows) (own : row.1.address = address) : row.2.isActive = false := by
  obtain ⟨former, _, rfl⟩ := List.mem_map.mp stored
  by_cases opened : isOpenRow address former = true
  · simp [opened, Session.isActive, Session.abandon]
  · simp only [opened, if_false, Bool.false_eq_true] at own ⊢
    cases status : former.2.status with
    | active => simp [isOpenRow, own, status] at opened
    | completed => simp [Session.isActive, status]

theorem findForFlow?_mem {key : SessionKey} (found : t.findForFlow? key = some s) : s ∈ t.sessions := by
  obtain ⟨row, stored, rfl⟩ := Option.map_eq_some_iff.mp found
  exact mem_sessions.mpr ⟨row, List.mem_of_find?_eq_some stored, rfl⟩

end Chatflow.Proofs.StoredSessions
