import Chatflow.Proofs.StoredSessions

/-! The records of one contact among all. What is looked up for a contact is found among the contact's own records, and
what is changed for a contact is changed there, however many records of others there are. -/

namespace Chatflow.Proofs.ContactRecords
open SessionTable StoredSessions

/-- The records of a contact, as a table of their own. -/
def only (contact : String) (t : SessionTable) : SessionTable := ⟨t.rowsOf contact⟩

/-- The records of everyone but a contact. -/
def beyond (contact : String) (t : SessionTable) : List (SessionKey × Session) :=
  t.rows.filter fun row => row.1.address != contact

variable {contact : String} {others : List (SessionKey × Session)} {t : SessionTable} {s : Session}

/-- A session is the contact's, and has an id that no other contact's session has. -/
structure Belongs (contact : String) (others : List (SessionKey × Session)) (s : Session) : Prop where
  address : s.address = contact
  apart : ∀ row ∈ others, row.2.id ≠ s.id

theorem Belongs.congr {after : Session} (belongs : Belongs contact others s) (address : after.address = s.address)
    (id : after.id = s.id) : Belongs contact others after :=
  ⟨address.trans belongs.address, by rw [id]; exact belongs.apart⟩

/-- A table holds the records of some others, and what it holds beside them belongs to the contact. -/
structure Parted (contact : String) (others : List (SessionKey × Session)) (t : SessionTable) : Prop where
  beyond : beyond contact t = others
  own : ∀ row ∈ t.rowsOf contact, Belongs contact others row.2

theorem mem_rowsOf {row : SessionKey × Session} : row ∈ t.rowsOf contact ↔ row ∈ t.rows ∧ row.1.address = contact := by
  simp only [rowsOf, List.mem_filter, beq_iff_eq]

/-- Where records are told apart by their ids, those of a contact are parted from the others. -/
theorem parted_of_sound (sound : Sound t) (contact : String) : Parted contact (beyond contact t) t := by
  refine ⟨rfl, fun row member => ?_⟩
  obtain ⟨stored, key⟩ := mem_rowsOf.mp member
  refine ⟨?_, fun other inside same => ?_⟩
  · rw [← key, sound.own row stored]; rfl
  · obtain ⟨there, elsewhere⟩ := List.mem_filter.mp inside
    have one : other.2 = row.2 :=
      sound.eq_of_id (mem_sessions.mpr ⟨other, there, rfl⟩) (mem_sessions.mpr ⟨row, stored, rfl⟩) same
    have address : other.1.address = contact := by rw [sound.own other there, one, ← sound.own row stored, key]
    simp [address] at elsewhere

/-- What only records of one kind can be is found among these. -/
theorem find?_filter_of_only {α : Type} {items : List α} {kind wanted : α → Bool}
    (within : ∀ a ∈ items, wanted a = true → kind a = true) :
    (items.filter kind).find? wanted = items.find? wanted := by
  rw [List.find?_filter]
  induction items with
  | nil => rfl
  | cons a rest ih =>
    have later := ih fun b inside => within b (List.mem_cons_of_mem _ inside)
    cases found : wanted a with
    | true => simp [found, within a List.mem_cons_self found]
    | false => simpa [found] using later

theorem only_rowsOf (contact : String) (t : SessionTable) : (only contact t).rowsOf contact = t.rowsOf contact := by
  simp only [only, rowsOf, List.filter_filter, Bool.and_self]

theorem only_find? (contact : String) (t : SessionTable) : (only contact t).find? contact = t.find? contact := by
  simp only [SessionTable.find?, only_rowsOf]

theorem only_findForFlow? {key : SessionKey} (address : key.address = contact) (t : SessionTable) :
    (only contact t).findForFlow? key = t.findForFlow? key := by
  unfold findForFlow? only rowsOf
  rw [find?_filter_of_only]
  intro row _ same
  rw [eq_of_beq same, address, beq_self_eq_true]

theorem only_has {key : SessionKey} (address : key.address = contact) (t : SessionTable) :
    (only contact t).has key = t.has key := by
  have within : ∀ row : SessionKey × Session, (row.1.address == contact && row.1 == key) = (row.1 == key) := by
    intro row
    cases same : row.1 == key with
    | true => rw [eq_of_beq same, address, beq_self_eq_true, Bool.and_self]
    | false => rw [Bool.and_false]
  simp only [SessionTable.has, only, rowsOf, List.any_filter, within]

theorem get?_eq (t : SessionTable) (id : String) :
    t.get? id = (t.rows.find? fun row => row.2.id == id).map (·.2) := by
  simp only [get?, sessions, List.find?_map, Function.comp_def]

theorem Parted.within (parted : Parted contact others t) {id : String} (apart : ∀ row ∈ others, row.2.id ≠ id) :
    ∀ row ∈ t.rows, (row.2.id == id) = true → (row.1.address == contact) = true := by
  intro row member same
  cases here : row.1.address == contact with
  | true => rfl
  | false =>
    have inside : row ∈ others := by
      rw [← parted.beyond]
      exact List.mem_filter.mpr ⟨member, by simp [bne, here]⟩
    exact absurd (eq_of_beq same) (apart row inside)

/-- An id that none of the others have is looked up among the contact's records. -/
theorem Parted.only_get? (parted : Parted contact others t) {id : String} (apart : ∀ row ∈ others, row.2.id ≠ id) :
    (only contact t).get? id = t.get? id := by
  rw [get?_eq, get?_eq]
  unfold only rowsOf
  rw [find?_filter_of_only (parted.within apart)]

theorem Parted.get?_belongs (parted : Parted contact others t) {id : String} (apart : ∀ row ∈ others, row.2.id ≠ id)
    (found : t.get? id = some s) : Belongs contact others s := by
  rw [get?_eq] at found
  obtain ⟨row, first, rfl⟩ := Option.map_eq_some_iff.mp found
  have member := List.mem_of_find?_eq_some first
  have same : (row.2.id == id) = true := by simpa only using List.find?_some first
  exact parted.own row (mem_rowsOf.mpr ⟨member, eq_of_beq (parted.within apart row member same)⟩)

theorem Parted.find?_belongs (parted : Parted contact others t) (found : t.find? contact = some s) :
    Belongs contact others s := by
  have inside := (List.mem_filter.mp (latest?_mem found)).1
  obtain ⟨row, member, rfl⟩ := List.mem_map.mp inside
  exact parted.own row member

theorem Parted.findForFlow?_belongs (parted : Parted contact others t) {key : SessionKey}
    (address : key.address = contact) (found : t.findForFlow? key = some s) : Belongs contact others s := by
  obtain ⟨row, first, rfl⟩ := Option.map_eq_some_iff.mp found
  have same : row.1 = key := by simpa only [beq_iff_eq] using List.find?_some first
  exact parted.own row (mem_rowsOf.mpr ⟨List.mem_of_find?_eq_some first, by rw [same, address]⟩)

/-- A change of the table is made among the contact's records: the others stay, and have no part in it. -/
def MadeWithin (contact : String) (others : List (SessionKey × Session)) (change : SessionTable → SessionTable) :
    Prop :=
  ∀ t, Parted contact others t → Parted contact others (change t) ∧ change (only contact t) = only contact (change t)

theorem putRow_filter_own {key : SessionKey} (address : key.address = contact) (s : Session)
    (rows : List (SessionKey × Session)) :
    (putRow key s rows).filter (fun row => row.1.address == contact) =
      putRow key s (rows.filter fun row => row.1.address == contact) := by
  induction rows with
  | nil => simp [putRow, address]
  | cons row rest ih =>
    by_cases here : row.1 = key
    · simp [putRow, here, address]
    · by_cases near : row.1.address = contact
      · simp [putRow, here, near, ih]
      · simp [putRow, here, near, ih]

theorem putRow_filter_beyond {key : SessionKey} (address : key.address = contact) (s : Session)
    (rows : List (SessionKey × Session)) :
    (putRow key s rows).filter (fun row => row.1.address != contact) =
      rows.filter fun row => row.1.address != contact := by
  induction rows with
  | nil => simp [putRow, address]
  | cons row rest ih =>
    by_cases here : row.1 = key
    · simp [putRow, here, address]
    · by_cases near : row.1.address = contact
      · simp [putRow, here, near, ih]
      · simp [putRow, here, near, ih]

theorem put_madeWithin (belongs : Belongs contact others s) : MadeWithin contact others fun t => t.put s := by
  intro t parted
  have address : s.key.address = contact := belongs.address
  refine ⟨⟨?_, ?_⟩, ?_⟩
  · exact (putRow_filter_beyond address s t.rows).trans parted.beyond
  · intro row member
    obtain ⟨stored, key⟩ := mem_rowsOf.mp member
    rcases mem_putRow stored with rfl | former
    · exact belongs
    · exact parted.own row (mem_rowsOf.mpr ⟨former, key⟩)
  · simp only [only, put, rowsOf, putRow_filter_own address]

theorem Parted.only_standsAt? (parted : Parted contact others t) {id : String} (apart : ∀ row ∈ others, row.2.id ≠ id)
    (expected : Option String) : (only contact t).standsAt? id expected = t.standsAt? id expected := by
  rw [standsAt?, standsAt?, parted.only_get? apart]

theorem Parted.swap_answer (parted : Parted contact others t) {id : String} (apart : ∀ row ∈ others, row.2.id ≠ id)
    (now : Instant) (expected : Option String) (c : Change) :
    ((only contact t).swap now id expected c).1 = (t.swap now id expected c).1 := by
  unfold SessionTable.swap
  rw [parted.only_standsAt? apart]
  cases t.standsAt? id expected <;> rfl

theorem swap_madeWithin {id : String} (apart : ∀ row ∈ others, row.2.id ≠ id) (now : Instant)
    (expected : Option String) (c : Change) : MadeWithin contact others fun t => (t.swap now id expected c).2 := by
  intro t parted
  simp only [SessionTable.swap, parted.only_standsAt? apart]
  cases stands : t.standsAt? id expected with
  | none => exact ⟨parted, rfl⟩
  | some s =>
    have found := (Option.filter_eq_some_iff.mp stands).1
    have changed : Belongs contact others (c.apply now s) := (parted.get?_belongs apart found).congr rfl rfl
    exact put_madeWithin changed t parted

theorem isOpenRow_elsewhere {row : SessionKey × Session} (elsewhere : row.1.address ≠ contact) :
    isOpenRow contact row = false := by
  simp [isOpenRow, elsewhere]

theorem any_isOpenRow (contact : String) (t : SessionTable) :
    (only contact t).rows.any (isOpenRow contact) = t.rows.any (isOpenRow contact) := by
  have within : ∀ row, (row.1.address == contact && isOpenRow contact row) = isOpenRow contact row := by
    intro row
    rw [isOpenRow, ← Bool.and_assoc, Bool.and_self]
  simp only [only, rowsOf, List.any_filter, within]

theorem abandonAll_count (contact : String) (now : Instant) (t : SessionTable) :
    ((only contact t).abandonAll now contact).1 = (t.abandonAll now contact).1 := by
  simp only [SessionTable.abandonAll, only, rowsOf, List.countP_filter]
  refine List.countP_congr fun row _ => ?_
  simp only [isOpenRow, Bool.and_eq_true]
  exact ⟨fun both => both.1, fun both => ⟨both, both.1⟩⟩

theorem abandonAll_madeWithin (now : Instant) :
    MadeWithin contact others fun t => (t.abandonAll now contact).2 := by
  intro t parted
  have kept : ∀ row : SessionKey × Session,
      (if isOpenRow contact row then (row.1, row.2.abandon now) else row).1 = row.1 := by
    intro row
    split <;> rfl
  refine ⟨⟨?_, ?_⟩, ?_⟩
  · rw [← parted.beyond]
    unfold beyond SessionTable.abandonAll
    simp only [List.filter_map, Function.comp_def, kept]
    refine (List.map_congr_left fun row member => ?_).trans (List.map_id _)
    have elsewhere : row.1.address ≠ contact := by simpa using (List.mem_filter.mp member).2
    simp [isOpenRow_elsewhere elsewhere]
  · intro row member
    obtain ⟨stored, key⟩ := mem_rowsOf.mp member
    obtain ⟨former, there, rfl⟩ := List.mem_map.mp stored
    have before := parted.own former (mem_rowsOf.mpr ⟨there, by rw [← key, kept]⟩)
    split
    · exact before.congr rfl rfl
    · exact before
  · simp only [only, rowsOf, SessionTable.abandonAll, List.filter_map, Function.comp_def, kept]

theorem reset_count (contact : String) (t : SessionTable) :
    ((only contact t).reset contact).1 = (t.reset contact).1 := by
  simp only [SessionTable.reset, only_rowsOf]

theorem reset_madeWithin : MadeWithin contact others fun t => (t.reset contact).2 := by
  intro t parted
  refine ⟨⟨?_, ?_⟩, ?_⟩
  · rw [← parted.beyond]
    simp [beyond, SessionTable.reset]
  · intro row member
    obtain ⟨stored, key⟩ := mem_rowsOf.mp member
    have elsewhere := (List.mem_filter.mp stored).2
    simp [key] at elsewhere
  · simp only [only, rowsOf, SessionTable.reset, List.filter_filter, Bool.and_comm]

/-- A change for a session that is looked up by its id. -/
theorem found_madeWithin {id : String} (apart : ∀ row ∈ others, row.2.id ≠ id)
    {act : SessionTable → SessionTable} {change : Session → SessionTable → SessionTable}
    (made : ∀ s, Belongs contact others s → MadeWithin contact others (change s))
    (acts : ∀ t, act t = match t.get? id with
      | none => t
      | some s => change s t) : MadeWithin contact others act := by
  intro t parted
  rw [acts, acts, parted.only_get? apart]
  cases found : t.get? id with
  | none => exact ⟨parted, rfl⟩
  | some s => exact made s (parted.get?_belongs apart found) t parted

/-- What another writer does to a session of the contact is done among the contact's records. The induction is on the
acts that it is made of. -/
theorem foreignWrite_madeWithin (write : ForeignWrite) (now : Instant) {id : String}
    (apart : ∀ row ∈ others, row.2.id ≠ id) : MadeWithin contact others (write.apply now id) := by
  induction write with
  | reset =>
    have made : ∀ s, Belongs contact others s → MadeWithin contact others fun t => (t.reset s.address).2 := by
      intro s belongs
      rw [belongs.address]
      exact reset_madeWithin
    exact found_madeWithin apart made fun t => by cases found : t.get? id <;> rw [ForeignWrite.apply, found]
  | abandon =>
    have made : ∀ s, Belongs contact others s →
        MadeWithin contact others fun t => (t.abandonAll now s.address).2 := by
      intro s belongs
      rw [belongs.address]
      exact abandonAll_madeWithin now
    exact found_madeWithin apart made fun t => by cases found : t.get? id <;> rw [ForeignWrite.apply, found]
  | swap step vars status =>
    have made : ∀ s, Belongs contact others s → MadeWithin contact others fun t =>
        t.put (Change.apply { step := step, vars := s.vars.merge vars, status := status } now s) :=
      fun s belongs => put_madeWithin (belongs.congr rfl rfl)
    exact found_madeWithin apart made fun t => by cases found : t.get? id <;> rw [ForeignWrite.apply, found]
  | inTurn first next before after =>
    have made : MadeWithin contact others fun t => next.apply now id (first.apply now id t) := by
      intro t parted
      obtain ⟨between, first⟩ := before t parted
      obtain ⟨last, next⟩ := after _ between
      exact ⟨last, (congrArg _ first).trans next⟩
    exact found_madeWithin apart (fun _ _ => made) fun t => by cases found : t.get? id <;> rw [ForeignWrite.apply, found]

end Chatflow.Proofs.ContactRecords
