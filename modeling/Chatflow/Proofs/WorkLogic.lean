import Chatflow.World

/-! Assertions about work. Work may fail, and what it did before it failed stays done: an invariant of the world
therefore has to hold however work ends, and the other assertions where it comes to an answer. -/

namespace Chatflow.Proofs.WorkLogic

variable {α β : Type}

theorem bind_apply {σ : Type} (work : ExceptT Fault (StateM σ) α) (next : α → ExceptT Fault (StateM σ) β) (w : σ) :
    (work >>= next) w = match work w with
      | (.ok a, w) => next a w
      | (.error fault, w) => (.error fault, w) := by
  change (match work w with
    | (result, w) => ExceptT.bindCont next result w) = _
  rcases work w with ⟨_ | a, after⟩ <;> rfl

/-- Work in two parts that came to an answer did so in both. -/
theorem bind_ok {σ : Type} {work : ExceptT Fault (StateM σ) α} {next : α → ExceptT Fault (StateM σ) β} {w after : σ}
    {b : β} (done : (work >>= next) w = (.ok b, after)) :
    ∃ a middle, work w = (.ok a, middle) ∧ next a middle = (.ok b, after) := by
  rw [bind_apply] at done
  rcases first : work w with ⟨_ | a, middle⟩ <;> rw [first] at done
  · cases done
  · exact ⟨a, middle, rfl, done⟩

/-- Work in two parts that failed did so in one of them. -/
theorem bind_failed {σ : Type} {work : ExceptT Fault (StateM σ) α} {next : α → ExceptT Fault (StateM σ) β} {w after : σ}
    {fault : Fault} (failed : (work >>= next) w = (.error fault, after)) :
    work w = (.error fault, after) ∨ ∃ a middle, work w = (.ok a, middle) ∧ next a middle = (.error fault, after) := by
  rw [bind_apply] at failed
  rcases first : work w with ⟨stop | a, middle⟩ <;> rw [first] at failed
  · cases failed
    exact Or.inl rfl
  · exact Or.inr ⟨a, middle, rfl, failed⟩

/-- A value that comes from two parts comes from both. -/
theorem produced_of_ok {ε : Type} {value : Except ε α} {next : α → Except ε β} {result : β}
    (done : value >>= next = .ok result) : ∃ produced, value = .ok produced ∧ next produced = .ok result := by
  cases value with
  | error fault => cases done
  | ok produced => exact ⟨produced, rfl, done⟩

/-- What the tasks of a list come to, each in its place. -/
theorem mapM_results {ε : Type} {g : α → Except ε β} {items : List α} {results : List β}
    (done : items.mapM g = .ok results) :
    results.length = items.length ∧ ∀ (k : Nat) a, items[k]? = some a → ∃ b, g a = .ok b ∧ results[k]? = some b := by
  induction items generalizing results with
  | nil =>
    cases done
    exact ⟨rfl, fun k a placed => by cases placed⟩
  | cons item rest ih =>
    rw [List.mapM_cons] at done
    obtain ⟨b, first, done⟩ := produced_of_ok done
    obtain ⟨others, later, done⟩ := produced_of_ok done
    cases done
    obtain ⟨counted, each⟩ := ih later
    refine ⟨by rw [List.length_cons, List.length_cons, counted], fun k a placed => ?_⟩
    cases k with
    | zero =>
      cases placed
      exact ⟨b, first, rfl⟩
    | succ k => exact each k a placed

@[simp]
theorem pure_apply (a : α) (w : World) : (pure a : Work α) w = (.ok a, w) := rfl

/-- To filter with a test that only reads is to filter with what it reads. -/
theorem filterM_apply {test : α → Work Bool} {p : α → Bool} {w : World} (reads : ∀ a, test a w = (.ok (p a), w))
    (items : List α) : items.filterM test w = (.ok (items.filter p), w) := by
  have collected : ∀ items taken : List α,
      List.filterAuxM test items taken w = (.ok ((items.filter p).reverse ++ taken), w) := by
    intro items
    induction items with
    | nil => exact fun taken => rfl
    | cons a rest ih =>
      intro taken
      rw [List.filterAuxM, bind_apply, reads]
      cases passes : p a <;> simp [passes, ih]
  rw [List.filterM, bind_apply, collected]
  simp

/-- Work keeps an invariant however it ends. From a world that fits `pre`, its answers fit `post`. -/
def Keeps (inv pre : World → Prop) (work : Work α) (post : α → World → Prop) : Prop :=
  ∀ w, inv w → pre w → inv (work w).2 ∧ ∀ a, (work w).1 = .ok a → post a (work w).2

/-- Work keeps an invariant, whatever it answers. -/
abbrev Preserves (inv : World → Prop) (work : Work α) : Prop := Keeps inv (fun _ => True) work fun _ _ => True

namespace Keeps

variable {inv pre : World → Prop} {mid : α → World → Prop} {post : β → World → Prop}

theorem bind {work : Work α} {next : α → Work β} (first : Keeps inv pre work mid)
    (rest : ∀ a, Keeps inv (mid a) (next a) post) : Keeps inv pre (work >>= next) post := by
  intro w kept holds
  obtain ⟨after, answers⟩ := first w kept holds
  rw [bind_apply]
  rcases done : work w with ⟨_ | a, w'⟩ <;> rw [done] at after answers
  · exact ⟨after, fun b impossible => by cases impossible⟩
  · exact rest a w' after (answers a rfl)

theorem pure {b : β} (holds : ∀ w, inv w → pre w → post b w) : Keeps inv pre (Pure.pure b) post := by
  intro w kept fits
  refine ⟨kept, fun answer same => ?_⟩
  cases same
  exact holds w kept fits

theorem done {b : β} : Keeps inv pre (Pure.pure b) fun _ _ => True := .pure fun _ _ _ => trivial

theorem look {f : World → β} (holds : ∀ w, inv w → pre w → post (f w) w) : Keeps inv pre (Work.look f) post := by
  intro w kept fits
  refine ⟨kept, fun answer same => ?_⟩
  cases same
  exact holds w kept fits

theorem fail {fault : Fault} : Keeps inv pre (Work.fail fault) post := by
  intro w kept fits
  exact ⟨kept, fun b impossible => by cases impossible⟩

theorem weaken {work : Work β} {required : World → Prop} {weaker : β → World → Prop}
    (keeps : Keeps inv required work post) (before : ∀ w, inv w → pre w → required w)
    (after : ∀ b w, inv w → post b w → weaker b w) : Keeps inv pre work weaker := by
  intro w kept fits
  obtain ⟨last, answers⟩ := keeps w kept (before w kept fits)
  exact ⟨last, fun b same => after b _ last (answers b same)⟩

theorem requiring {work : Work β} {required : World → Prop} (implied : ∀ w, inv w → pre w → required w)
    (keeps : Keeps inv required work post) : Keeps inv pre work post :=
  keeps.weaken implied fun _ _ _ holds => holds

theorem preserves {work : Work β} (keeps : Preserves inv work) : Keeps inv pre work fun _ _ => True :=
  keeps.weaken (fun _ _ _ => trivial) fun _ _ _ _ => trivial

/-- What the assertion says of things other than the world may be taken out of it. -/
theorem given {work : Work β} {fact : Prop} {required : World → Prop}
    (implied : ∀ w, inv w → pre w → fact ∧ required w) (keeps : fact → Keeps inv required work post) :
    Keeps inv pre work post := by
  intro w kept fits
  obtain ⟨holds, needed⟩ := implied w kept fits
  exact keeps holds w kept needed

theorem attempt {work : Work β} (keeps : Keeps inv pre work post) :
    Keeps inv pre work.attempt fun result w => ∀ b, result = .ok b → post b w := by
  intro w kept fits
  obtain ⟨after, answers⟩ := keeps w kept fits
  refine ⟨after, fun result same b ok => ?_⟩
  cases same
  exact answers b ok

theorem finally' {work : Work β} {last : Work Unit} (keeps : Keeps inv pre work post)
    (ending : ∀ w, inv w → inv (last w).2) (stays : ∀ b w, inv w → post b w → post b (last w).2) :
    Keeps inv pre (work.finally' last) post := by
  intro w kept fits
  obtain ⟨after, answers⟩ := keeps w kept fits
  exact ⟨ending _ after, fun b same => stays b _ after (answers b same)⟩

end Keeps

/-- What the runtime works on is as it was; lots, services and batches to be sent may have changed. -/
structure Beside (w after : World) : Prop where
  table : after.table = w.table
  catalogue : after.catalogue = w.catalogue
  nextSession : after.nextSession = w.nextSession
  foreign : after.foreign = w.foreign

theorem Beside.refl (w : World) : Beside w w := ⟨rfl, rfl, rfl, rfl⟩

theorem Beside.trans {w middle after : World} (first : Beside w middle) (last : Beside middle after) :
    Beside w after :=
  ⟨last.table.trans first.table, last.catalogue.trans first.catalogue, last.nextSession.trans first.nextSession,
    last.foreign.trans first.foreign⟩

/-- An assertion that only looks at what the runtime works on. -/
def Settled (assertion : World → Prop) : Prop := ∀ {w after}, Beside w after → assertion w → assertion after

/-- Work that leaves alone what the runtime works on. -/
def Aside (work : Work α) : Prop := ∀ w, Beside w (work w).2

namespace Aside

/-- Work that leaves alone what the runtime works on keeps every settled assertion for the work after it. -/
theorem andThen {inv pre : World → Prop} {post : β → World → Prop} {work : Work α} {next : α → Work β}
    (aside : Aside work) (kept : Settled inv) (fits : Settled pre)
    (rest : ∀ a before, (work before).1 = .ok a → Keeps inv pre (next a) post) : Keeps inv pre (work >>= next) post := by
  intro w holds given
  have beside := aside w
  rw [bind_apply]
  rcases done : work w with ⟨_ | a, after⟩ <;> rw [done] at beside
  · exact ⟨kept beside holds, fun b impossible => by cases impossible⟩
  · exact rest a w (by rw [done]) after (kept beside holds) (fits beside given)

theorem preserves {inv : World → Prop} {work : Work α} (aside : Aside work) (kept : Settled inv) :
    Preserves inv work :=
  fun w holds _ => ⟨kept (aside w) holds, fun _ _ => trivial⟩

theorem bind {work : Work α} {next : α → Work β} (first : Aside work) (rest : ∀ a, Aside (next a)) :
    Aside (work >>= next) := by
  intro w
  rw [bind_apply]
  have before := first w
  rcases done : work w with ⟨_ | a, after⟩ <;> rw [done] at before
  · exact before
  · exact before.trans (rest a after)

theorem pure (a : α) : Aside (Pure.pure a) := fun w => .refl w

theorem filterM {test : α → Work Bool} (aside : ∀ a, Aside (test a)) (items : List α) :
    Aside (items.filterM test) := by
  have kept : ∀ items taken, Aside (List.filterAuxM test items taken) := by
    intro items
    induction items with
    | nil => exact fun taken => pure taken
    | cons a rest ih => exact fun taken => (aside a).bind fun _ => ih _
  exact (kept items []).bind fun taken => pure taken.reverse

theorem look (f : World → α) : Aside (Work.look f) := fun w => .refl w

theorem check (e : Except Fault α) : Aside (Work.check e) := fun w => .refl w

theorem change {f : World → World} (beside : ∀ w, Beside w (f w)) : Aside (Work.change f) := beside

theorem onOutside (work : StateM Outside α) : Aside (Work.onOutside work) := fun _ => ⟨rfl, rfl, rfl, rfl⟩

theorem tryOutside (work : StateM Outside (Except Fault α)) : Aside (Work.tryOutside work) :=
  fun _ => ⟨rfl, rfl, rfl, rfl⟩

end Aside

end Chatflow.Proofs.WorkLogic
