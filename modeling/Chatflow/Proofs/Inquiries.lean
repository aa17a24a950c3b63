import Chatflow.Completion

/-! What providers are asked for when an agent is to say something. Each of them is asked for the same, if it is asked at
all, and nobody says anything without having been asked. -/

namespace Chatflow.Proofs.Inquiries

/-- Between two moments providers were asked only for what fits, and for something if they are to have answered. -/
def Inquired (fits : Inquiry → Prop) (o after : Outside) (answered : Bool) : Prop :=
  ∃ asked, after.inquiries = o.inquiries ++ asked ∧ (∀ i ∈ asked, fits i) ∧ (answered = true → asked ≠ [])

namespace Inquired

variable {fits : Inquiry → Prop} {o middle after : Outside} {answered : Bool}

theorem still (same : after.inquiries = o.inquiries) : Inquired fits o after false :=
  ⟨[], by rw [same, List.append_nil], by simp, by simp⟩

theorem trans {former : Bool} (first : Inquired fits o middle former) (last : Inquired fits middle after answered) :
    Inquired fits o after (former || answered) := by
  obtain ⟨asked, added, fit, some⟩ := first
  obtain ⟨later, addedLater, fitLater, someLater⟩ := last
  refine ⟨asked ++ later, by rw [addedLater, added, List.append_assoc], fun i member => ?_, fun either => ?_⟩
  · rcases List.mem_append.mp member with member | member
    · exact fit i member
    · exact fitLater i member
  · rcases (Bool.or_eq_true_iff.mp either) with answered | answered
    · exact List.append_ne_nil_of_left_ne_nil (some answered) _
    · exact List.append_ne_nil_of_right_ne_nil _ (someLater answered)

theorem weaken {weaker : Inquiry → Prop} (inquired : Inquired fits o after answered)
    (implies : ∀ i, fits i → weaker i) : Inquired weaker o after answered := by
  obtain ⟨asked, added, fit, some⟩ := inquired
  exact ⟨asked, added, fun i member => implies i (fit i member), some⟩

end Inquired

theorem ask_inquired (setup : Setup) (p : Provider) (system : String) (history message : Value) (o : Outside) :
    Inquired (fun i => Completion.inquiry setup p system history message = .ok i) o
      (Completion.ask setup p system history message o).2 (Completion.ask setup p system history message o).1.isOk := by
  unfold Completion.ask
  cases asked : Completion.inquiry setup p system history message with
  | error fault => exact .still rfl
  | ok i =>
    refine ⟨[i], ?_, ?_, ?_⟩
    · cases p <;> rfl
    · rintro j member
      rw [List.mem_singleton.mp member]
    · simp

theorem inquiries_breaker (p : Provider) (b : Breaker Reading) (o : Outside) :
    ((Completion.breaker p).write b o).inquiries = o.inquiries := by
  cases p <;> rfl

/-- The breaker of a provider may keep it from being asked, but asks for nothing itself. -/
theorem call_inquired (setup : Setup) (p : Provider) (system : String) (history message : Value) (o : Outside) :
    let called := Breaker.call (Completion.breaker p) p.name setup.reading (Completion.ask setup p system history message) o
    Inquired (fun i => Completion.inquiry setup p system history message = .ok i) o called.2 called.1.isOk := by
  simp only [Breaker.call, bind, StateT.bind, get, getThe, MonadStateOf.get, StateT.get, pure]
  cases ((Completion.breaker p).read o).letThrough setup.reading with
  | none => exact .still rfl
  | some b =>
    obtain ⟨asked, added, fit, some⟩ := ask_inquired setup p system history message ((Completion.breaker p).write b o)
    refine ⟨asked, ?_, fit, some⟩
    rw [inquiries_breaker] at added
    exact (inquiries_breaker p _ _).trans added

theorem askInTurn_inquired (setup : Setup) (system : String) (history message : Value) (providers : List Provider)
    (o : Outside) : Inquired (fun i => ∃ p, Completion.inquiry setup p system history message = .ok i) o
      (Completion.askInTurn setup system history message providers o).2
      (Completion.askInTurn setup system history message providers o).1.isSome := by
  induction providers generalizing o with
  | nil => exact .still rfl
  | cons p rest ih =>
    have called : Inquired (fun i => ∃ p, Completion.inquiry setup p system history message = .ok i) o _ _ :=
      (call_inquired setup p system history message o).weaken fun i asked => ⟨p, asked⟩
    unfold Completion.askInTurn
    simp only [bind, StateT.bind]
    rcases done : Breaker.call (Completion.breaker p) p.name setup.reading
      (Completion.ask setup p system history message) o with ⟨fault | reply, after⟩ <;> rw [done] at called
    · exact called.trans (ih after)
    · dsimp only
      split
      · obtain ⟨asked, added, fit, some⟩ := called.trans (ih after)
        exact ⟨asked, added, fit, fun _ => some rfl⟩
      · exact called

theorem complete_inquired (setup : Setup) (a : Agent) (id : String) (message history : Value) (closing : Bool) (o : Outside) :
    Inquired (fun i => ∃ p, Completion.inquiry setup p (Prompt.system a closing) history message = .ok i) o
      (Completion.complete setup a id message history closing o).2
      (Completion.complete setup a id message history closing o).1.isOk := by
  have inquired := askInTurn_inquired setup (Prompt.system a closing) history message (Completion.providers setup) o
  unfold Completion.complete
  simp only [bind, StateT.bind]
  rcases done : Completion.askInTurn setup (Prompt.system a closing) history message (Completion.providers setup) o with
    ⟨_ | reply, after⟩ <;> rw [done] at inquired <;> exact inquired

end Chatflow.Proofs.Inquiries
