import Chatflow.Proofs.FlowPaths
import Mathlib.Data.List.TakeWhile

/-! Which replies are resolved. A reply always comes to a result that names a connection of its step or none, unless it is
taken for the number of an option and cannot be read as one: characters that only look like digits pass for a number, and
so do numerals that are too long to be read. -/

namespace Chatflow.Proofs.ResolvedReplies
open Text Decimal RunEndings FlowPaths

variable {f : Flow} {c : Char} {cs : List Char} {reply : String}

/-- No blank is a digit of some script, or looks like one. -/
theorem blanks_apart_from_digits :
    (∀ blank ∈ wideBlanks, ∀ first ∈ decimalZeros, blank.2 < first ∨ first + 9 < blank.1) ∧
    ∀ blank ∈ wideBlanks, ∀ run ∈ digitForms, blank.2 < run.1 ∨ run.2 < blank.1 := by
  decide +kernel

theorem place_of_isDigitLike (digit : isDigitLike c = true) :
    (48 ≤ c.toNat ∧ c.toNat ≤ 57) ∨ 128 ≤ c.toNat ∧
      ((∃ first ∈ decimalZeros, first ≤ c.toNat ∧ c.toNat < first + 10) ∨
        ∃ run ∈ digitForms, run.1 ≤ c.toNat ∧ c.toNat ≤ run.2) := by
  by_cases ascii : c.val < 128
  · have wide : ¬ 128 ≤ c.val := UInt32.not_le.mpr ascii
    simp only [isDigitLike, isDecimal, decimalValue?, ascii, if_true, wide, decide_false, Bool.false_and,
      Bool.or_false] at digit
    split at digit
    next within => exact Or.inl within
    next => cases digit
  · have wide : 128 ≤ c.val := UInt32.not_lt.mp ascii
    refine Or.inr ⟨UInt32.le_iff_toNat_le.mp wide, ?_⟩
    simpa [isDigitLike, isDecimal, decimalValue?, CharSet.contains, ascii, wide] using digit

theorem place_of_isBlank (blank : isBlank c = true) :
    c.toNat ≤ 32 ∨ 128 ≤ c.toNat ∧ ∃ run ∈ wideBlanks, run.1 ≤ c.toNat ∧ c.toNat ≤ run.2 := by
  unfold isBlank at blank
  split at blank
  next ascii =>
    simp only [Bool.or_eq_true, beq_iff_eq, Bool.and_eq_true, decide_eq_true_eq, UInt32.le_iff_toNat_le] at blank
    refine Or.inl ?_
    rcases blank with (rfl | ⟨_, small⟩) | ⟨_, small⟩
    · decide
    · exact Nat.le_trans small (by decide)
    · exact Nat.le_trans small (by decide)
  next wide =>
    refine Or.inr ⟨UInt32.le_iff_toNat_le.mp (UInt32.not_lt.mp wide), ?_⟩
    simpa [CharSet.contains] using blank

theorem not_isBlank_of_isDigitLike (digit : isDigitLike c = true) : isBlank c = false := by
  refine Bool.eq_false_iff.mpr fun blank => ?_
  rcases place_of_isDigitLike digit with ascii | ⟨wide, digits⟩ <;>
    rcases place_of_isBlank blank with small | ⟨large, run, member, within⟩
  · omega
  · omega
  · omega
  · rcases digits with ⟨first, listed, place⟩ | ⟨form, listed, place⟩
    · have apart := blanks_apart_from_digits.1 run member first listed
      omega
    · have apart := blanks_apart_from_digits.2 run member form listed
      omega

theorem dropWhile_digits {p : Char → Bool} (digits : ∀ c ∈ cs, isDigitLike c = true)
    (spared : ∀ c, isBlank c = false → p c = false) : cs.dropWhile p = cs := by
  cases cs with
  | nil => rfl
  | cons c rest =>
    have unblank := not_isBlank_of_isDigitLike (digits c List.mem_cons_self)
    exact List.dropWhile_cons_of_neg (by rw [spared c unblank]; exact Bool.false_ne_true)

theorem trimMargins_digits (digits : ∀ c ∈ cs, isDigitLike c = true) : trimMargins cs = cs := by
  have spared : ∀ c, isBlank c = false → isMargin c = false := fun c unblank => by rw [isMargin, unblank, Bool.false_and]
  have backwards : ∀ c ∈ cs.reverse, isDigitLike c = true := fun c member => digits c (List.mem_reverse.mp member)
  rw [trimMargins, dropWhile_digits digits spared, dropWhile_digits backwards spared, List.reverse_reverse]

theorem trimChars_digits (digits : ∀ c ∈ cs, isDigitLike c = true) : trimChars cs = cs := by
  have backwards : ∀ c ∈ cs.reverse, isDigitLike c = true := fun c member => digits c (List.mem_reverse.mp member)
  rw [trimChars, trimRight, trimLeft, dropWhile_digits digits fun _ same => same,
    dropWhile_digits backwards fun _ same => same, List.reverse_reverse]

theorem readSign_digits (digits : ∀ c ∈ cs, isDigitLike c = true) : readSign cs = (false, cs) := by
  unfold readSign
  split
  next rest => exact absurd (digits '-' List.mem_cons_self) (by decide)
  next rest => exact absurd (digits '+' List.mem_cons_self) (by decide)
  next => rfl

/-- Of characters without a low line, the groups are the decimal digits in front. -/
theorem spanGroups_digits (digits : ∀ c ∈ cs, isDigitLike c = true) :
    ∃ values, spanGroups decimalValue? cs = some (values, cs.dropWhile isDecimal) ∧
      values.length = (cs.takeWhile isDecimal).length := by
  induction cs with
  | nil => exact ⟨[], rfl, rfl⟩
  | cons c rest ih =>
    obtain ⟨values, read, counted⟩ := ih fun d member => digits d (List.mem_cons_of_mem c member)
    have joins : c ≠ '_' := by
      rintro rfl
      exact absurd (digits '_' List.mem_cons_self) (by decide)
    cases decimal : decimalValue? c with
    | some d =>
      refine ⟨d :: values, ?_, ?_⟩
      · simp [spanGroups, joins, decimal, read, isDecimal]
      · simp [isDecimal, decimal, counted]
    | none =>
      refine ⟨[], ?_, ?_⟩
      · simp [spanGroups, joins, decimal, isDecimal]
      · simp [isDecimal, decimal]

/-- What looks like a number can be read as one if it is written in decimal digits, and not too many of them. -/
theorem readWhole_fails (digits : ∀ c ∈ cs, isDigitLike c = true) (written : cs ≠ []) :
    (∃ e, readWhole cs = .error e) ↔ (∃ c ∈ cs, isDecimal c = false) ∨ numeralLimit < cs.length := by
  obtain ⟨values, read, counted⟩ := spanGroups_digits digits
  have joins : cs.head? ≠ some '_' := by
    intro first
    exact absurd (digits '_' (List.mem_of_head? first)) (by decide)
  simp only [readWhole, trimMargins_digits digits, readSign_digits digits, read]
  by_cases decimal : ∀ c ∈ cs, isDecimal c = true
  · rw [List.takeWhile_eq_self_iff.mpr decimal] at counted
    have empty : values.isEmpty = false := by
      rw [List.isEmpty_eq_false_iff, ← List.length_pos_iff, counted]
      exact List.length_pos_iff.mpr written
    have ended : cs.dropWhile isDecimal = [] := List.dropWhile_eq_nil_iff.mpr decimal
    have plain : ¬ ∃ c ∈ cs, isDecimal c = false := fun ⟨c, member, form⟩ => by simp [decimal c member] at form
    by_cases long : numeralLimit < cs.length
    · simp [empty, joins, counted, long]
    · simp [empty, joins, counted, ended, long, plain]
  · have form : ∃ c ∈ cs, isDecimal c = false := by simpa using decimal
    have left : cs.dropWhile isDecimal ≠ [] := fun ended => decimal (List.dropWhile_eq_nil_iff.mp ended)
    simp only [form, true_or, iff_true]
    split
    · exact ⟨_, rfl⟩
    · split
      · exact ⟨_, rfl⟩
      · exact ⟨.malformed, if_pos (by simp [left])⟩

/-- What is taken for the number of an option and is none: it looks like digits all over, and there are others than
decimal ones among them, or too many. -/
def Misnumbered (reply : String) : Prop :=
  Reply.isNumber reply = true ∧ ((∃ c ∈ reply.toList, isDecimal c = false) ∨ numeralLimit < reply.toList.length)

theorem byIndex_fails (step : Step) (id : String) :
    (∃ fault, Reply.byIndex f step id reply = .error fault) ↔ Reply.asksChoice step = true ∧ Misnumbered reply := by
  unfold Reply.byIndex Misnumbered
  cases asks : Reply.asksChoice step with
  | false => simp
  | true =>
    cases number : Reply.isNumber reply with
    | false => simp
    | true =>
      simp only [Reply.isNumber, Bool.and_eq_true, bne_iff_ne, List.all_eq_true] at number
      have written : reply.toList ≠ [] := fun empty => number.1 (String.toList_eq_nil_iff.mp empty)
      simp only [Bool.and_self, if_true, true_and, ← readWhole_fails number.2 written]
      cases readWhole reply.toList with
      | error e => simp
      | ok n => simp

/-- A resolution fails where the number of an option is looked for, at a step that asks for one and leads on, or nowhere. -/
theorem resolve_fails {stepId : Option String} {raw : String} :
    (∃ fault, Reply.resolve f stepId raw = .error fault) ↔
      ∃ id step, stepId = some id ∧ f.step? id = some step ∧ f.outgoing id ≠ [] ∧ Reply.asksChoice step = true ∧
        Misnumbered (normalize raw) := by
  unfold Reply.resolve
  cases stepId with
  | none => simp
  | some id =>
    cases found : f.step? id with
    | none => simp [found]
    | some step =>
      by_cases ends : f.outgoing id = []
      · simp [found, ends]
      · have here : (∃ other own, some id = some other ∧ f.step? other = some own ∧ f.outgoing other ≠ [] ∧
            Reply.asksChoice own = true ∧ Misnumbered (normalize raw)) ↔
            Reply.asksChoice step = true ∧ Misnumbered (normalize raw) := by
          simp [found, ends]
        rw [here, ← byIndex_fails (f := f) step id]
        simp only [Option.bind_some, found, Option.map_some, List.isEmpty_iff, ends, if_false]
        cases Reply.byIndex f step id (normalize raw) with
        | error fault => simp [bind, Except.bind]
        | ok option => cases option <;> simp [bind, Except.bind, pure, Except.pure]

theorem resolveGiven_text (f : Flow) (stepId raw : Option String) :
    Reply.resolveGiven f stepId (.ofText? raw) = Reply.resolve f stepId (raw.getD "") := by
  cases raw <;> rfl

/-- Whatever is replied at any step of any flow, be it nothing, the reply is resolved, unless the step offers a choice and
leads on, and the reply looks like digits all over that cannot be read as a number. What it is resolved to names the
target of a connection that leaves the step, or none, and none exactly if nothing matched or the flow ends there. -/
theorem reply_resolved_unless_misnumbered (f : Flow) (stepId raw : Option String) :
    ((∃ fault, Reply.resolveGiven f stepId (.ofText? raw) = .error fault) ↔
      ∃ id step, stepId = some id ∧ f.step? id = some step ∧ f.outgoing id ≠ [] ∧ Reply.asksChoice step = true ∧
        Misnumbered (normalize (raw.getD ""))) ∧
    ∀ r, Reply.resolveGiven f stepId (.ofText? raw) = .ok r →
      (∀ target, r.next = some target → ∃ id, stepId = some id ∧ ∃ c ∈ f.outgoing id, c.target = target) ∧
      (r.next = none ↔ r.matchedBy = .noMatch ∨ r.matchedBy = .endOfFlow) := by
  rw [resolveGiven_text]
  refine ⟨resolve_fails, fun r resolved => ?_⟩
  rcases resolve_follows resolved with rfl | rfl | ⟨id, same, follows⟩
  · exact ⟨fun target leads => (by cases leads), by simp [Resolution.noMatch]⟩
  · exact ⟨fun target leads => (by cases leads), by simp [Resolution.endOfFlow]⟩
  · refine ⟨fun target leads => ⟨id, same, follows.leadsOn target leads⟩, ?_⟩
    obtain ⟨c, leaves, next⟩ := follows.along
    simp [next, follows.matched, follows.leads]

/-- A step that offers a choice of two options, of which the second leads back to it. -/
def menu : Flow :=
  { id := "menu",
    steps := [⟨"ask", .choice .questionMultiple
      { message := "Tea or coffee?", options := [⟨"a", "Tea"⟩, ⟨"b", "Coffee"⟩] }⟩],
    connections := [⟨"c1", "ask", "ask", some "b", none⟩] }

theorem second_option_chosen : ∃ r, Reply.resolveGiven menu (some "ask") (.ofText? (some "2")) = .ok r ∧
    r.next = some "ask" ∧ ∃ id, some "ask" = some id ∧ ∃ c ∈ menu.outgoing id, c.target = "ask" := by
  have resolved : Reply.resolveGiven menu (some "ask") (.ofText? (some "2")) = .ok ⟨some "ask", .optionIndex, some "b"⟩ := by
    rfl
  exact ⟨_, resolved, rfl, ((reply_resolved_unless_misnumbered menu (some "ask") (some "2")).2 _ resolved).1 "ask" rfl⟩

/-- The text of so many ones. -/
def ones (n : Nat) : String := String.ofList (List.replicate n '1')

theorem toList_ones (n : Nat) : (ones n).toList = List.replicate n '1' := String.toList_ofList

theorem isDigitLike_ones (n : Nat) : ∀ c ∈ List.replicate n '1', isDigitLike c = true := by
  intro c member
  rw [List.eq_of_mem_replicate member]
  decide

theorem normalize_ones (n : Nat) : normalize (ones n) = ones n := by
  have lowered (before : List Char) : lowerAfter before (List.replicate n '1') = List.replicate n '1' := by
    induction n generalizing before with
    | zero => rfl
    | succ n ih =>
      rw [List.replicate_succ, lowerAfter, ih]
      rfl
  simp only [Text.normalize, lower, trim, toList_ones, String.toList_ofList, trimChars_digits (isDigitLike_ones n), lowered]
  rfl

theorem long_numeral_unresolved :
    ∃ fault, Reply.resolveGiven menu (some "ask") (.ofText? (some (ones 4301))) = .error fault := by
  have long : numeralLimit < (ones 4301).toList.length := by
    rw [toList_ones, List.length_replicate]
    decide
  have number : Reply.isNumber (ones 4301) = true := by
    have written : ones 4301 ≠ "" := fun empty => by simp [empty] at long
    simp only [Reply.isNumber, Bool.and_eq_true, bne_iff_ne, List.all_eq_true, toList_ones]
    exact ⟨written, isDigitLike_ones 4301⟩
  have misnumbered : Misnumbered (normalize (ones 4301)) := by
    rw [normalize_ones]
    exact ⟨number, Or.inr long⟩
  rw [resolveGiven_text]
  exact resolve_fails.mpr ⟨"ask", _, rfl, rfl, by decide, rfl, misnumbered⟩

end Chatflow.Proofs.ResolvedReplies
