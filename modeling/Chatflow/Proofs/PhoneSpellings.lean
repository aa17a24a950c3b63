import Chatflow.Phone

/-! The spellings of a phone number. However its digits are grouped, and whether an international number is given with its
plus sign or without, a contact is known by one address; the channel dials the same number for the address as for any
spelling of it. -/

namespace Chatflow.Proofs.PhoneSpellings
open Phone Text

variable {cs ds : List Char} {c : Char}

/-- One text is another with separators put in and taken out. -/
inductive Respaced : List Char → List Char → Prop where
  | same (cs : List Char) : Respaced cs cs
  | put {cs before after c} (separator : isSeparator c = true) (spaced : Respaced cs (before ++ after)) :
      Respaced cs (before ++ c :: after)
  | taken {cs before after c} (separator : isSeparator c = true) (spaced : Respaced cs (before ++ c :: after)) :
      Respaced cs (before ++ after)

/-- What is left of a text without its separators. -/
def bare (cs : List Char) : List Char := cs.filter fun c => !isSeparator c

theorem normalize_eq (x : String) : Phone.normalize x = String.ofList (withPlus (bare x.toList)) := rfl

theorem bare_plain (cs : List Char) : ∀ c ∈ bare cs, isSeparator c = false := by
  intro c member
  simpa using (List.mem_filter.mp member).2

theorem bare_eq_self (plain : ∀ c ∈ cs, isSeparator c = false) : bare cs = cs := by
  apply List.filter_eq_self.mpr
  intro c member
  rw [plain c member]
  rfl

theorem bare_insert (before after : List Char) (separator : isSeparator c = true) :
    bare (before ++ c :: after) = bare (before ++ after) := by
  unfold bare
  rw [List.filter_append, List.filter_cons_of_neg (by simp [separator]), List.filter_append]

theorem Respaced.same_bare (spaced : Respaced cs ds) : bare ds = bare cs := by
  induction spaced with
  | same => rfl
  | put separator _ ih => rw [bare_insert _ _ separator, ih]
  | taken separator _ ih => rw [← bare_insert _ _ separator, ih]

theorem withPlus_cases (cs : List Char) : (cs.head? ≠ some '+' ∧ withPlus cs = '+' :: cs) ∨ withPlus cs = cs := by
  by_cases long : cs.head? ≠ some '+' ∧ 10 < (codesOf cs).length
  · exact Or.inl ⟨long.1, if_pos long⟩
  · exact Or.inr (if_neg long)

theorem withPlus_plain (plain : ∀ c ∈ cs, isSeparator c = false) : ∀ c ∈ withPlus cs, isSeparator c = false := by
  rcases withPlus_cases cs with ⟨_, led⟩ | same
  · rw [led]
    exact List.forall_mem_cons.mpr ⟨by decide, plain⟩
  · rwa [same]

theorem withPlus_led (cs : List Char) : withPlus ('+' :: cs) = '+' :: cs := if_neg fun unled => unled.1 rfl

theorem withPlus_withPlus (cs : List Char) : withPlus (withPlus cs) = withPlus cs := by
  rcases withPlus_cases cs with ⟨_, led⟩ | same
  · rw [led, withPlus_led]
  · rw [same, same]

theorem normalize_normalize (raw : String) : Phone.normalize (Phone.normalize raw) = Phone.normalize raw := by
  have kept : bare (withPlus (bare raw.toList)) = withPlus (bare raw.toList) :=
    bare_eq_self (withPlus_plain (bare_plain raw.toList))
  rw [normalize_eq, normalize_eq raw, String.toList_ofList, kept, withPlus_withPlus]

theorem normalize_respaced {x y : String} (spaced : Respaced x.toList y.toList) : Phone.normalize x = Phone.normalize y := by
  rw [normalize_eq, normalize_eq, spaced.same_bare]

/-- A number that is long enough to be international and has no plus sign is known by the spelling with the sign. -/
theorem normalize_international {d : String} (plain : ∀ c ∈ d.toList, isSeparator c = false) (long : 10 < size d)
    (unled : d.toList.head? ≠ some '+') : Phone.normalize d = "+" ++ d ∧ Phone.normalize ("+" ++ d) = "+" ++ d := by
  have led : ("+" ++ d).toList = '+' :: d.toList := by rw [String.toList_append]; rfl
  have spelt : String.ofList ('+' :: d.toList) = "+" ++ d := by rw [← led, String.ofList_toList]
  have ledPlain : ∀ c ∈ '+' :: d.toList, isSeparator c = false := List.forall_mem_cons.mpr ⟨by decide, plain⟩
  have prefixed : withPlus d.toList = '+' :: d.toList := if_pos ⟨unled, long⟩
  constructor
  · rw [normalize_eq, bare_eq_self plain, prefixed, spelt]
  · rw [normalize_eq, led, bare_eq_self ledPlain, withPlus_led, spelt]

theorem separator_undialled (separator : isSeparator c = true) : isDialled c = false := by
  simp only [isSeparator, Bool.or_eq_true, beq_iff_eq] at separator
  rcases separator with (((blank | rfl) | rfl) | rfl) | rfl
  · exact of_isBlank (p := fun c => isDialled c = false) (by decide) blank
  all_goals decide

/-- Of a text of digits, plus signs and separators the channel keeps what is left without the separators. -/
theorem dialled_eq_bare (spelt : ∀ c ∈ cs, isDialled c = true ∨ isSeparator c = true) : cs.filter isDialled = bare cs := by
  apply List.filter_congr
  intro c member
  rcases spelt c member with dialled | separator
  · have unseparated : isSeparator c = false := by
      refine Bool.eq_false_iff.mpr fun separator => ?_
      rw [separator_undialled separator] at dialled
      cases dialled
    simp [dialled, unseparated]
  · simp [separator, separator_undialled separator]

theorem recipientChars_withPlus (dialled : ∀ c ∈ cs, isDialled c = true) :
    recipientChars (withPlus cs) = recipientChars cs := by
  rcases withPlus_cases cs with ⟨unled, led⟩ | same
  · have all : cs.filter isDialled = cs := List.filter_eq_self.mpr dialled
    have allLed : ('+' :: cs).filter isDialled = '+' :: cs := by rw [List.filter_cons_of_pos (by decide), all]
    rw [led, recipientChars, recipientChars, allLed, all, if_pos (by rfl), if_neg unled]
  · rw [same]

theorem recipient_normalize {x : String} (spelt : ∀ c ∈ x.toList, isDialled c = true ∨ isSeparator c = true) :
    recipient (Phone.normalize x) = recipient x := by
  have kept := dialled_eq_bare spelt
  have dialled : ∀ c ∈ bare x.toList, isDialled c = true := by
    intro c member
    rw [← kept] at member
    exact (List.mem_filter.mp member).2
  rw [normalize_eq, recipient, recipient, String.toList_ofList]
  refine congrArg String.ofList ?_
  calc recipientChars (withPlus (bare x.toList))
    _ = recipientChars (bare x.toList) := recipientChars_withPlus dialled
    _ = recipientChars x.toList := by
      unfold recipientChars
      rw [List.filter_eq_self.mpr dialled, kept]

theorem digit_dialled (digit : c.isDigit = true) : isDialled c = true := by
  simp only [Char.isDigit, Bool.and_eq_true, decide_eq_true_eq] at digit
  have low : '0' ≤ c := digit.1
  have high : c ≤ '9' := digit.2
  have ascii : c.val < 128 := UInt32.lt_of_le_of_lt digit.2 (by decide)
  simp [isDialled, isDecimal, decimalValue?, ascii, low, high]

/-- One contact has one address. An address stays as it is when it is normalized again; separators, wherever they are put in
or taken out, make no difference; a number of more than ten characters is the same with a plus sign and without; and the
channel dials for the address of a number what it dials for the number, however that is spelt. -/
theorem number_has_one_address :
    (∀ x, Phone.normalize (Phone.normalize x) = Phone.normalize x) ∧
    (∀ x y : String, Respaced x.toList y.toList → Phone.normalize x = Phone.normalize y) ∧
    (∀ d : String, (∀ c ∈ d.toList, isSeparator c = false) → 10 < size d → d.toList.head? ≠ some '+' →
      Phone.normalize d = Phone.normalize ("+" ++ d)) ∧
    ∀ x : String, (∀ c ∈ x.toList, c.isDigit = true ∨ c = '+' ∨ isSeparator c = true) →
      recipient (Phone.normalize x) = recipient x := by
  refine ⟨normalize_normalize, fun x y => normalize_respaced, fun d plain long unled => ?_, fun x spelt => ?_⟩
  · obtain ⟨unsigned, signed⟩ := normalize_international plain long unled
    rw [unsigned, signed]
  · refine recipient_normalize fun c member => ?_
    rcases spelt c member with digit | rfl | separator
    · exact Or.inl (digit_dialled digit)
    · exact Or.inl (by decide)
    · exact Or.inr separator

example : Phone.normalize " (521) 55-1234.5678" = Phone.normalize "+521 55 1234 5678" := by decide +kernel

end Chatflow.Proofs.PhoneSpellings
