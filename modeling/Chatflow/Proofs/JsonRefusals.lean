import Chatflow.Value.Reader

/-! Why a text is refused as JSON. A refusal that does not name a place where the grammar is broken has its reason in the
text, too: a numeral that is too long, or lists and tables that lie too deep in one another. -/

namespace Chatflow.Proofs.JsonRefusals
open Decimal Value Value.Json

variable {α β : Type} {depth : Nat} {cs others : List Char} {e : JsonError}

/-- Somewhere in a text there are more digits in a row than are converted. -/
def HasLongNumeral (cs : List Char) : Prop :=
  ∃ digits, digits <:+: cs ∧ numeralLimit < digits.length ∧ ∀ c ∈ digits, (asciiDigit? c).isSome = true

def isOpening (c : Char) : Bool := c == '[' || c == '\x7b'

/-- Whether a refusal is warranted, of a text in which lists and tables may lie `depth` deep. -/
def Warranted (depth : Nat) (cs : List Char) : JsonError → Prop
  | .malformed .. => True
  | .tooManyDigits _ => HasLongNumeral cs
  | .tooDeep _ => depth < cs.countP isOpening

/-- Reading takes something off a text, or refuses it for a reason. -/
def Justified (depth : Nat) (cs : List Char) : Except JsonError (α × Cursor) → Prop
  | .ok (_, next) => next.rest <:+ cs
  | .error e => Warranted depth cs e

theorem Warranted.within (warranted : Warranted depth others e) (suffix : others <:+ cs) : Warranted depth cs e := by
  cases e with
  | malformed => trivial
  | tooManyDigits =>
    obtain ⟨digits, within, long, all⟩ := warranted
    exact ⟨digits, within.trans suffix.isInfix, long, all⟩
  | tooDeep => exact Nat.lt_of_lt_of_le warranted suffix.sublist.countP_le

namespace Justified

theorem within {reading : Except JsonError (α × Cursor)} (justified : Justified depth others reading)
    (suffix : others <:+ cs) : Justified depth cs reading := by
  cases reading with
  | ok read => exact List.IsSuffix.trans justified suffix
  | error e => exact Warranted.within justified suffix

/-- What lies in a list or a table lies deeper than the list or the table. -/
theorem opened {reading : Except JsonError (α × Cursor)} {c : Char} (opening : isOpening c = true) (kind : String)
    (inside : ∀ less, depth = less + 1 → Justified less cs reading) :
    Justified depth (c :: cs) (if depth = 0 then .error (.tooDeep kind) else reading) := by
  have counted : (c :: cs).countP isOpening = cs.countP isOpening + 1 := List.countP_cons_of_pos opening
  cases depth with
  | zero =>
    change 0 < (c :: cs).countP isOpening
    rw [counted]
    exact Nat.succ_pos _
  | succ less =>
    rw [if_neg (Nat.succ_ne_zero less)]
    have justified := inside less rfl
    cases reading with
    | ok read => exact List.IsSuffix.trans justified (List.suffix_cons c cs)
    | error e =>
      cases e with
      | malformed => trivial
      | tooManyDigits n =>
        have warranted : Warranted (less + 1) cs (.tooManyDigits n) := justified
        exact warranted.within (List.suffix_cons c cs)
      | tooDeep =>
        change less + 1 < (c :: cs).countP isOpening
        rw [counted]
        exact Nat.succ_lt_succ justified

theorem bind {first : Except JsonError (α × Cursor)} {next : α × Cursor → Except JsonError (β × Cursor)}
    (justified : Justified depth cs first)
    (last : ∀ a c, c.rest <:+ cs → Justified depth c.rest (next (a, c))) : Justified depth cs (first >>= next) := by
  cases first with
  | ok read => exact (last read.1 read.2 justified).within justified
  | error e => exact justified

theorem fail (c : Cursor) (cause : JsonCause) : Justified depth cs (c.fail cause : Except JsonError (α × Cursor)) := trivial

end Justified

theorem advance_suffix (c : Cursor) (n : Nat) : (c.advance n).rest <:+ c.rest := List.drop_suffix n c.rest

theorem skipSpace_suffix (c : Cursor) : c.skipSpace.rest <:+ c.rest := advance_suffix c _

/-- Behind a mark, and the blanks around it, is the end of what there was before. -/
theorem afterMark_suffix (c : Cursor) : (c.skipSpace.advance 1).skipSpace.rest <:+ c.rest :=
  ((skipSpace_suffix _).trans (advance_suffix _ 1)).trans (skipSpace_suffix c)

theorem readUnicode_justified (c : Cursor) (mark : Nat) : Justified depth c.rest (readUnicode c mark) := by
  unfold readUnicode
  split
  · trivial
  · split
    · trivial
    · dsimp only
      split
      · split
        · split
          · trivial
          · split
            · exact (advance_suffix _ 6).trans (advance_suffix c 4)
            · exact advance_suffix c 4
        · exact advance_suffix c 4
      · exact advance_suffix c 4

theorem readText_justified (start fuel : Nat) (acc : List Char) (c : Cursor) :
    Justified depth c.rest (readText start fuel acc c) := by
  induction fuel generalizing acc c with
  | zero => trivial
  | succ fuel ih =>
    unfold readText
    split
    · trivial
    · exact advance_suffix c 1
    · trivial
    · refine ((readUnicode_justified _ _).within (advance_suffix c 2)).bind fun code next suffix => ih _ _
    · split
      · exact (ih _ _).within (advance_suffix c 2)
      · trivial
    · split
      · trivial
      · exact (ih _ _).within (advance_suffix c 1)

theorem spanDigits_fst (cs : List Char) : ∃ digits, digits <+: cs ∧ digits.length = (spanDigits cs).1.length ∧
    ∀ c ∈ digits, (asciiDigit? c).isSome = true := by
  induction cs with
  | nil => exact ⟨[], List.nil_prefix, rfl, by simp⟩
  | cons c rest ih =>
    obtain ⟨digits, front, length, all⟩ := ih
    unfold spanDigits
    cases digit : asciiDigit? c with
    | none => exact ⟨[], List.nil_prefix, rfl, by simp⟩
    | some d =>
      refine ⟨c :: digits, List.cons_prefix_cons.mpr ⟨rfl, front⟩, by simp [length], ?_⟩
      exact List.forall_mem_cons.mpr ⟨by rw [digit]; rfl, all⟩

theorem readNumber_justified (c : Cursor) : Justified depth c.rest (Json.readNumber c) := by
  unfold Json.readNumber
  split
  next negative body signed =>
    have suffix : body <:+ c.rest := by
      split at signed <;> cases signed
      next minus =>
        rw [minus]
        exact List.suffix_cons _ _
      next => exact List.suffix_refl _
    dsimp only
    split
    next =>
      rw [if_neg Nat.one_ne_zero]
      split
      · rw [if_neg (by decide)]
        exact advance_suffix c _
      · split
        · exact advance_suffix c _
        · trivial
    next =>
      split
      · trivial
      · split
        · split
          next long =>
            obtain ⟨digits, front, length, all⟩ := spanDigits_fst body
            exact ⟨digits, front.isInfix.trans suffix.isInfix, by rwa [length], all⟩
          next => exact advance_suffix c _
        · split
          · exact advance_suffix c _
          · trivial

/-- All that is read with so much fuel is read for good reason. -/
structure JustifiedWith (fuel : Nat) : Prop where
  values : ∀ depth c, Justified depth c.rest (readValue fuel depth c)
  items : ∀ depth acc c, Justified depth c.rest (readItems fuel depth acc c)
  fields : ∀ depth acc c, Justified depth c.rest (readFields fuel depth acc c)

namespace JustifiedWith

variable {fuel : Nat} (justified : JustifiedWith fuel)
include justified

theorem value (depth : Nat) (c : Cursor) : Justified depth c.rest (readValue (fuel + 1) depth c) := by
  have inner : ((c.advance 1).skipSpace).rest <:+ c.rest.tail := by
    have tail : (c.advance 1).rest = c.rest.tail := List.drop_one
    rw [← tail]
    exact skipSpace_suffix _
  unfold readValue
  split
  next =>
    exact ((readText_justified _ _ _ _).within (advance_suffix c 1)).bind fun text next suffix => List.suffix_refl _
  next tail object =>
    rw [object] at inner ⊢
    refine .opened rfl "object" fun less deep => ?_
    rw [deep]
    split
    · exact (advance_suffix _ 1).trans inner
    · exact (justified.fields less [] _).within inner
  next tail list =>
    rw [list] at inner ⊢
    refine .opened rfl "array" fun less deep => ?_
    rw [deep]
    split
    · exact (advance_suffix _ 1).trans inner
    · exact (justified.items less [] _).within inner
  next =>
    split
    · exact advance_suffix c _
    · exact readNumber_justified c

theorem item (depth : Nat) (acc : List Value) (c : Cursor) : Justified depth c.rest (readItems (fuel + 1) depth acc c) := by
  unfold readItems
  refine (justified.values depth c).bind fun item next suffix => ?_
  dsimp only
  split
  · exact (advance_suffix _ 1).trans (skipSpace_suffix next)
  · exact (justified.items _ _ _).within (afterMark_suffix next)
  · trivial

theorem field (depth : Nat) (acc : Fields) (c : Cursor) : Justified depth c.rest (readFields (fuel + 1) depth acc c) := by
  unfold readFields
  split
  · refine ((readText_justified _ _ _ _).within (advance_suffix c 1)).bind fun key next suffix => ?_
    dsimp only
    split
    · refine ((justified.values depth _).within (afterMark_suffix next)).bind fun value next suffix => ?_
      dsimp only
      split
      · exact (advance_suffix _ 1).trans (skipSpace_suffix next)
      · exact (justified.fields _ _ _).within (afterMark_suffix next)
      · trivial
    · trivial
  · trivial

end JustifiedWith

theorem justifiedWith (fuel : Nat) : JustifiedWith fuel := by
  induction fuel with
  | zero => exact ⟨fun _ _ => trivial, fun _ _ _ => trivial, fun _ _ _ => trivial⟩
  | succ fuel ih => exact ⟨ih.value, ih.item, ih.field⟩

theorem readDocument_refused {chars : List Char} (refused : readDocument chars = .error e) : Warranted deepest chars e := by
  have start : (Cursor.skipSpace ⟨chars, 0⟩).rest <:+ chars := skipSpace_suffix ⟨chars, 0⟩
  have justified := ((justifiedWith (2 * chars.length + 2)).values deepest (Cursor.skipSpace ⟨chars, 0⟩)).within start
  unfold readDocument at refused
  split at refused
  · cases refused
    trivial
  · dsimp only at refused
    cases read : readValue (2 * chars.length + 2) deepest (Cursor.skipSpace ⟨chars, 0⟩) with
    | error fault =>
      rw [read] at refused justified
      cases refused
      exact justified
    | ok value =>
      rw [read] at refused
      dsimp only [bind, Except.bind] at refused
      split at refused <;> cases refused
      trivial

/-- A text is refused because it breaks the grammar, because a numeral in it is too long, or because too many lists and
tables are opened in it. -/
theorem ofJson_refused {document : String} (refused : Value.ofJson document = .error e) :
    Warranted deepest document.toList e := by
  unfold Value.ofJson at refused
  cases read : readDocument document.toList with
  | ok value =>
    rw [read] at refused
    cases refused
  | error fault =>
    have warranted := readDocument_refused read
    rw [read] at refused
    cases refused
    cases fault with
    | malformed | tooManyDigits | tooDeep => exact warranted

end Chatflow.Proofs.JsonRefusals
