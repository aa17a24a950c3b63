import Chatflow.Template
import Mathlib.Data.List.Forall2
import Mathlib.Data.List.TakeWhile

/-! The pieces of a template. A text is cut into placeholders and what stands between them in one way only: placeholders
never overlap, so none is missed, and what a variable brings into the text is no part of the cutting. -/

namespace Chatflow.Proofs.TemplatePieces
open Template Text

variable {vars : Fields} {cs rest key source : List Char} {c : Char} {ps qs : List Piece}

/-- A placeholder as it may be written: a key in double braces, with blanks around it or none. -/
structure IsPlaceholder (source key : List Char) : Prop where
  named : key ≠ []
  letters : ∀ c ∈ key, isKeyChar c = true
  braced : ∃ before after, (∀ c ∈ before, isBlank c = true) ∧ (∀ c ∈ after, isBlank c = true) ∧
    source = '\x7b' :: '\x7b' :: (before ++ (key ++ (after ++ ['\x7d', '\x7d'])))

theorem isKeyChar_blank (blank : isBlank c = true) : isKeyChar c = false :=
  of_isBlank (p := fun c => isKeyChar c = false) (by decide +kernel) blank

theorem isBlank_keyChar (letter : isKeyChar c = true) : isBlank c = false := by
  refine Bool.eq_false_iff.mpr fun blank => ?_
  rw [isKeyChar_blank blank] at letter
  cases letter

/-- Characters of a kind, followed by one of another kind, are all that is taken of that kind. -/
theorem span_append {p : Char → Bool} {run : List Char} (all : ∀ c ∈ run, p c = true)
    (other : ∀ c ∈ rest.head?, p c = false) :
    (run ++ rest).takeWhile p = run ∧ (run ++ rest).dropWhile p = rest := by
  rw [List.takeWhile_append_of_pos all, List.dropWhile_append_of_pos all]
  cases rest with
  | nil => exact ⟨List.append_nil run, rfl⟩
  | cons c rest =>
    have stops : ¬ p c = true := by simpa using other c rfl
    rw [List.takeWhile_cons_of_neg stops, List.dropWhile_cons_of_neg stops]
    exact ⟨List.append_nil run, rfl⟩

theorem placeholder?_eq_some :
    placeholder? cs = some (key, rest) ↔ ∃ source, IsPlaceholder source key ∧ cs = source ++ rest := by
  constructor
  · intro found
    unfold placeholder? at found
    split at found
    next inner =>
      dsimp only at found
      split at found
      · cases found
      next named =>
        split at found
        next closed =>
          cases found
          refine ⟨_, ⟨by simpa using named, fun c => List.mem_takeWhile_imp, inner.takeWhile isBlank,
            ((inner.dropWhile isBlank).dropWhile isKeyChar).takeWhile isBlank, fun c => List.mem_takeWhile_imp,
            fun c => List.mem_takeWhile_imp, rfl⟩, ?_⟩
          simp only [List.cons_append, List.append_assoc, List.nil_append, ← closed, List.takeWhile_append_dropWhile]
        next => cases found
    next => cases found
  · -- Each kind of characters ends where the next begins, so the scan stops where the placeholder is said to.
    rintro ⟨source, ⟨named, letters, before, after, blankBefore, blankAfter, rfl⟩, rfl⟩
    have keyed : ∀ c ∈ (key ++ (after ++ '\x7d' :: '\x7d' :: rest)).head?, isBlank c = false := by
      obtain ⟨first, others, rfl⟩ := List.exists_cons_of_ne_nil named
      rintro _ ⟨⟩
      exact isBlank_keyChar (letters first List.mem_cons_self)
    have ended : ∀ c ∈ (after ++ '\x7d' :: '\x7d' :: rest).head?, isKeyChar c = false := by
      cases after with
      | nil => rintro _ ⟨⟩; decide
      | cons blank others => rintro _ ⟨⟩; exact isKeyChar_blank (blankAfter _ List.mem_cons_self)
    have closed : ∀ c ∈ ('\x7d' :: '\x7d' :: rest).head?, isBlank c = false := by rintro _ ⟨⟩; decide
    obtain ⟨_, body⟩ := span_append blankBefore keyed
    obtain ⟨keyOfBody, tail⟩ := span_append letters ended
    obtain ⟨_, closing⟩ := span_append blankAfter closed
    simp only [List.cons_append, List.append_assoc, List.nil_append, placeholder?, body, keyOfBody, tail, closing,
      List.isEmpty_iff, named, if_false]

/-- Behind its two opening braces a placeholder has no opening brace any more. -/
theorem IsPlaceholder.opened (is : IsPlaceholder source key) :
    ∃ body, source = '\x7b' :: '\x7b' :: body ∧ body ≠ [] ∧ '\x7b' ∉ body := by
  obtain ⟨_, letters, before, after, blankBefore, blankAfter, rfl⟩ := is
  refine ⟨_, rfl, by simp, fun inside => ?_⟩
  simp only [List.mem_append, List.mem_cons, List.not_mem_nil, or_false] at inside
  rcases inside with inBefore | inKey | inAfter | closing | closing
  · exact absurd (blankBefore _ inBefore) (by decide)
  · exact absurd (letters _ inKey) (by decide)
  · exact absurd (blankAfter _ inAfter) (by decide)
  · exact absurd closing (by decide)
  · exact absurd closing (by decide)

/-- Placeholders do not overlap: one that begins after another begins after its end. -/
theorem IsPlaceholder.apart {later name before after : List Char} (is : IsPlaceholder source key)
    (other : IsPlaceholder later name) (further : before ≠ []) (same : source ++ rest = before ++ (later ++ after)) :
    ∃ between, before = source ++ between ∧ rest = between ++ (later ++ after) := by
  obtain ⟨body, rfl, written, closed⟩ := is.opened
  obtain ⟨_, rfl, _⟩ := other.opened
  match before with
  | [] => exact absurd rfl further
  | [_] =>
    obtain ⟨first, others, rfl⟩ := List.exists_cons_of_ne_nil written
    simp only [List.cons_append, List.nil_append, List.cons.injEq] at same
    exact absurd (same.2.2.1 ▸ List.mem_cons_self) closed
  | _ :: _ :: before =>
    simp only [List.cons_append, List.cons.injEq] at same
    obtain ⟨rfl, rfl, same⟩ := same
    rcases List.append_eq_append_iff.mp same with ⟨between, rfl, tail⟩ | ⟨overlap, inBody, tail⟩
    · exact ⟨between, rfl, tail⟩
    · cases overlap with
      | nil => exact ⟨[], by rw [inBody]; simp, by simpa using tail.symm⟩
      | cons first others =>
        simp only [List.cons_append, List.cons.injEq] at tail
        rw [inBody, ← tail.1] at closed
        simp at closed

/-- The text that pieces are written as. -/
def written (ps : List Piece) : List Char := ps.flatMap Piece.source

theorem written_cons (piece : Piece) (ps : List Piece) : written (piece :: ps) = piece.source ++ written ps :=
  List.flatMap_cons

theorem written_literals (run : List Char) (ps : List Piece) : written (run.map .literal ++ ps) = run ++ written ps := by
  rw [written, List.flatMap_append, List.flatMap_map]
  simp [Piece.source, written]

/-- A text is cut from left to right: where a placeholder begins it is taken whole, elsewhere one character is passed. -/
inductive Cut : List Char → List Piece → Prop where
  | done : Cut [] []
  | found {source key rest : List Char} {ps : List Piece} (is : IsPlaceholder source key) (onward : Cut rest ps) :
      Cut (source ++ rest) (.placeholder source key :: ps)
  | passed {c : Char} {rest : List Char} {ps : List Piece} (plain : placeholder? (c :: rest) = none) (onward : Cut rest ps) :
      Cut (c :: rest) (.literal c :: ps)

/-- What is in front of the rest is told from its length alone. -/
theorem take_source (source rest : List Char) :
    (source ++ rest).take ((source ++ rest).length - rest.length) = source := by simp

theorem pieces_cut (cs : List Char) : Cut cs (pieces cs) := by
  fun_induction pieces cs with
  | case1 => exact .done
  | case2 c tail key rest found ih =>
    obtain ⟨source, is, same⟩ := placeholder?_eq_some.mp found
    rw [same, take_source]
    exact .found is ih
  | case3 c tail plain ih => exact .passed plain ih

theorem Cut.joined (cut : Cut cs ps) : written ps = cs := by
  induction cut with
  | done => rfl
  | found _ _ ih => rw [written_cons, ih]; rfl
  | passed _ _ ih => rw [written_cons, ih]; rfl

theorem Cut.isPlaceholder (cut : Cut cs ps) (member : .placeholder source key ∈ ps) : IsPlaceholder source key := by
  induction cut with
  | done => cases member
  | found is _ ih =>
    rcases List.mem_cons.mp member with here | later
    · cases here
      exact is
    · exact ih later
  | passed _ _ ih =>
    rcases List.mem_cons.mp member with here | later
    · cases here
    · exact ih later

/-- What follows some of the pieces of a text is how the rest of the text is cut. -/
theorem Cut.onward (cut : Cut cs (qs ++ ps)) : Cut (written ps) ps := by
  induction qs generalizing cs with
  | nil =>
    rw [List.nil_append] at cut
    rwa [cut.joined]
  | cons piece qs ih =>
    cases cut with
    | found _ onward => exact ih onward
    | passed _ onward => exact ih onward

theorem Cut.plain (cut : Cut cs (.literal c :: ps)) : placeholder? cs = none := by
  cases cut with
  | passed plain _ => exact plain

theorem placeholder?_of (is : IsPlaceholder source key) (rest : List Char) :
    placeholder? (source ++ rest) = some (key, rest) :=
  placeholder?_eq_some.mpr ⟨source, is, rfl⟩

/-- No placeholder is missed. -/
theorem Cut.finds {before after : List Char} (cut : Cut cs ps) (is : IsPlaceholder source key)
    (there : cs = before ++ (source ++ after)) :
    ∃ earlier later, ps = earlier ++ .placeholder source key :: later ∧ written earlier = before ∧ written later = after := by
  induction cut generalizing before with
  | done =>
    obtain ⟨_, rfl, _⟩ := is.opened
    simp at there
  | @found first name rest ps own onward ih =>
    cases before with
    | nil =>
      have here := placeholder?_of own rest
      rw [there, List.nil_append, placeholder?_of is after] at here
      cases here
      obtain rfl := List.append_cancel_right there
      exact ⟨[], ps, rfl, rfl, onward.joined⟩
    | cons c before =>
      obtain ⟨between, split, tail⟩ := own.apart is (List.cons_ne_nil c before) there
      obtain ⟨earlier, later, rfl, start, finish⟩ := ih tail
      refine ⟨.placeholder first name :: earlier, later, rfl, ?_, finish⟩
      rw [written_cons, start, split]
      rfl
  | @passed c rest ps plain onward ih =>
    cases before with
    | nil =>
      rw [there, List.nil_append, placeholder?_of is after] at plain
      cases plain
    | cons first before =>
      obtain ⟨rfl, tail⟩ := List.cons.inj there
      obtain ⟨earlier, later, rfl, start, finish⟩ := ih tail
      refine ⟨.literal c :: earlier, later, rfl, ?_, finish⟩
      rw [written_cons, start]
      rfl

/-- Pieces that a text can be taken for: joined they are the text, and no stretch of literal characters among them contains a
placeholder. -/
structure Splits (text : List Char) (ps : List Piece) : Prop where
  joined : written ps = text
  placeholders : ∀ source key, .placeholder source key ∈ ps → IsPlaceholder source key
  literals : ∀ run : List Char, run.map .literal <:+: ps → ∀ source key, IsPlaceholder source key → ¬ source <:+: run

theorem Cut.splits (cut : Cut cs ps) : Splits cs ps := by
  refine ⟨cut.joined, fun _ _ => cut.isPlaceholder, ?_⟩
  rintro run ⟨before, after, rfl⟩ source key is ⟨start, finish, rfl⟩
  have parted : before ++ (start ++ source ++ finish).map .literal ++ after =
      (before ++ start.map .literal) ++ (source.map .literal ++ (finish.map .literal ++ after)) := by simp
  rw [parted] at cut
  have here := cut.onward
  rw [written_literals] at here
  have found := placeholder?_of is (written (finish.map .literal ++ after))
  obtain ⟨body, rfl, _⟩ := is.opened
  rw [here.plain] at found
  cases found

/-- Pieces begin with a stretch of literal characters, which may be empty and ends where a placeholder begins. -/
theorem exists_run (ps : List Piece) : ∃ (run : List Char) (later : List Piece), ps = run.map .literal ++ later ∧
    ∀ piece ∈ later.head?, ∃ source key, piece = .placeholder source key := by
  induction ps with
  | nil => exact ⟨[], [], rfl, nofun⟩
  | cons piece ps ih =>
    cases piece with
    | literal c =>
      obtain ⟨run, later, rfl, begins⟩ := ih
      exact ⟨c :: run, later, rfl, begins⟩
    | placeholder source key =>
      refine ⟨[], _, rfl, ?_⟩
      rintro _ ⟨⟩
      exact ⟨source, key, rfl⟩

theorem Splits.tail {piece : Piece} (splits : Splits cs (piece :: ps)) : Splits (written ps) ps :=
  ⟨rfl, fun source key member => splits.placeholders source key (List.mem_cons_of_mem _ member),
    fun run inside => splits.literals run (inside.trans (List.suffix_cons piece ps).isInfix)⟩

/-- Where a literal character stands no placeholder begins: it would end within the stretch of literal characters, or run into
the next placeholder. -/
theorem Splits.plain (splits : Splits cs (.literal c :: ps)) : placeholder? cs = none := by
  refine Option.eq_none_iff_forall_ne_some.mpr fun ⟨key, rest⟩ begins => ?_
  obtain ⟨source, is, same⟩ := placeholder?_eq_some.mp begins
  obtain ⟨run, later, rfl, next⟩ := exists_run ps
  have run_literal : (c :: run).map Piece.literal <:+: .literal c :: (run.map .literal ++ later) := ⟨[], later, by simp⟩
  have whole : source ++ rest = (c :: run) ++ written later := by
    rw [← same, ← splits.joined]
    exact written_literals (c :: run) later
  refine splits.literals (c :: run) run_literal source key is ?_
  cases later with
  | nil => exact ⟨[], rest, by simpa [written] using whole⟩
  | cons piece later =>
    obtain ⟨following, name, rfl⟩ := next piece rfl
    have other := splits.placeholders following name (by simp)
    obtain ⟨between, split, _⟩ := is.apart other (List.cons_ne_nil c run) whole
    exact ⟨[], between, split.symm⟩

theorem Splits.cut (splits : Splits cs ps) : Cut cs ps := by
  induction ps generalizing cs with
  | nil =>
    obtain rfl := splits.joined
    exact .done
  | cons piece ps ih =>
    have onward := ih splits.tail
    cases piece with
    | literal c =>
      have plain := splits.plain
      obtain rfl := splits.joined
      exact .passed plain onward
    | placeholder source key =>
      have is := splits.placeholders source key List.mem_cons_self
      obtain rfl := splits.joined
      exact .found is onward

theorem pieces_cons (c : Char) (tail : List Char) : pieces (c :: tail) =
    match placeholder? (c :: tail) with
    | some (key, rest) => .placeholder ((c :: tail).take ((c :: tail).length - rest.length)) key :: pieces rest
    | none => .literal c :: pieces tail := by
  rw [pieces]
  split <;> simp [*]

theorem Cut.eq_pieces (cut : Cut cs ps) : pieces cs = ps := by
  induction cut with
  | done => rw [pieces]
  | @found source key rest ps is _ ih =>
    have found := placeholder?_of is rest
    have taken := take_source source rest
    obtain ⟨body, rfl, _⟩ := is.opened
    rw [List.cons_append] at found taken ⊢
    rw [pieces_cons, found]
    dsimp only
    rw [taken, ih]
  | passed plain _ ih =>
    rw [pieces_cons, plain]
    dsimp only
    rw [ih]

/-- What a piece is filled in with: a placeholder of a variable with a value gives way to the text of the value. -/
inductive Becomes (vars : Fields) : Piece → List Char → Prop where
  | literal (c : Char) : Becomes vars (.literal c) [c]
  | bound {source key : List Char} {value : Value} (known : vars.get? (String.ofList key) = some value) (told : value ≠ .null) :
      Becomes vars (.placeholder source key) value.display.toList
  | unbound {source key : List Char}
      (unknown : vars.get? (String.ofList key) = none ∨ vars.get? (String.ofList key) = some .null) :
      Becomes vars (.placeholder source key) source

/-- One of some pieces is a placeholder of a variable. -/
def AsksFor (ps : List Piece) (name : String) : Prop :=
  ∃ source key, .placeholder source key ∈ ps ∧ String.ofList key = name

theorem fill_unbound (source : List Char)
    (unknown : vars.get? (String.ofList key) = none ∨ vars.get? (String.ofList key) = some .null) :
    (Piece.placeholder source key).fill vars = source := by
  rcases unknown with unknown | unknown <;> simp [Piece.fill, unknown]

theorem becomes_fill (vars : Fields) (piece : Piece) : Becomes vars piece (piece.fill vars) := by
  cases piece with
  | literal c => exact .literal c
  | placeholder source key =>
    by_cases unknown : vars.get? (String.ofList key) = none ∨ vars.get? (String.ofList key) = some .null
    · rw [fill_unbound source unknown]
      exact .unbound unknown
    · push Not at unknown
      obtain ⟨value, known⟩ := Option.ne_none_iff_exists'.mp unknown.1
      have told : value ≠ .null := fun null => unknown.2 (null ▸ known)
      have filled : (Piece.placeholder source key).fill vars = value.display.toList := by
        simp [Piece.fill, known]
      rw [filled]
      exact .bound known told

theorem all_isFillable : ps.all (Piece.isFillable vars) = true ↔
    ∀ name value, AsksFor ps name → vars.get? name = some value → value.isShowable = true := by
  rw [List.all_eq_true]
  constructor
  · rintro fillable _ value ⟨source, key, member, rfl⟩ known
    simpa [Piece.isFillable, known] using fillable _ member
  · intro showable piece member
    cases piece with
    | literal c => rfl
    | placeholder source key =>
      rw [Piece.isFillable, Option.all_eq_true]
      exact fun value known => showable _ value ⟨source, key, member, rfl⟩ known

theorem fill_eq (vars : Fields) (text : String) : fill vars text =
    if (pieces text.toList).all (Piece.isFillable vars) then
      .ok (String.ofList ((pieces text.toList).map (Piece.fill vars)).flatten) else .error .unwritableNumber := by
  rw [fill, render, List.flatMap_def]

/-- A text that asks for no variable with a value stays as it is. -/
theorem fill_plain {text : String}
    (unbound : ∀ name, AsksFor (pieces text.toList) name → vars.get? name = none ∨ vars.get? name = some .null) :
    fill vars text = .ok text := by
  have showable : ∀ name value, AsksFor (pieces text.toList) name → vars.get? name = some value → value.isShowable = true := by
    intro name value asks known
    rcases unbound name asks with unknown | null
    · rw [unknown] at known
      cases known
    · rw [null] at known
      cases known
      rfl
  have kept : (pieces text.toList).map (Piece.fill vars) = (pieces text.toList).map Piece.source := by
    refine List.map_congr_left fun piece member => ?_
    cases piece with
    | literal c => rfl
    | placeholder source key => exact fill_unbound source (unbound _ ⟨source, key, member, rfl⟩)
  rw [fill_eq, if_pos (all_isFillable.mpr showable), kept, ← List.flatMap_def]
  have joined : written (pieces text.toList) = text.toList := (pieces_cut text.toList).joined
  rw [written] at joined
  rw [joined, String.ofList_toList]

/-- Only the variables that a text asks for matter. -/
theorem fill_congr {others : Fields} {text : String}
    (agree : ∀ name, AsksFor (pieces text.toList) name → others.get? name = vars.get? name) :
    fill others text = fill vars text := by
  have alike : ∀ piece ∈ pieces text.toList,
      piece.fill others = piece.fill vars ∧ piece.isFillable others = piece.isFillable vars := by
    intro piece member
    cases piece with
    | literal c => exact ⟨rfl, rfl⟩
    | placeholder source key =>
      have same := agree _ ⟨source, key, member, rfl⟩
      simp only [Piece.fill, Piece.isFillable, same, and_self]
  have filled : (pieces text.toList).map (Piece.fill others) = (pieces text.toList).map (Piece.fill vars) :=
    List.map_congr_left fun piece member => (alike piece member).1
  have fillable : (pieces text.toList).all (Piece.isFillable others) = (pieces text.toList).all (Piece.isFillable vars) := by
    rw [Bool.eq_iff_iff, List.all_eq_true, List.all_eq_true]
    exact forall₂_congr fun piece member => by rw [(alike piece member).2]
  rw [fill_eq, fill_eq, filled, fillable]

/-- Templates are filled in by putting values in place of placeholders once, from left to right. A text is cut into
placeholders and stretches without any in one way only, and every placeholder that occurs in it is one of those. If the values
that are asked for can be written, the result is the same sequence, with the text of its value in place of each placeholder
whose variable has one and all else as it was; if one of them holds a number that is too long to be written, filling in fails.
A text that asks for no variable with a value stays as it is, and only the variables that are asked for matter. -/
theorem template_filled_in_once (vars : Fields) (text : String) :
    ∃ ps, Splits text.toList ps ∧ (∀ others, Splits text.toList others → others = ps) ∧
      (∀ before source key after, IsPlaceholder source key → text.toList = before ++ (source ++ after) →
        ∃ earlier later, ps = earlier ++ .placeholder source key :: later ∧
          written earlier = before ∧ written later = after) ∧
      ((∀ name value, AsksFor ps name → vars.get? name = some value → value.isShowable = true) →
        ∃ parts, List.Forall₂ (Becomes vars) ps parts ∧ fill vars text = .ok (String.ofList parts.flatten)) ∧
      ((∃ name value, AsksFor ps name ∧ vars.get? name = some value ∧ value.isShowable = false) →
        fill vars text = .error .unwritableNumber) ∧
      ((∀ name, AsksFor ps name → vars.get? name = none ∨ vars.get? name = some .null) → fill vars text = .ok text) ∧
      ∀ others : Fields, (∀ name, AsksFor ps name → others.get? name = vars.get? name) → fill others text = fill vars text := by
  have cut := pieces_cut text.toList
  refine ⟨pieces text.toList, cut.splits, fun others splits => splits.cut.eq_pieces.symm,
    fun before source key after is there => cut.finds is there, fun showable => ?_, fun unshowable => ?_,
    fill_plain, fun others => fill_congr⟩
  · refine ⟨(pieces text.toList).map (Piece.fill vars), ?_, ?_⟩
    · exact List.forall₂_map_right_iff.mpr (List.forall₂_same.mpr fun piece _ => becomes_fill vars piece)
    · rw [fill_eq, if_pos (all_isFillable.mpr showable)]
  · obtain ⟨name, value, asks, known, long⟩ := unshowable
    rw [fill_eq, if_neg fun fillable => ?_]
    rw [all_isFillable.mp fillable name value asks known] at long
    cases long

example : fill [("name", .str "\x7b\x7bphone\x7d\x7d"), ("phone", .int 7)] "\x7b\x7b\x7b name \x7d\x7d, \x7b\x7bcity\x7d\x7d" =
    .ok "\x7b\x7b\x7bphone\x7d\x7d, \x7b\x7bcity\x7d\x7d" := by cbv

def turnText : String := "Turno \x7b\x7b__rotator__pick\x7d\x7d"

/-- What the counter of a rotator stands at, one above the greatest number that can be written. -/
def longCount : Fields := [("__rotator__pick", .int (Int.pow 10 4300))]

theorem long_count_not_filled_in :
    ¬ ∀ (vars : Fields) (text : String), ∃ ps parts, Splits text.toList ps ∧ List.Forall₂ (Becomes vars) ps parts ∧
      fill vars text = .ok (String.ofList parts.flatten) := by
  intro fills
  obtain ⟨ps, parts, _, _, filled⟩ := fills longCount turnText
  have failed : fill longCount turnText = .error .unwritableNumber := by
    rw [fill_eq, if_neg (by decide +kernel)]
  rw [failed] at filled
  cases filled

end Chatflow.Proofs.TemplatePieces
