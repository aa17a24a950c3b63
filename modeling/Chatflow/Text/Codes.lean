/-! Texts as sequences of codes. A code is that of a character, or of one half of a pair: two halves make a
character, but escapes and byte codes can also name a half alone, which is none. A string holds each code as its
character. Only halves, and the few private characters that are needed to tell of them, are held as two
characters: a mark, and a letter behind it. Nothing is lost by that: the codes of a string that holds some codes
are these codes. -/

namespace Chatflow.Text

/-- Whether a code is the first half of a pair. -/
def isHighHalf (code : Nat) : Bool := 0xD800 ≤ code && code ≤ 0xDBFF

/-- Whether a code is the second half of a pair. -/
def isLowHalf (code : Nat) : Bool := 0xDC00 ≤ code && code ≤ 0xDFFF

/-- Whether a code is that of no character, but of a half. -/
def isHalf (code : Nat) : Bool := isHighHalf code || isLowHalf code

/-- The code of the character that two halves make. -/
def joinHalves (high low : Nat) : Nat := 0x10000 + (high - 0xD800) * 0x400 + (low - 0xDC00)

/-- The code of the first of three marks. -/
def firstMark : Nat := 0x10D7FD

/-- The code of the first letter; there are as many letters as there are halves, right behind the marks. -/
def firstLetter : Nat := 0x10D800

/-- How many halves there are. -/
def halfCount : Nat := 0x800

/-- The place of a code among those that are held as two characters: the halves, the marks and the letters. -/
def place? (code : Nat) : Option Nat :=
  if isHalf code then some (code - 0xD800)
  else if firstMark ≤ code ∧ code < firstLetter + halfCount then some (code - firstMark + halfCount)
  else none

/-- The characters that hold a code. -/
def held (code : Nat) : List Char :=
  match place? code with
  | some n => [Char.ofNat (firstMark + n / halfCount), Char.ofNat (firstLetter + n % halfCount)]
  | none => [Char.ofNat code]

/-- The code that a mark and a letter hold. -/
def pairCode? (mark letter : Char) : Option Nat :=
  if firstMark ≤ mark.toNat ∧ mark.toNat < firstLetter ∧ firstLetter ≤ letter.toNat ∧
      letter.toNat < firstLetter + halfCount then
    let n := (mark.toNat - firstMark) * halfCount + (letter.toNat - firstLetter)
    some (if n < halfCount then n + 0xD800 else n - halfCount + firstMark)
  else none

def codesOf : List Char → List Nat
  | [] => []
  | [c] => [c.toNat]
  | c :: d :: rest =>
    match pairCode? c d with
    | some code => code :: codesOf rest
    | none => c.toNat :: codesOf (d :: rest)

def codes (s : String) : List Nat := codesOf s.toList

def ofCodes (cs : List Nat) : String := String.ofList (cs.flatMap held)

def size (s : String) : Nat := (codes s).length

def clip (n : Nat) (s : String) : String := ofCodes ((codes s).take n)

/-- The codes of a text, each as a text of its own. -/
def letters (s : String) : List String := (codes s).map fun code => ofCodes [code]

/-- Whether a text does not come after another in the order of their codes. -/
def atMost (a b : String) : Bool := !(codes b).lex (codes a) fun x y => x < y

def holdsHalf (s : String) : Bool := (codes s).any isHalf

/-- The bytes of a text in which no halves stand. -/
def utf8 (s : String) : List UInt8 := (codes s).flatMap fun code => String.utf8EncodeChar (Char.ofNat code)

/-- The text that a plain string of characters is. -/
def ofPlain (s : String) : String := ofCodes (s.toList.map Char.toNat)

/-- A text with three replacement characters in the place of every half. -/
def replaceHalves (s : String) : String :=
  ofCodes ((codes s).flatMap fun code => if isHalf code then [0xFFFD, 0xFFFD, 0xFFFD] else [code])

/-- The first halves of a text that stand together, and how many codes stand before them. -/
def firstHalves? (s : String) : Option (Nat × List Nat) :=
  let before := (codes s).takeWhile fun code => !isHalf code
  match ((codes s).drop before.length).takeWhile isHalf with
  | [] => none
  | halves => some (before.length, halves)

theorem toNat_ofNat {code : Nat} (le : code ≤ 0x10FFFF) (whole : isHalf code = false) :
    (Char.ofNat code).toNat = code := by
  have valid : code.isValidChar := by
    simp only [isHalf, isHighHalf, isLowHalf, Bool.or_eq_false_iff, Bool.and_eq_false_iff,
      decide_eq_false_iff_not] at whole
    unfold Nat.isValidChar
    omega
  rw [Char.ofNat, dif_pos valid]
  rfl

private theorem toNat_private {code : Nat} (low : 0xE000 ≤ code) (high : code ≤ 0x10FFFF) :
    (Char.ofNat code).toNat = code := by
  refine toNat_ofNat high ?_
  simp only [isHalf, isHighHalf, isLowHalf, Bool.or_eq_false_iff, Bool.and_eq_false_iff,
    decide_eq_false_iff_not]
  omega

theorem codesOf_cons {c : Char} (rest : List Char) (h : ¬(firstMark ≤ c.toNat ∧ c.toNat < firstLetter)) :
    codesOf (c :: rest) = c.toNat :: codesOf rest := by
  cases rest with
  | nil => simp [codesOf]
  | cons d rest =>
    have none : pairCode? c d = none := by
      unfold pairCode?
      exact if_neg fun all => h ⟨all.1, all.2.1⟩
    simp [codesOf, none]

theorem codesOf_held {code : Nat} (le : code ≤ 0x10FFFF) (rest : List Char) :
    codesOf (held code ++ rest) = code :: codesOf rest := by
  unfold held place?
  split
  next n placed =>
    have bounds : n < 3 * halfCount ∧
        (if n < halfCount then n + 0xD800 else n - halfCount + firstMark) = code := by
      split at placed
      next half =>
        simp only [isHalf, isHighHalf, isLowHalf, Bool.or_eq_true, Bool.and_eq_true, decide_eq_true_eq] at half
        simp only [Option.some.injEq] at placed
        subst placed
        unfold halfCount
        rw [if_pos (by omega)]
        omega
      next =>
        split at placed
        next inside =>
          simp only [Option.some.injEq] at placed
          subst placed
          unfold halfCount firstMark firstLetter at *
          rw [if_neg (by omega)]
          omega
        next => simp at placed
    have mark : (Char.ofNat (firstMark + n / halfCount)).toNat = firstMark + n / halfCount := by
      unfold firstMark halfCount at *
      exact toNat_private (by omega) (by omega)
    have letter : (Char.ofNat (firstLetter + n % halfCount)).toNat = firstLetter + n % halfCount := by
      unfold firstLetter halfCount at *
      exact toNat_private (by omega) (by omega)
    have pair : pairCode? (Char.ofNat (firstMark + n / halfCount)) (Char.ofNat (firstLetter + n % halfCount)) =
        some code := by
      unfold pairCode?
      rw [mark, letter, if_pos (by unfold firstMark firstLetter halfCount at *; omega)]
      have rejoined : (firstMark + n / halfCount - firstMark) * halfCount +
          (firstLetter + n % halfCount - firstLetter) = n := by
        unfold firstMark firstLetter halfCount
        omega
      simp only [rejoined, bounds.2]
    simp [codesOf, pair]
  next placed =>
    split at placed
    next => simp at placed
    next half =>
      split at placed
      next => simp at placed
      next outside =>
        have same := toNat_ofNat le (by simpa using half)
        rw [List.singleton_append, codesOf_cons, same]
        rw [same]
        exact fun inside => outside ⟨inside.1, Nat.lt_add_right halfCount inside.2⟩

theorem codesOf_flatMap_held {cs : List Nat} (le : ∀ c ∈ cs, c ≤ 0x10FFFF) : codesOf (cs.flatMap held) = cs := by
  induction cs with
  | nil => rfl
  | cons c rest ih =>
    rw [List.flatMap_cons, codesOf_held (le c List.mem_cons_self),
      ih fun d h => le d (List.mem_cons_of_mem c h)]

/-- A string that holds some codes has these codes. -/
theorem codes_ofCodes {cs : List Nat} (le : ∀ c ∈ cs, c ≤ 0x10FFFF) : codes (ofCodes cs) = cs := by
  rw [codes, ofCodes, String.toList_ofList, codesOf_flatMap_held le]

theorem pairCode?_le {mark letter : Char} {code : Nat} (h : pairCode? mark letter = some code) :
    code ≤ 0x10FFFF := by
  unfold pairCode? at h
  split at h
  next inside =>
    unfold firstMark firstLetter halfCount at *
    simp only [Option.some.injEq] at h
    subst h
    split <;> omega
  next => simp at h

theorem toNat_le (c : Char) : c.toNat ≤ 0x10FFFF := by
  have valid : c.toNat < 0xD800 ∨ 0xDFFF < c.toNat ∧ c.toNat < 0x110000 := c.valid
  omega

theorem codesOf_le (cs : List Char) : ∀ c ∈ codesOf cs, c ≤ 0x10FFFF := by
  fun_induction codesOf cs with
  | case1 => simp
  | case2 c => simpa using toNat_le c
  | case3 c d rest code pair ih =>
    intro e h
    rcases List.mem_cons.1 h with rfl | h
    · exact pairCode?_le pair
    · exact ih e h
  | case4 c d rest _ ih =>
    intro e h
    rcases List.mem_cons.1 h with rfl | h
    · exact toNat_le c
    · exact ih e h

/-- The codes of a clipped text are the first ones of the text. -/
theorem codes_clip (n : Nat) (s : String) : codes (clip n s) = (codes s).take n :=
  codes_ofCodes fun c h => codesOf_le s.toList c (List.mem_of_mem_take h)

end Chatflow.Text
