import Chatflow.Text.CharSet

/-! Blank characters and the trimming of texts. Every space, line and paragraph separator counts as
blank, and so do the four information separators of ASCII. -/

namespace Chatflow.Text

/-- Blanks outside ASCII. -/
def wideBlanks : CharSet :=
  [(0x85, 0x85), (0xA0, 0xA0), (0x1680, 0x1680), (0x2000, 0x200A), (0x2028, 0x2029), (0x202F, 0x202F),
    (0x205F, 0x205F), (0x3000, 0x3000)]

def isBlank (c : Char) : Bool :=
  if c.val < 128 then c == ' ' || (9 ≤ c.val && c.val ≤ 13) || (28 ≤ c.val && c.val ≤ 31)
  else wideBlanks.contains c

def trimLeft (cs : List Char) : List Char := cs.dropWhile isBlank

def trimRight (cs : List Char) : List Char := (cs.reverse.dropWhile isBlank).reverse

def trimChars (cs : List Char) : List Char := trimRight (trimLeft cs)

def trim (s : String) : String := String.ofList (trimChars s.toList)

/-- A blank that may surround a number; the information separators may not. -/
def isMargin (c : Char) : Bool := isBlank c && !(28 ≤ c.val && c.val ≤ 31)

/-- Removes the blanks around a number. -/
def trimMargins (cs : List Char) : List Char :=
  ((cs.dropWhile isMargin).reverse.dropWhile isMargin).reverse

/-- The pieces of a list between the characters equal to `sep`; there is always one. -/
def splitChars (sep : Char) : List Char → List (List Char)
  | [] => [[]]
  | c :: rest =>
    if c = sep then [] :: splitChars sep rest
    else match splitChars sep rest with
      | [] => [[c]]
      | piece :: pieces => (c :: piece) :: pieces

def split (sep : Char) (s : String) : List String := (splitChars sep s.toList).map String.ofList

def occursIn (part : List Char) : List Char → Bool
  | [] => part.isEmpty
  | c :: rest => part.isPrefixOf (c :: rest) || occursIn part rest

def occurs (part whole : String) : Bool := occursIn part.toList whole.toList

/-- The code points of all blanks. -/
def blankCodes : List Nat :=
  [9, 10, 11, 12, 13, 28, 29, 30, 31, 32, 0x85, 0xA0, 0x1680, 0x2000, 0x2001, 0x2002, 0x2003, 0x2004, 0x2005, 0x2006,
    0x2007, 0x2008, 0x2009, 0x200A, 0x2028, 0x2029, 0x202F, 0x205F, 0x3000]

theorem toNat_mem_blankCodes {c : Char} (blank : isBlank c = true) : c.toNat ∈ blankCodes := by
  unfold isBlank at blank
  simp only [blankCodes, List.mem_cons, List.not_mem_nil, or_false]
  split at blank
  · simp only [Bool.or_eq_true, beq_iff_eq, Bool.and_eq_true, decide_eq_true_eq] at blank
    rcases blank with (rfl | ⟨low, high⟩) | ⟨low, high⟩
    · decide
    · have low : 9 ≤ c.toNat := low
      have high : c.toNat ≤ 13 := high
      omega
    · have low : 28 ≤ c.toNat := low
      have high : c.toNat ≤ 31 := high
      omega
  · simp only [CharSet.contains, wideBlanks, List.any_cons, List.any_nil, Bool.or_eq_true, Bool.and_eq_true,
      decide_eq_true_eq, Bool.false_eq_true, or_false] at blank
    omega

/-- What is so of each blank in turn is so of any character that is blank. -/
theorem of_isBlank {p : Char → Prop} (each : ∀ code ∈ blankCodes, p (Char.ofNat code)) {c : Char}
    (blank : isBlank c = true) : p c := by
  rw [← Char.ofNat_toNat c]
  exact each _ (toNat_mem_blankCodes blank)

theorem isBlank_of_isWhitespace {c : Char} (h : c.isWhitespace = true) : isBlank c = true := by
  simp only [Char.isWhitespace, Bool.or_eq_true, decide_eq_true_eq] at h
  rcases h with ((h | h) | h) | h <;> subst h <;> decide

section
variable {before cs after : List Char}

theorem trimLeft_append (blank : ∀ c ∈ before, isBlank c = true) (begins : ∀ c ∈ cs.head?, isBlank c = false) :
    trimLeft (before ++ cs) = cs := by
  rw [trimLeft, List.dropWhile_append_of_pos blank]
  cases cs with
  | nil => rfl
  | cons c rest => exact List.dropWhile_cons_of_neg (by rw [begins c rfl]; exact Bool.false_ne_true)

theorem trimRight_append (ends : ∀ c ∈ cs.getLast?, isBlank c = false) (blank : ∀ c ∈ after, isBlank c = true) :
    trimRight (cs ++ after) = cs := by
  have backwards : trimLeft (after.reverse ++ cs.reverse) = cs.reverse :=
    trimLeft_append (fun c member => blank c (List.mem_reverse.mp member)) (by rwa [List.head?_reverse])
  rw [trimRight, List.reverse_append]
  exact List.reverse_eq_iff.mpr backwards

/-- What stands between blanks is left of a text, if it neither begins nor ends with one. -/
theorem trimChars_surrounded (written : cs ≠ []) (begins : ∀ c ∈ cs.head?, isBlank c = false)
    (ends : ∀ c ∈ cs.getLast?, isBlank c = false) (blankBefore : ∀ c ∈ before, isBlank c = true)
    (blankAfter : ∀ c ∈ after, isBlank c = true) : trimChars (before ++ cs ++ after) = cs := by
  have begun : ∀ c ∈ (cs ++ after).head?, isBlank c = false := by
    obtain ⟨c, rest, rfl⟩ := List.exists_cons_of_ne_nil written
    exact begins
  rw [trimChars, List.append_assoc, trimLeft_append blankBefore begun, trimRight_append ends blankAfter]

end

end Chatflow.Text
