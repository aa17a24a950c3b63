import Chatflow.Text.BaseFormTable

/-! The base letters of a text: compatibility forms are taken apart and accents are dropped, so that
spellings of a word that differ only in marks or in width fall together. -/

namespace Chatflow.Text

/-- The letters a Hangul syllable is composed of, by the arithmetic of its block. -/
def hangulLetters (code : Nat) : List Char :=
  let index := code - 0xAC00
  let tail := index % 28
  [Char.ofNat (0x1100 + index / 588), Char.ofNat (0x1161 + index % 588 / 28)] ++
    if tail = 0 then [] else [Char.ofNat (0x11A7 + tail)]

/-- The base letters of one character; a combining mark has none. -/
def baseForm (c : Char) : List Char :=
  if c.val < 128 then [c]
  else if 0xAC00 ≤ c.toNat ∧ c.toNat ≤ 0xD7A3 then hangulLetters c.toNat
  else mapChar baseFormRuns c

def baseLetters (s : String) : String := String.ofList (s.toList.flatMap baseForm)

end Chatflow.Text
