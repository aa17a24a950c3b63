import Chatflow.Value.Reader

/-! Paths as they are written in requests: a percent sign and two hexadecimal digits stand for a byte, and the
bytes are read as UTF-8. Bytes that do not belong to any character are read as the replacement character. -/

namespace Chatflow.Http

/-- Bytes of which some are written with percent signs. -/
def percentBytes : List UInt8 → List UInt8
  | p :: a :: b :: rest =>
    match Value.Json.hexDigit? (Char.ofNat a.toNat), Value.Json.hexDigit? (Char.ofNat b.toNat) with
    | some x, some y =>
      if p = '%'.toUInt8 then UInt8.ofNat (16 * x + y) :: percentBytes rest else p :: percentBytes (a :: b :: rest)
    | _, _ => p :: percentBytes (a :: b :: rest)
  | bytes => bytes

/-- How a character that begins with a byte goes on: how many bytes follow, and between which the first of
them has to be. -/
def leadShape? (b : UInt8) : Option (Nat × UInt8 × UInt8) :=
  if b < 0x80 then some (0, 0x80, 0xbf)
  else if b < 0xc2 then none
  else if b < 0xe0 then some (1, 0x80, 0xbf)
  else if b = 0xe0 then some (2, 0xa0, 0xbf)
  else if b = 0xed then some (2, 0x80, 0x9f)
  else if b < 0xf0 then some (2, 0x80, 0xbf)
  else if b = 0xf0 then some (3, 0x90, 0xbf)
  else if b < 0xf4 then some (3, 0x80, 0xbf)
  else if b = 0xf4 then some (3, 0x80, 0x8f)
  else none

/-- The bytes that follow the first one of a character, as far as they are there. -/
def followers : Nat → UInt8 → UInt8 → List UInt8 → List UInt8
  | n + 1, low, high, b :: rest =>
    if low ≤ b ∧ b ≤ high then b :: followers n 0x80 0xbf rest else []
  | _, _, _, _ => []

/-- The bits of the first byte of a character that count, if so many bytes follow. -/
def leadBits (b : UInt8) : Nat → Nat
  | 0 => b.toNat
  | n + 1 => b.toNat % Nat.pow 2 (5 - n)

/-- The codes of bytes. -/
def codesOf : List UInt8 → List Nat
  | [] => []
  | b :: rest =>
    match leadShape? b with
    | none => 0xFFFD :: codesOf rest
    | some (n, low, high) =>
      let tail := followers n low high rest
      let code := if tail.length = n then tail.foldl (fun code b => 64 * code + b.toNat % 64) (leadBits b n)
        else 0xFFFD
      code :: codesOf (rest.drop tail.length)
termination_by bytes => bytes.length
decreasing_by
  · exact Nat.lt_succ_self _
  · exact Nat.lt_succ_of_le (List.length_drop ▸ Nat.sub_le ..)

def plainPath (path : String) : String := Text.ofCodes (codesOf (percentBytes (Text.utf8 path)))

end Chatflow.Http
