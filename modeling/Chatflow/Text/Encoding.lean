import Chatflow.Text.Codes

/-! Texts from bytes in the encodings of Unicode. A document begins with characters of ASCII, so that its
encoding shows in where the first zero bytes are. -/

namespace Chatflow.Text

/-- Which byte of a number comes first. -/
inductive ByteOrder where
  | littleEnd
  | bigEnd
deriving Repr, DecidableEq

/-- How characters are written as bytes. -/
inductive Encoding where
  | utf8
  | utf16 (order : ByteOrder)
  | utf32 (order : ByteOrder)
deriving Repr, DecidableEq

/-- The number that bytes are written for. -/
def ByteOrder.join (order : ByteOrder) (bytes : List UInt8) : Nat :=
  let digits := match order with
    | .bigEnd => bytes
    | .littleEnd => bytes.reverse
  digits.foldl (fun n byte => n * 256 + byte.toNat) 0

/-- Numbers of two bytes. -/
def units16? (order : ByteOrder) : List UInt8 → Option (List Nat)
  | [] => some []
  | a :: b :: rest => (units16? order rest).map (order.join [a, b] :: ·)
  | _ => none

/-- Numbers of four bytes. -/
def units32? (order : ByteOrder) : List UInt8 → Option (List Nat)
  | [] => some []
  | a :: b :: c :: d :: rest => (units32? order rest).map (order.join [a, b, c, d] :: ·)
  | _ => none

/-- The codes of numbers of two bytes. -/
def joinUnits : List Nat → List Nat
  | [] => []
  | [unit] => [unit]
  | high :: low :: rest =>
    if isHighHalf high && isLowHalf low then joinHalves high low :: joinUnits rest
    else high :: joinUnits (low :: rest)

/-- Characters without the mark that can stand before them. -/
def unmarked : List Char → List Char
  | '\ufeff' :: rest => rest
  | cs => cs

namespace Encoding

def ofBytes : List UInt8 → Encoding
  | [a, b] => if a = 0 then utf16 .bigEnd else if b = 0 then utf16 .littleEnd else utf8
  | a :: b :: c :: d :: _ =>
    if a = 0 then (if b = 0 then utf32 .bigEnd else utf16 .bigEnd)
    else if b = 0 then (if c = 0 ∧ d = 0 then utf32 .littleEnd else utf16 .littleEnd)
    else utf8
  | _ => utf8

def decode? (encoding : Encoding) (bytes : List UInt8) : Option String :=
  match encoding with
  | utf8 => (String.fromUTF8? bytes.toByteArray).map fun s => ofCodes ((unmarked s.toList).map Char.toNat)
  | utf16 order => (units16? order bytes).map fun units => ofCodes (joinUnits units)
  | utf32 order =>
    (units32? order bytes).bind fun units => if units.all (· ≤ 0x10FFFF) then some (ofCodes units) else none

end Encoding

def decodeDocument? (bytes : List UInt8) : Option String := (Encoding.ofBytes bytes).decode? bytes

end Chatflow.Text
