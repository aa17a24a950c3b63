import Chatflow.Decimal.Shortest

/-! How floating-point numbers are written: by their shortest decimal, in positional notation from 0.0001
up to below 10^16 and with an exponent of at least two digits elsewhere. -/

namespace Chatflow.Decimal

/-- The spellings that depend on the reader: numbers that are not finite. -/
structure Spelling where
  nan : String
  infinity : String
deriving Repr, DecidableEq

/-- Numbers shown to people: `nan` and `inf`. -/
def shown : Spelling := ⟨"nan", "inf"⟩

/-- Numbers in structured text: `NaN` and `Infinity`. -/
def structured : Spelling := ⟨"NaN", "Infinity"⟩

def digitChars (n : Nat) : List Char := Nat.toDigits 10 n

def Scaled.write (d : Scaled) : List Char :=
  let digits := digitChars d.digits
  let place : Int := digits.length + d.exponent
  if -4 < place ∧ place ≤ 16 then
    if place ≤ 0 then '0' :: '.' :: (List.replicate (-place).toNat '0' ++ digits)
    else if digits.length ≤ place.toNat then
      digits ++ List.replicate (place.toNat - digits.length) '0' ++ ['.', '0']
    else digits.take place.toNat ++ '.' :: digits.drop place.toNat
  else
    let power := place - 1
    let mantissa := match digits with
      | [d] => [d]
      | d :: rest => d :: '.' :: rest
      | [] => []
    let exponent := digitChars power.natAbs
    mantissa ++ ['e', if power < 0 then '-' else '+'] ++
      (if exponent.length < 2 then '0' :: exponent else exponent)

def write (spelling : Spelling) (x : Float) : String :=
  match Binary.ofFloat x with
  | .nan => spelling.nan
  | .infinite negative => if negative then "-" ++ spelling.infinity else spelling.infinity
  | .finite negative m q =>
    let body := if m = 0 then ['0', '.', '0'] else (shortest m q).write
    String.ofList (if negative then '-' :: body else body)

end Chatflow.Decimal
