import Chatflow.Decimal.Binary

/-! The shortest decimal of a floating-point number: of all decimals that read back as the number, those
with the fewest digits, and of these the nearest one.

A number `m * 2^q` is what every real within half a step of it reads as. All comparisons are made on
whole numbers: a decimal `c * 10^k` and a multiple `b` of a quarter step are brought to one unit. -/

namespace Chatflow.Decimal

/-- The reals that round to `m * 2^q`, in quarters of a step. Below a power of two the steps are half as
long, so the lower end is nearer there. -/
structure Interval where
  low : Nat
  middle : Nat
  high : Nat
  /-- The ends themselves round to the number when the mantissa is even. -/
  closed : Bool
  exponent : Int
deriving Repr, DecidableEq

def Interval.of (m : Nat) (q : Int) : Interval :=
  ⟨if m = Nat.pow 2 52 ∧ -1074 < q then 4 * m - 1 else 4 * m - 2, 4 * m, 4 * m + 2, m % 2 == 0, q - 2⟩

structure Scaled where
  digits : Nat
  exponent : Int
deriving Repr, DecidableEq

/-- The factor that brings a decimal with exponent `k` to the common unit. -/
def decimalScale (q k : Int) : Nat := Nat.pow 10 k.toNat * Nat.pow 2 (-q).toNat

/-- The factor that brings a multiple of `2^q` to the common unit. -/
def binaryScale (q k : Int) : Nat := Nat.pow 2 q.toNat * Nat.pow 10 (-k).toNat

/-- Whether `c * 10^k` lies in the interval. -/
def Interval.holds (i : Interval) (c : Nat) (k : Int) : Bool :=
  let point := c * decimalScale i.exponent k
  let low := i.low * binaryScale i.exponent k
  let high := i.high * binaryScale i.exponent k
  if i.closed then low ≤ point && point ≤ high else low < point && point < high

/-- The decimal with exponent `k` in the interval that is nearest to its middle, if there is one. It is
next to the middle on one side or the other; of two equally near ones the even one is taken. -/
def Interval.nearest? (i : Interval) (k : Int) : Option Scaled :=
  let middle := i.middle * binaryScale i.exponent k
  let unit := decimalScale i.exponent k
  let below := middle / unit
  let above := below + 1
  match i.holds below k && below != 0, i.holds above k with
  | false, false => none
  | true, false => some ⟨below, k⟩
  | false, true => some ⟨above, k⟩
  | true, true =>
    let down := middle - below * unit
    let up := above * unit - middle
    some ⟨if down < up ∨ (down = up ∧ below % 2 = 0) then below else above, k⟩

def digitCount (n : Nat) : Nat := (Nat.toDigits 10 n).length

/-- The place of the first digit of `m * 2^q`: one more than the exponent of its leading power of ten,
or one too much. -/
def leadingPlace (m : Nat) (q : Int) : Int :=
  if 0 ≤ q then digitCount (m * Nat.pow 2 q.toNat)
  else
    let scale : Nat := 400
    (digitCount (m * Nat.pow 10 scale / Nat.pow 2 (-q).toNat) : Int) - scale

def Scaled.trimZeros (d : Scaled) : Nat → Scaled
  | 0 => d
  | fuel + 1 =>
    if d.digits ≠ 0 ∧ d.digits % 10 = 0 then Scaled.trimZeros ⟨d.digits / 10, d.exponent + 1⟩ fuel else d

/-- The shortest decimal of `m * 2^q` for a positive `m`: seventeen digits always suffice. -/
def shortest (m : Nat) (q : Int) : Scaled :=
  let interval := Interval.of m q
  let place := leadingPlace m q
  match (List.range 18).findSome? fun (n : Nat) => interval.nearest? (place - n) with
  | some d => d.trimZeros 20
  | none => ⟨m, 0⟩

end Chatflow.Decimal
