/-! Floating-point numbers taken apart exactly: a finite one is a signed mantissa times a power of two. -/

namespace Chatflow.Decimal

inductive Binary where
  | finite (negative : Bool) (mantissa : Nat) (exponent : Int)
  | infinite (negative : Bool)
  | nan
deriving Repr, DecidableEq

/-- Reads the sign, the exponent and the fraction from the 64 bits of a number. -/
def Binary.ofBits (bits : UInt64) : Binary :=
  let negative := bits >>> 63 == 1
  let exponent := ((bits >>> 52) &&& 0x7FF).toNat
  let fraction := (bits &&& 0xFFFFFFFFFFFFF).toNat
  if exponent = 0x7FF then
    if fraction = 0 then .infinite negative else .nan
  else if exponent = 0 then .finite negative fraction (-1074)
  else .finite negative (fraction + Nat.pow 2 52) ((exponent : Int) - 1075)

def Binary.ofFloat (x : Float) : Binary := .ofBits x.toBits

/-- The whole part of a finite number, rounded towards zero; `none` for the others. -/
def truncate? (x : Float) : Option Int :=
  match Binary.ofFloat x with
  | .finite negative m e =>
    let whole := if 0 ≤ e then m * Nat.pow 2 e.toNat else m / Nat.pow 2 (-e).toNat
    some (if negative then -(whole : Int) else whole)
  | _ => none

def isWhole (x : Float) : Bool :=
  match Binary.ofFloat x with
  | .finite _ m e => 0 ≤ e || m % Nat.pow 2 (-e).toNat == 0
  | _ => false

/-- The greatest whole number that a finite number is not below. -/
def floor? (x : Float) : Option Int :=
  match Binary.ofFloat x with
  | .finite negative m e =>
    let m : Int := if negative then -m else m
    some (if 0 ≤ e then m * Int.pow 2 e.toNat else m.fdiv (Int.pow 2 (-e).toNat))
  | _ => none

/-- Whether a whole number is at most some number. Nothing is rounded. -/
def intLe (n : Int) (x : Float) : Bool :=
  match floor? x with
  | some whole => n ≤ whole
  | none => 0.0 < x

/-- Whether some number is at most a whole one. Nothing is rounded. -/
def leInt (x : Float) (n : Int) : Bool := intLe (-n) (-x)

/-- Whether a whole number and some number are the same. -/
def sameInt (n : Int) (x : Float) : Bool := isWhole x && truncate? x == some n

def ofInt (n : Int) : Float := Float.ofInt n

end Chatflow.Decimal
