import Chatflow.Decimal.Binary

/-! Amounts: numbers that are given either as whole ones or as floating-point ones, and stay what they
are. -/

namespace Chatflow

/-- A number, whole or not. -/
inductive Amount where
  | whole (n : Int)
  | real (x : Float)
deriving Repr, BEq

namespace Amount

instance (n : Nat) : OfNat Amount n := ⟨.whole n⟩

def toFloat : Amount → Float
  | whole n => Decimal.ofInt n
  | real x => x

/-- Whether two amounts are the same number. Nothing is rounded. -/
def same : Amount → Amount → Bool
  | whole m, whole n => m == n
  | real x, real y => x == y
  | whole n, real x | real x, whole n => Decimal.sameInt n x

def double : Amount → Amount
  | whole n => whole (n * 2)
  | real x => real (x * 2.0)

/-- Whether a count has come up to an amount. -/
def reachedBy (a : Amount) (n : Int) : Bool :=
  match a with
  | whole m => m ≤ n
  | real x => Decimal.leInt x n

/-- Whether a count is not above an amount. -/
def allows (a : Amount) (n : Int) : Bool :=
  match a with
  | whole m => n ≤ m
  | real x => Decimal.intLe n x

/-- Whether a floating-point number has come up to an amount. -/
def spannedBy (a : Amount) (x : Float) : Bool :=
  match a with
  | whole n => Decimal.intLe n x
  | real y => y ≤ x

end Amount

end Chatflow
