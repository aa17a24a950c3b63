import Chatflow.Fault
import Chatflow.Flow.Config

/-! Rotators choose one of several branches: in turn, by a counter kept with the session, or by lot, each
branch in proportion to its weight. Lots are drawn alike whatever numbers the weights are given in; the weights of
a flow are floats. -/

namespace Chatflow.Rotator

section Weighted

variable {α : Type} [Add α] [LT α] [DecidableLT α]

/-- Sums of ever more weights, on top of the sum so far. -/
def sumsFrom (total : α) : List α → List α
  | [] => []
  | w :: rest => (total + w) :: sumsFrom (total + w) rest

/-- The sums of the first weight, the first two, and so on. -/
def partialSums : List α → List α
  | [] => []
  | w :: rest => w :: sumsFrom w rest

/-- Searches between two places of an ascending list for the place behind all entries that are not above
a value, by halving. -/
def placeAfter (sums : List α) (x : α) (low high : Nat) : Nat :=
  if low < high then
    let middle := (low + high) / 2
    match sums[middle]? with
    | none => low
    | some sum =>
      if x < sum then placeAfter sums x low middle else placeAfter sums x (middle + 1) high
  else low
termination_by high - low

/-- The branch that a point falls to, when the weights are laid end to end. -/
def landing (weights : List α) (point : α) : Nat :=
  placeAfter (partialSums weights) point 0 (weights.length - 1)

variable [Mul α] [OfNat α 0] [OfNat α 1] [LE α] [DecidableLE α]

/-- The weight a branch takes part with: none below zero. -/
def shareOf (weight : α) : α := if weight < 0 then 0 else weight

/-- The weights of the lot: equal ones when no branch has a share. -/
def sharesOf (weights : List α) : List α :=
  let parts := weights.map shareOf
  if parts.all (· ≤ 0) then weights.map fun _ => 1 else parts

/-- The number of the branch that a roll draws: the one at the roll's part of the way through all weights. -/
def drawn (weights : List α) (roll : α) : Nat :=
  let parts := sharesOf weights
  landing parts (roll * (partialSums parts).getLastD 0)

/-- The option that a roll draws, by what the options weigh. -/
def pick (weight : RotatorOption → α) (options : List RotatorOption) (roll : α) : Option RotatorOption :=
  options[drawn (options.map weight) roll]?

end Weighted

def shares (options : List RotatorOption) : List Float := sharesOf (options.map RotatorOption.weight)

/-- Draws a branch. The roll is taken from the front of the rolls, and is one half when there are none
left; no roll is taken when the weights have no finite sum. -/
def draw (options : List RotatorOption) (rolls : List Float) : Except Fault (Option RotatorOption) × List Float :=
  let total := (partialSums (shares options)).getLastD 0.0
  if total.isFinite then (.ok (pick RotatorOption.weight options (rolls.headD 0.5)), rolls.tail)
  else (.error .infiniteWeights, rolls)

/-- The variable that keeps the counter of a rotator. -/
def counterKey (stepId : String) : String := "__rotator__" ++ stepId

/-- The whole number a counter stands for; anything empty counts as zero. -/
def counterValue (v : Option Value) : Except Fault Int :=
  match v with
  | none => .ok 0
  | some v =>
    if v.truthy then
      match v with
      | .bool _ => .ok 1
      | .int n => .ok n
      | .float x =>
        match Decimal.Binary.ofFloat x, Decimal.truncate? x with
        | .nan, _ => .error (.span .notANumber)
        | _, some n => .ok n
        | _, none => .error (.span .infinite)
      | .str s =>
        match Decimal.readWhole s.toList with
        | .ok n => .ok n
        | .error e => .error (.ofNumeral s e)
      | _ => .error .wrongType
    else .ok 0

def turn (options : List RotatorOption) (count : Int) : Option RotatorOption :=
  options[(count % options.length).toNat]?

end Chatflow.Rotator
