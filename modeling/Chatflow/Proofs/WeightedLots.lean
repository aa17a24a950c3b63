import Chatflow.Rotator
import Mathlib.Algebra.Order.BigOperators.Group.List
import Mathlib.Algebra.Order.Floor.Semiring
import Mathlib.Data.Rat.Floor

/-! Lots in exact numbers. The weights of the options, laid end to end, cover a line, and a roll draws the option in whose
part of the line its point lies. An option without weight has no part; where no option has weight, all have equal parts. -/

namespace Chatflow.Proofs.WeightedLots
open Rotator

section Search

variable {α : Type} [LinearOrder α] {sums : List α} {x : α} {low high : Nat}

/-- A place between two others parts the entries there: those before it are not above a value, those from it on are. -/
structure Parts (sums : List α) (x : α) (low high place : Nat) : Prop where
  low_le : low ≤ place
  le_high : place ≤ high
  passed : ∀ j sum, low ≤ j → j < place → sums[j]? = some sum → sum ≤ x
  ahead : ∀ j sum, place ≤ j → j < high → sums[j]? = some sum → x < sum

theorem ascending_le (ascending : sums.Pairwise (· ≤ ·)) {i j : Nat} {first second : α} (le : i ≤ j)
    (former : sums[i]? = some first) (latter : sums[j]? = some second) : first ≤ second := by
  obtain ⟨_, rfl⟩ := List.getElem?_eq_some_iff.mp former
  obtain ⟨_, rfl⟩ := List.getElem?_eq_some_iff.mp latter
  rcases Nat.lt_or_eq_of_le le with before | rfl
  · exact List.pairwise_iff_getElem.mp ascending i j _ _ before
  · exact le_rfl

/-- Halving keeps the place between the two ends: the entry in the middle tells on which side of it the place is. -/
theorem placeAfter_parts (ascending : sums.Pairwise (· ≤ ·)) (ordered : low ≤ high) (inside : high ≤ sums.length) :
    Parts sums x low high (placeAfter sums x low high) := by
  fun_induction placeAfter sums x low high with
  | case1 low high apart middle missing =>
    have outside := List.getElem?_eq_none_iff.mp missing
    omega
  | case2 low high apart middle sum found below ih =>
    obtain ⟨low_le, le_middle, passed, ahead⟩ := ih (by omega) (by omega)
    refine ⟨low_le, by omega, passed, fun j other after _ entry => ?_⟩
    by_cases before : j < middle
    · exact ahead j other after before entry
    · exact below.trans_le (ascending_le ascending (by omega) found entry)
  | case3 low high apart middle sum found above ih =>
    obtain ⟨middle_lt, le_high, passed, ahead⟩ := ih (by omega) inside
    refine ⟨by omega, le_high, fun j other _ before entry => ?_, ahead⟩
    by_cases after : middle < j
    · exact passed j other after before entry
    · exact (ascending_le ascending (by omega) entry found).trans (not_lt.mp above)
  | case4 low high met =>
    exact ⟨le_rfl, ordered, fun j _ after before => by omega, fun j _ after before => by omega⟩

end Search

section Sums

variable {M : Type} [AddMonoid M]

theorem getElem?_sumsFrom (total : M) (weights : List M) (i : Nat) :
    (sumsFrom total weights)[i]? = if i < weights.length then some (total + (weights.take (i + 1)).sum) else none := by
  induction weights generalizing total i with
  | nil => rfl
  | cons w rest ih =>
    cases i with
    | zero => simp [sumsFrom]
    | succ i => simp [sumsFrom, ih, add_assoc]

theorem getElem?_partialSums (weights : List M) (i : Nat) :
    (partialSums weights)[i]? = if i < weights.length then some (weights.take (i + 1)).sum else none := by
  cases weights with
  | nil => rfl
  | cons w rest =>
    cases i with
    | zero => simp [partialSums]
    | succ i => simp [partialSums, getElem?_sumsFrom]

theorem partialSums_eq (weights : List M) :
    partialSums weights = (List.range weights.length).map fun i => (weights.take (i + 1)).sum := by
  apply List.ext_getElem?
  intro i
  by_cases inside : i < weights.length <;> simp [getElem?_partialSums, inside]

theorem length_partialSums (weights : List M) : (partialSums weights).length = weights.length := by
  rw [partialSums_eq, List.length_map, List.length_range]

theorem getLastD_partialSums (weights : List M) : (partialSums weights).getLastD 0 = weights.sum := by
  rcases List.eq_nil_or_concat weights with rfl | ⟨former, last, rfl⟩
  · rfl
  · rw [partialSums_eq, List.concat_eq_append, List.length_append, List.length_singleton, List.range_succ]
    simp [List.take_of_length_le]

end Sums

section Exact

variable {K : Type} [Field K] [LinearOrder K]

theorem shareOf_eq (weight : K) : shareOf weight = max weight 0 := by
  unfold shareOf
  split
  next negative => exact (max_eq_right negative.le).symm
  next positive => exact (max_eq_left (not_lt.mp positive)).symm

theorem sharesOf_weighted {weights : List K} (weighted : ∃ w ∈ weights, 0 < w) :
    sharesOf weights = weights.map (max · 0) := by
  obtain ⟨w, member, positive⟩ := weighted
  have shares : weights.map shareOf = weights.map (max · 0) := List.map_congr_left fun w _ => shareOf_eq w
  have not_all : ((weights.map (max · 0)).all (· ≤ 0)) = false := by
    refine List.all_eq_false.mpr ⟨max w 0, List.mem_map_of_mem member, ?_⟩
    simpa using positive
  simp only [sharesOf, shares, not_all, Bool.false_eq_true, if_false]

theorem sharesOf_weightless {weights : List K} (weightless : ∀ w ∈ weights, w ≤ 0) :
    sharesOf weights = List.replicate weights.length 1 := by
  have all : (weights.map shareOf).all (· ≤ 0) = true := by
    refine List.all_eq_true.mpr fun share member => ?_
    obtain ⟨w, inside, rfl⟩ := List.mem_map.mp member
    simpa [shareOf_eq] using weightless w inside
  simp only [sharesOf, all, if_true, List.map_const']

/-- What so many of the first options weigh, negative weights counting as none. -/
def weightUpTo (weight : RotatorOption → K) (options : List RotatorOption) (count : Nat) : K :=
  ((options.take count).map fun o => max (weight o) 0).sum

theorem sum_take_shares (weight : RotatorOption → K) (options : List RotatorOption) (count : Nat) :
    (((options.map weight).map (max · 0)).take count).sum = weightUpTo weight options count := by
  rw [List.map_map, ← List.map_take]
  rfl

theorem sum_shares (weight : RotatorOption → K) (options : List RotatorOption) :
    ((options.map weight).map (max · 0)).sum = weightUpTo weight options options.length := by
  rw [weightUpTo, List.take_length, List.map_map]
  rfl

theorem weightUpTo_succ (weight : RotatorOption → K) {options : List RotatorOption} {i : Nat} {o : RotatorOption}
    (here : options[i]? = some o) :
    weightUpTo weight options (i + 1) = weightUpTo weight options i + max (weight o) 0 := by
  rw [weightUpTo, List.take_add_one, here, List.map_append, List.sum_append]
  simp [weightUpTo]

theorem length_sharesOf (weights : List K) : (sharesOf weights).length = weights.length := by
  simp only [sharesOf]
  split <;> simp

variable [IsStrictOrderedRing K]

theorem ascending_partialSums {parts : List K} (nonneg : ∀ w ∈ parts, 0 ≤ w) : (partialSums parts).Pairwise (· ≤ ·) := by
  rw [partialSums_eq, List.pairwise_map]
  refine List.pairwise_lt_range.imp fun {i j} before => ?_
  refine (List.take_sublist_take_left (by omega)).sum_le_sum fun w member => nonneg w (List.mem_of_mem_take member)

/-- A point on the line lies in the part of the option that it falls to. -/
theorem landing_covers {parts : List K} (nonneg : ∀ w ∈ parts, 0 ≤ w) {point : K} (start : 0 ≤ point)
    (stop : point < parts.sum) :
    landing parts point < parts.length ∧ (parts.take (landing parts point)).sum ≤ point ∧
      point < (parts.take (landing parts point + 1)).sum := by
  have covered : 0 < parts.length := by
    refine List.length_pos_iff.mpr fun none => ?_
    rw [none, List.sum_nil] at stop
    exact stop.not_ge start
  have clamped : parts.length - 1 ≤ (partialSums parts).length := by
    rw [length_partialSums]
    omega
  obtain ⟨_, last, passed, ahead⟩ : Parts (partialSums parts) point 0 (parts.length - 1) (landing parts point) :=
    placeAfter_parts (ascending_partialSums nonneg) (Nat.zero_le _) clamped
  refine ⟨by omega, ?_, ?_⟩
  · cases place : landing parts point with
    | zero => rwa [List.take_zero, List.sum_nil]
    | succ i => exact passed i _ (Nat.zero_le i) (by omega) (by rw [getElem?_partialSums, if_pos (by omega)])
  · rcases Nat.lt_or_eq_of_le last with before | clamp
    · exact ahead _ _ le_rfl before (by rw [getElem?_partialSums, if_pos (by omega)])
    · -- The search does not look at the last sum, which is the end of the line.
      rwa [clamp, Nat.sub_add_cancel covered, List.take_length]

theorem sharesOf_nonneg (weights : List K) : ∀ w ∈ sharesOf weights, 0 ≤ w := by
  intro w member
  by_cases weighted : ∃ w ∈ weights, 0 < w
  · rw [sharesOf_weighted weighted] at member
    obtain ⟨w, _, rfl⟩ := List.mem_map.mp member
    exact le_max_right w 0
  · push Not at weighted
    rw [sharesOf_weightless weighted] at member
    rw [List.eq_of_mem_replicate member]
    exact zero_le_one

theorem sum_sharesOf_pos {weights : List K} (any : weights ≠ []) : 0 < (sharesOf weights).sum := by
  obtain ⟨share, member, positive⟩ : ∃ share ∈ sharesOf weights, 0 < share := by
    by_cases weighted : ∃ w ∈ weights, 0 < w
    · obtain ⟨w, inside, positive⟩ := weighted
      rw [sharesOf_weighted ⟨w, inside, positive⟩]
      exact ⟨max w 0, List.mem_map_of_mem inside, positive.trans_le (le_max_left w 0)⟩
    · push Not at weighted
      rw [sharesOf_weightless weighted]
      exact ⟨1, by simpa using any, zero_lt_one⟩
  exact positive.trans_le (List.single_le_sum (sharesOf_nonneg weights) share member)

/-- The point of a roll lies in the part of the option that is drawn. -/
theorem drawn_covers {weights : List K} (any : weights ≠ []) {roll : K} (start : 0 ≤ roll) (stop : roll < 1) :
    drawn weights roll < weights.length ∧
      ((sharesOf weights).take (drawn weights roll)).sum ≤ roll * (sharesOf weights).sum ∧
      roll * (sharesOf weights).sum < ((sharesOf weights).take (drawn weights roll + 1)).sum := by
  have total := sum_sharesOf_pos any
  have spot : drawn weights roll = landing (sharesOf weights) (roll * (sharesOf weights).sum) := by
    rw [drawn, getLastD_partialSums]
  rw [spot, ← length_sharesOf]
  exact landing_covers (sharesOf_nonneg weights) (mul_nonneg start total.le) (mul_lt_of_lt_one_left total stop)

/-- Lots respect the weights, reckoned exactly. A roll draws one of the options. If there is any weight, the option that is
drawn has some, and the roll's part of the whole weight falls between what the options before it weigh and what they weigh
together with it; if there is none, the roll's part of the number of options tells the option. -/
theorem lot_follows_weights [FloorSemiring K] (weight : RotatorOption → K) {options : List RotatorOption} (any : options ≠ [])
    {roll : K} (start : 0 ≤ roll) (stop : roll < 1) :
    ∃ i o, drawn (options.map weight) roll = i ∧ options[i]? = some o ∧ pick weight options roll = some o ∧
      ((∃ other ∈ options, 0 < weight other) → 0 < weight o ∧
        weightUpTo weight options i ≤ roll * weightUpTo weight options options.length ∧
        roll * weightUpTo weight options options.length < weightUpTo weight options (i + 1)) ∧
      ((∀ other ∈ options, weight other ≤ 0) → i = ⌊roll * options.length⌋₊) := by
  have weighed : options.map weight ≠ [] := by simpa using any
  obtain ⟨inside, above, below⟩ := drawn_covers weighed start stop
  rw [List.length_map] at inside
  have chosen := List.getElem?_eq_getElem inside
  refine ⟨_, options[drawn (options.map weight) roll], rfl, chosen, chosen, fun weighted => ?_, fun weightless => ?_⟩
  · have some : ∃ w ∈ options.map weight, 0 < w := by simpa using weighted
    have shares := sharesOf_weighted some
    rw [shares, sum_take_shares, sum_shares] at above
    rw [shares, sum_take_shares, sum_shares] at below
    refine ⟨?_, above, below⟩
    have grown := above.trans_lt below
    rw [weightUpTo_succ weight chosen, lt_add_iff_pos_right] at grown
    simpa using grown
  · have none : ∀ w ∈ options.map weight, w ≤ 0 := by simpa using weightless
    have shares := sharesOf_weightless none
    rw [List.length_map] at shares
    have even {count : Nat} (le : count ≤ options.length) : ((sharesOf (options.map weight)).take count).sum = count := by
      simp [shares, List.take_replicate, le]
    have all : (sharesOf (options.map weight)).sum = options.length := by simp [shares]
    rw [even inside.le, all] at above
    rw [even inside, all] at below
    exact ((Nat.floor_eq_iff (by positivity)).mpr ⟨above, by exact_mod_cast below⟩).symm

end Exact

/-- What a finite float stands for. -/
def exactly (x : Float) : ℚ :=
  match Decimal.Binary.ofFloat x with
  | .finite negative mantissa exponent => (if negative then -1 else 1) * mantissa * 2 ^ exponent
  | _ => 0

def prizes : List RotatorOption :=
  [{ id := "none" }, { id := "pen", weight := 0.5 }, { id := "void", weight := -2.0 }, { id := "bag", weight := 1.5 }]

def prizeWeight (o : RotatorOption) : ℚ := exactly o.weight

/-- The point of this roll is where the second part ends: the third option has no part there, so the fourth is drawn. -/
theorem quarter_draws_bag :
    prizes ≠ [] ∧ (0 : ℚ) ≤ 1 / 4 ∧ (1 / 4 : ℚ) < 1 ∧
      ∃ o, prizes[3]? = some o ∧ pick prizeWeight prizes (1 / 4) = some o ∧ 0 < prizeWeight o ∧
        weightUpTo prizeWeight prizes 3 ≤ 1 / 4 * weightUpTo prizeWeight prizes 4 ∧
        1 / 4 * weightUpTo prizeWeight prizes 4 < weightUpTo prizeWeight prizes 4 := by
  have any : prizes ≠ [] := List.cons_ne_nil _ _
  have start : (0 : ℚ) ≤ 1 / 4 := by norm_num
  have stop : (1 / 4 : ℚ) < 1 := by norm_num
  have spot : drawn (prizes.map prizeWeight) (1 / 4) = 3 := by decide +kernel
  obtain ⟨i, o, place, chosen, picked, weighted, _⟩ := lot_follows_weights prizeWeight any start stop
  rw [spot] at place
  subst place
  exact ⟨any, start, stop, o, chosen, picked, weighted ⟨_, List.getElem_mem (n := 1) (by decide), by decide +kernel⟩⟩

end Chatflow.Proofs.WeightedLots
