import Chatflow.Time.Clock
import Mathlib.Data.Prod.Lex

/-! Readings of the service's clock in order. They are floating-point numbers, of which some are no numbers at all and
two are zero; still, a time that is reached by one reading is reached by every later one. -/

namespace Chatflow.Proofs.Readings
open Float.Model UnpackedFloat

/-- Where a floating-point number stands among the others: its side of zero and then how far it is from there, by exponent
and mantissa. What is no number has no place. -/
def rank : UnpackedFloat → Option (Int ×ₗ Int ×ₗ Int)
  | .notANumber => none
  | .infinity .negative => some (toLex (-2, toLex (0, 0)))
  | .finite .negative mantissa exponent _ => some (toLex (-1, toLex (-exponent, -mantissa)))
  | .zero _ => some (toLex (0, toLex (0, 0)))
  | .finite .positive mantissa exponent _ => some (toLex (1, toLex (exponent, mantissa)))
  | .infinity .positive => some (toLex (2, toLex (0, 0)))

theorem isLE_then {e f : Int} {m n : Nat} :
    ((compare e f).then (compare m n)).isLE = true ↔ e < f ∨ e = f ∧ m ≤ n := by
  rcases Int.lt_trichotomy e f with less | rfl | more
  · simp [compare_lt_iff_lt.mpr less, less]
  · simp [Nat.isLE_compare]
  · simp [compare_gt_iff_gt.mpr more]
    omega

theorem isGE_then {e f : Int} {m n : Nat} :
    ((compare e f).then (compare m n)).isGE = true ↔ f < e ∨ e = f ∧ n ≤ m := by
  rcases Int.lt_trichotomy e f with less | rfl | more
  · simp [compare_lt_iff_lt.mpr less]
    omega
  · simp [Nat.isGE_compare]
  · simp [compare_gt_iff_gt.mpr more, more]

theorem le_iff_rank (a b : UnpackedFloat) : UnpackedFloat.le a b = true ↔ ∃ r ∈ rank a, ∃ s ∈ rank b, r ≤ s := by
  have signs : (compare Sign.negative .negative = .eq ∧ compare Sign.negative .positive = .lt) ∧
      compare Sign.positive .negative = .gt ∧ compare Sign.positive .positive = .eq := by decide
  obtain ⟨⟨nn, np⟩, pn, pp⟩ := signs
  rcases a with (_ | _) | _ | _ | ⟨_ | _, _, _, _⟩ <;> rcases b with (_ | _) | _ | _ | ⟨_ | _, _, _, _⟩ <;>
    dsimp only [UnpackedFloat.le, UnpackedFloat.compare, rank] <;>
    simp [Prod.Lex.toLex_le_toLex, nn, np, pn, pp, isLE_then, isGE_then]

theorem le_trans {a b c : Reading} (first : a ≤ b) (next : b ≤ c) : a ≤ c := by
  have told : ∀ {x y : Reading}, x ≤ y ↔ x.toModel.unpack.le y.toModel.unpack = true :=
    fun {x y} => decide_eq_true_iff
  rw [told, le_iff_rank] at first next
  obtain ⟨r, own, s, there, before⟩ := first
  obtain ⟨t, here, u, last, after⟩ := next
  cases Option.some.inj (there.symm.trans here)
  exact told.mpr ((le_iff_rank _ _).mpr ⟨r, own, u, last, before.trans after⟩)

/-- What is reached stays reached. -/
theorem reached_mono {time earlier later : Reading} (reached : Clock.reached time earlier = true)
    (ordered : earlier ≤ later) : Clock.reached time later = true :=
  decide_eq_true (le_trans (of_decide_eq_true reached) ordered)

end Chatflow.Proofs.Readings
