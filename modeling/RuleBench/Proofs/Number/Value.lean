import Mathlib.Algebra.Order.Field.Power
import Mathlib.Data.Rat.Cast.Order
import Mathlib.Tactic.Linarith
import Mathlib.Tactic.NormNum
import Mathlib.Tactic.Positivity
import Mathlib.Tactic.Ring
import RuleBench.Number

set_option autoImplicit false

/-!
# The values of doubles

A double stands for a rational number.  Its normal form makes the order of the values that of the
ranks, so doubles are compared by value.
-/

namespace RuleBench.Binary64

def magnitude (x : Binary64) : ℚ := x.mantissa * 2 ^ x.exponent

def value (x : Binary64) : ℚ := if x.negative then -x.magnitude else x.magnitude

/-- The rank of a double without its sign. -/
def height (x : Binary64) : Int := (x.exponent + 1074) * 0x20000000000000 + x.mantissa

theorem rank_eq (x : Binary64) : x.rank = if x.negative then -x.height else x.height := rfl

theorem magnitude_nonneg (x : Binary64) : 0 ≤ x.magnitude := by
  unfold magnitude
  positivity

theorem height_nonneg (x : Binary64) : 0 ≤ x.height := by
  have hx := x.normal
  unfold height
  omega

/-- All doubles of an exponent are below the first of 53 bits at any greater exponent. -/
theorem magnitude_lt {x : Binary64} {e : Int} (h : x.exponent < e) :
    x.magnitude < 2 ^ 52 * 2 ^ e := by
  have hx : (x.mantissa : ℚ) < 2 ^ 53 := by exact_mod_cast x.normal.1
  calc x.magnitude < 2 ^ 53 * 2 ^ x.exponent := by
        unfold magnitude
        gcongr
    _ = 2 ^ 52 * 2 ^ (x.exponent + 1) := by
        rw [zpow_add_one₀ two_ne_zero]
        ring
    _ ≤ 2 ^ 52 * 2 ^ e := by
        gcongr
        · norm_num
        · omega

theorem magnitude_lt_of_exponent_lt {x y : Binary64} (h : x.exponent < y.exponent) :
    x.magnitude < y.magnitude := by
  have hy : (2 : ℚ) ^ 52 ≤ y.mantissa := by
    have hm : 0x10000000000000 ≤ y.mantissa := by
      have hx := x.normal
      have hy := y.normal
      omega
    exact_mod_cast hm
  refine (magnitude_lt h).trans_le ?_
  unfold magnitude
  gcongr

theorem magnitude_lt_of_height_lt {x y : Binary64} (h : x.height < y.height) :
    x.magnitude < y.magnitude := by
  have hx := x.normal
  have hy := y.normal
  unfold height at h
  rcases lt_trichotomy x.exponent y.exponent with he | he | he
  · exact magnitude_lt_of_exponent_lt he
  · have hm : x.mantissa < y.mantissa := by omega
    unfold magnitude
    rw [he]
    gcongr
  · omega

theorem magnitude_eq_of_height_eq {x y : Binary64} (h : x.height = y.height) :
    x.magnitude = y.magnitude := by
  have hx := x.normal
  have hy := y.normal
  unfold height at h
  have hm : x.mantissa = y.mantissa := by omega
  have he : x.exponent = y.exponent := by omega
  unfold magnitude
  rw [hm, he]

theorem magnitude_lt_iff (x y : Binary64) : x.magnitude < y.magnitude ↔ x.height < y.height := by
  refine ⟨fun h => ?_, magnitude_lt_of_height_lt⟩
  rcases lt_trichotomy x.height y.height with hlt | heq | hgt
  · exact hlt
  · exact absurd h (magnitude_eq_of_height_eq heq).not_lt
  · exact absurd h (magnitude_lt_of_height_lt hgt).not_gt

theorem magnitude_pos_iff (x : Binary64) : 0 < x.magnitude ↔ 0 < x.height := by
  have h := magnitude_lt_iff (zero false) x
  have hzero : (zero false).magnitude = 0 := by simp [magnitude, zero]
  rwa [hzero] at h

/-- Ranks are ordered as values are. -/
theorem value_lt_iff (x y : Binary64) : x.value < y.value ↔ x.rank < y.rank := by
  have hx := x.magnitude_nonneg
  have hy := y.magnitude_nonneg
  have hx' := x.height_nonneg
  have hy' := y.height_nonneg
  have hxpos := magnitude_pos_iff x
  have hypos := magnitude_pos_iff y
  simp only [value, rank_eq]
  cases x.negative <;> cases y.negative <;> simp only [Bool.false_eq_true, if_false, if_true]
  · exact magnitude_lt_iff x y
  · exact iff_of_false (by linarith) (by omega)
  · have hq : -x.magnitude < y.magnitude ↔ 0 < x.magnitude ∨ 0 < y.magnitude := by
      refine ⟨fun h => ?_, fun h => by rcases h with h | h <;> linarith⟩
      by_contra hno
      obtain ⟨hx₀, hy₀⟩ := not_or.mp hno
      linarith
    rw [hq, hxpos, hypos]
    omega
  · rw [neg_lt_neg_iff, neg_lt_neg_iff]
    exact magnitude_lt_iff y x

theorem same_iff (x y : Binary64) : x.same y = true ↔ x.value = y.value := by
  have hlt := value_lt_iff x y
  have hgt := value_lt_iff y x
  rw [same, beq_iff_eq]
  constructor
  · intro h
    exact le_antisymm (not_lt.mp fun h' => by rw [hgt] at h'; omega)
      (not_lt.mp fun h' => by rw [hlt] at h'; omega)
  · intro h
    have hle : ¬ x.rank < y.rank := mt hlt.mpr h.not_lt
    have hge : ¬ y.rank < x.rank := mt hgt.mpr h.not_gt
    omega

theorem abs_value (x : Binary64) : |x.value| = x.magnitude := by
  have h := x.magnitude_nonneg
  unfold value
  split_ifs
  · rw [abs_neg, abs_of_nonneg h]
  · exact abs_of_nonneg h

theorem value_neg (x : Binary64) : x.neg.value = -x.value := by
  unfold value neg magnitude
  cases x.negative <;> simp

end RuleBench.Binary64

namespace RuleBench.Number

open Binary64

/-- Numbers are equal when their nearest doubles have the same value. -/
theorem equal_iff (a b : Number) : a.equal b = true ↔ a.toReal.value = b.toReal.value :=
  same_iff _ _

theorem less_iff (a b : Number) : a.less b = true ↔ a.toReal.value < b.toReal.value := by
  rw [less, decide_eq_true_iff]
  exact (value_lt_iff _ _).symm

end RuleBench.Number
