import Mathlib.Algebra.Order.Round
import Mathlib.Tactic.FieldSimp
import RuleBench.Proofs.Number.Value

set_option autoImplicit false

/-!
# Rounding to the nearest double

The double made of a ratio is nearest to it; of two that are equally near it is the one with an even
significand.  This determines its value, keeps the order of ratios, and leaves whole numbers of up
to 53 bits as they are.
-/

namespace RuleBench.Binary64

/-- No double is nearer to `q`; where another one is as near, the significand is even. -/
structure IsNearest (x : Binary64) (q : ℚ) : Prop where
  near : ∀ y : Binary64, |x.value - q| ≤ |y.value - q|
  even : ∀ y : Binary64, |y.value - q| = |x.value - q| → y.value = x.value ∨ Even x.mantissa

/-- Rounding never reverses the order of two numbers. -/
theorem IsNearest.mono {x y : Binary64} {p q : ℚ} (hx : IsNearest x p) (hy : IsNearest y q)
    (h : p < q) : x.value ≤ y.value := by
  by_contra hno
  have hp := hx.near y
  have hq := hy.near x
  rcases abs_cases (x.value - p) with ⟨h₁, _⟩ | ⟨h₁, _⟩ <;>
    rcases abs_cases (y.value - q) with ⟨h₂, _⟩ | ⟨h₂, _⟩ <;>
    rcases abs_cases (y.value - p) with ⟨h₃, _⟩ | ⟨h₃, _⟩ <;>
    rcases abs_cases (x.value - q) with ⟨h₄, _⟩ | ⟨h₄, _⟩ <;> linarith

theorem IsNearest.neg {x : Binary64} {q : ℚ} (h : IsNearest x q) : IsNearest x.neg (-q) := by
  have hflip (y : Binary64) : |y.value - -q| = |y.neg.value - q| := by
    rw [value_neg, ← abs_neg]
    congr 1
    ring
  have hneg (y : Binary64) : y.neg.neg = y := by simp [Binary64.neg]
  constructor
  · intro y
    rw [hflip, hflip, hneg]
    exact h.near y.neg
  · intro y hy
    rw [hflip, hflip, hneg] at hy
    refine (h.even y.neg hy).imp_left fun heq => ?_
    rw [value_neg, ← heq, value_neg, neg_neg]

/-! ## Rounding to whole numbers -/

/-- `m` is within a half of `v`, and even at a half. -/
def Rounds (v : ℚ) (m : ℕ) : Prop := |v - m| ≤ 1 / 2 ∧ (|v - m| = 1 / 2 → Even m)

theorem rounds_nearest (num : ℕ) {den : ℕ} (h : 0 < den) :
    Rounds (num / den) (nearest num den) := by
  have hden : (0 : ℚ) < den := by exact_mod_cast h
  have hsum : (num : ℚ) = den * (num / den : ℕ) + (num % den : ℕ) := by
    exact_mod_cast (Nat.div_add_mod num den).symm
  have hv : (num : ℚ) / den = (num / den : ℕ) + (num % den : ℕ) / den := by
    rw [div_eq_iff hden.ne', add_mul, div_mul_cancel₀ _ hden.ne']
    linarith
  have hr : (0 : ℚ) ≤ (num % den : ℕ) / den := by positivity
  have hbelow : 2 * (num % den) < den ↔ ((num % den : ℕ) : ℚ) / den < 1 / 2 := by
    rw [div_lt_iff₀ hden, ← Nat.cast_lt (α := ℚ)]
    push_cast
    constructor <;> intro h <;> linarith
  have habove : den < 2 * (num % den) ↔ 1 / 2 < ((num % den : ℕ) : ℚ) / den := by
    rw [lt_div_iff₀ hden, ← Nat.cast_lt (α := ℚ)]
    push_cast
    constructor <;> intro h <;> linarith
  have hone : ((num % den : ℕ) : ℚ) / den < 1 := by
    rw [div_lt_one hden]
    exact_mod_cast Nat.mod_lt num h
  rw [hv]
  unfold nearest Rounds
  generalize num / den = q at *
  generalize ((num % den : ℕ) : ℚ) / den = t at *
  simp only [hbelow, habove]
  split_ifs with hlt hgt
  · rw [add_sub_cancel_left, abs_of_nonneg hr]
    exact ⟨hlt.le, fun heq => absurd heq hlt.ne⟩
  · have hd : |(q : ℚ) + t - (q + 1 : ℕ)| = 1 - t := by
      rw [abs_of_nonpos (by push_cast; linarith)]
      push_cast
      ring
    rw [hd]
    exact ⟨by linarith, fun heq => by linarith⟩
  · obtain rfl : t = 1 / 2 := le_antisymm (not_lt.mp hgt) (not_lt.mp hlt)
    have heven : Even (q + q % 2) := by
      rw [Nat.even_iff]
      omega
    refine ⟨?_, fun _ => heven⟩
    rcases Nat.mod_two_eq_zero_or_one q with h | h <;> rw [h] <;> push_cast <;>
      rw [abs_le] <;> constructor <;> linarith

namespace Rounds

variable {v : ℚ} {m : ℕ}

/-- Every other whole number is at least a half away. -/
theorem half_le (h : Rounds v m) {k : ℤ} (hk : k ≠ m) : 1 / 2 ≤ |(k : ℚ) - v| := by
  have hone : (1 : ℚ) ≤ |(k : ℚ) - m| := by
    have hint : 1 ≤ |k - (m : ℤ)| := Int.one_le_abs (sub_ne_zero.mpr hk)
    exact_mod_cast hint
  have htriangle := abs_sub_le (k : ℚ) v m
  linarith [h.1]

/-- A whole number that `v` rounds to is as near to it as any. -/
theorem le (h : Rounds v m) (k : ℤ) : |(m : ℚ) - v| ≤ |(k : ℚ) - v| := by
  by_cases hk : k = m
  · rw [hk, Int.cast_natCast]
  · rw [abs_sub_comm]
    exact h.1.trans (h.half_le hk)

theorem even (h : Rounds v m) {k : ℤ} (hk : |(k : ℚ) - v| = |(m : ℚ) - v|) : k = m ∨ Even m := by
  by_cases heq : k = m
  · exact .inl heq
  · refine .inr (h.2 (le_antisymm h.1 ?_))
    rw [abs_sub_comm, ← hk]
    exact h.half_le heq

theorem le_of_le (h : Rounds v m) {n : ℕ} (hv : v ≤ n) : m ≤ n := by
  have hm := (abs_le.mp h.1).1
  have hlt : (m : ℚ) < (n + 1 : ℕ) := by
    push_cast
    linarith
  exact Nat.lt_succ_iff.mp (by exact_mod_cast hlt)

theorem ge_of_ge (h : Rounds v m) {n : ℕ} (hv : (n : ℚ) ≤ v) : n ≤ m := by
  have hm := (abs_le.mp h.1).2
  have hlt : (n : ℚ) < (m + 1 : ℕ) := by
    push_cast
    linarith
  exact Nat.lt_succ_iff.mp (by exact_mod_cast hlt)

end Rounds

/-! ## Rounding to the places of an exponent -/

theorem rounds_nearestAt (num : ℕ) {den : ℕ} (h : 0 < den) (e : ℤ) :
    Rounds ((num : ℚ) / den / 2 ^ e) (nearestAt num den e) := by
  unfold nearestAt
  have hden : (den : ℚ) ≠ 0 := by exact_mod_cast h.ne'
  split_ifs with he
  · obtain ⟨k, rfl⟩ : ∃ k : ℕ, e = -k := ⟨(-e).toNat, by omega⟩
    have hshift : ((num <<< (- -(k : ℤ)).toNat : ℕ) : ℚ) / den = num / den / 2 ^ (-(k : ℤ)) := by
      rw [neg_neg, Int.toNat_natCast, Nat.shiftLeft_eq, zpow_neg, zpow_natCast]
      push_cast
      field_simp
    rw [← hshift]
    exact rounds_nearest _ h
  · obtain ⟨k, rfl⟩ : ∃ k : ℕ, e = k := ⟨e.toNat, by omega⟩
    have hshift : (num : ℚ) / (den <<< ((k : ℤ)).toNat : ℕ) = num / den / 2 ^ (k : ℤ) := by
      rw [Int.toNat_natCast, Nat.shiftLeft_eq, zpow_natCast]
      push_cast
      field_simp
    rw [← hshift]
    exact rounds_nearest _ (by rw [Nat.shiftLeft_eq]; positivity)

/-- Whether a ratio falls short of `2 ^ (e + 52)`. -/
theorem short_iff (num : ℕ) {den : ℕ} (h : 0 < den) (e : ℤ) :
    (if e < 0 then num <<< (-e).toNat < den <<< 52 else num < den <<< (e.toNat + 52)) ↔
      (num : ℚ) / den < 2 ^ (e + 52) := by
  have hden : (0 : ℚ) < den := by exact_mod_cast h
  rw [div_lt_iff₀ hden]
  split_ifs with he
  · obtain ⟨k, rfl⟩ : ∃ k : ℕ, e = -k := ⟨(-e).toNat, by omega⟩
    have hpow : (2 : ℚ) ^ (-(k : ℤ) + 52) * den = den * 2 ^ 52 / 2 ^ k := by
      rw [zpow_add₀ two_ne_zero, zpow_neg, zpow_natCast, zpow_ofNat]
      field_simp
    rw [neg_neg, Int.toNat_natCast, Nat.shiftLeft_eq, Nat.shiftLeft_eq, ← Nat.cast_lt (α := ℚ),
      hpow, lt_div_iff₀ (by positivity)]
    push_cast
    rfl
  · obtain ⟨k, rfl⟩ : ∃ k : ℕ, e = k := ⟨e.toNat, by omega⟩
    have hpow : (2 : ℚ) ^ ((k : ℤ) + 52) * den = den * 2 ^ (k + 52) := by
      rw [mul_comm, show ((k : ℤ) + 52) = ((k + 52 : ℕ) : ℤ) by push_cast; rfl, zpow_natCast]
    rw [Int.toNat_natCast, Nat.shiftLeft_eq, ← Nat.cast_lt (α := ℚ), hpow]
    push_cast
    rfl

theorem exponentFor_spec {num den : ℕ} (hnum : 0 < num) (hden : 0 < den) :
    -1074 ≤ exponentFor num den ∧ (num : ℚ) / den < 2 ^ (exponentFor num den + 53) ∧
      ((2 : ℚ) ^ (exponentFor num den + 52) ≤ num / den ∨ exponentFor num den = -1074) := by
  have hden' : (0 : ℚ) < den := by exact_mod_cast hden
  have hnum₁ : (2 : ℚ) ^ num.log2 ≤ num := by exact_mod_cast Nat.log2_self_le hnum.ne'
  have hnum₂ : (num : ℚ) < 2 ^ (num.log2 + 1) := by exact_mod_cast Nat.lt_log2_self
  have hden₁ : (2 : ℚ) ^ den.log2 ≤ den := by exact_mod_cast Nat.log2_self_le hden.ne'
  have hden₂ : (den : ℚ) < 2 ^ (den.log2 + 1) := by exact_mod_cast Nat.lt_log2_self
  obtain ⟨e, he⟩ : ∃ e : ℤ, (num.log2 : ℤ) - den.log2 - 52 = e := ⟨_, rfl⟩
  have hlow : (2 : ℚ) ^ (e + 51) ≤ num / den := by
    rw [le_div_iff₀ hden']
    calc (2 : ℚ) ^ (e + 51) * den ≤ 2 ^ (e + 51) * 2 ^ (den.log2 + 1) := by gcongr
      _ = 2 ^ num.log2 := by
          rw [← zpow_natCast, ← zpow_natCast, ← zpow_add₀ two_ne_zero]
          congr 1
          push_cast
          omega
      _ ≤ num := hnum₁
  have hhigh : (num : ℚ) / den < 2 ^ (e + 53) := by
    rw [div_lt_iff₀ hden']
    calc (num : ℚ) < 2 ^ (num.log2 + 1) := hnum₂
      _ = 2 ^ (e + 53) * 2 ^ den.log2 := by
          rw [← zpow_natCast, ← zpow_natCast, ← zpow_add₀ two_ne_zero]
          congr 1
          push_cast
          omega
      _ ≤ 2 ^ (e + 53) * den := by gcongr
  -- Whichever of the two exponents is taken, the ratio has 53 bits at it.
  obtain ⟨e', he', hlow', hhigh'⟩ : ∃ e', exponentFor num den = max e' (-1074) ∧
      (2 : ℚ) ^ (e' + 52) ≤ num / den ∧ (num : ℚ) / den < 2 ^ (e' + 53) := by
    have hshort := short_iff num hden e
    unfold exponentFor
    simp only [he]
    by_cases h : (num : ℚ) / den < 2 ^ (e + 52)
    · refine ⟨e - 1, by rw [if_pos (hshort.mpr h)], ?_, ?_⟩
      · rwa [show e - 1 + 52 = e + 51 by ring]
      · rwa [show e - 1 + 53 = e + 52 by ring]
    · exact ⟨e, by rw [if_neg (mt hshort.mp h)], not_lt.mp h, hhigh⟩
  rw [he']
  refine ⟨le_max_right _ _, hhigh'.trans_le ?_, ?_⟩
  · gcongr
    · norm_num
    · exact le_max_left _ _
  · rcases max_choice e' (-1074) with hmax | hmax <;> rw [hmax]
    · exact .inl hlow'
    · exact .inr rfl

/-! ## Doubles made of ratios -/

/-- Half a place beyond the greatest double; a ratio rounds to a double below this and no more from
there on. -/
def overflow : ℚ := (2 ^ 54 - 1) * 2 ^ 970

theorem overflow_eq : overflow = (2 ^ 53 - 1 / 2) * 2 ^ (971 : ℤ) := by
  have hpow : (2 : ℚ) ^ (971 : ℤ) = 2 ^ 970 * 2 := (zpow_natCast 2 971).trans (pow_succ 2 970)
  rw [overflow, hpow]
  generalize (2 : ℚ) ^ 970 = t
  ring

theorem pow_lt_overflow {n : ℕ} (h : n ≤ 1023) : (2 : ℚ) ^ n < overflow := by
  have hpow : (2 : ℚ) ^ 1023 = 2 ^ 53 * 2 ^ 970 := pow_add 2 53 970
  have hpos : (0 : ℚ) < 2 ^ 970 := by positivity
  refine (pow_le_pow_right₀ one_le_two h).trans_lt ?_
  rw [hpow, overflow]
  exact mul_lt_mul_of_pos_right (by norm_num) hpos

theorem overflow_lt_pow : overflow < 2 ^ 1024 := by
  have hpow : (2 : ℚ) ^ 1024 = 2 ^ 54 * 2 ^ 970 := pow_add 2 54 970
  have hpos : (0 : ℚ) < 2 ^ 970 := by positivity
  rw [hpow, overflow]
  exact mul_lt_mul_of_pos_right (by norm_num) hpos

theorem exists_pack? (negative : Bool) {m : ℕ} {e : ℤ} (hm : m ≤ 2 ^ 53) (he : -1074 ≤ e)
    (he' : e < 971 ∨ e = 971 ∧ m < 2 ^ 53) (hnormal : 2 ^ 52 ≤ m ∨ e = -1074) :
    ∃ x, pack? negative m e = some x ∧ x.negative = negative ∧
      x.magnitude = m * 2 ^ e ∧ (Even m → Even x.mantissa) := by
  unfold pack?
  by_cases h : m = 0x20000000000000
  · simp only [if_pos h]
    rw [dif_pos (by omega)]
    refine ⟨_, rfl, rfl, ?_, fun _ => ⟨0x8000000000000, rfl⟩⟩
    simp only [magnitude, h, zpow_add_one₀ (two_ne_zero (α := ℚ))]
    push_cast
    ring
  · simp only [if_neg h]
    rw [dif_pos (by omega)]
    exact ⟨_, rfl, rfl, rfl, id⟩

/-- A double is a whole number of units of any exponent not above its own. -/
theorem exists_units (y : Binary64) {e : ℤ} (h : e ≤ y.exponent) :
    ∃ k : ℤ, y.value = k * 2 ^ e := by
  obtain ⟨d, hd⟩ := Int.le.dest h
  have hmagnitude : y.magnitude = (y.mantissa * 2 ^ d : ℕ) * 2 ^ e := by
    unfold magnitude
    rw [← hd, add_comm, zpow_add₀ two_ne_zero, zpow_natCast]
    push_cast
    ring
  unfold value
  split_ifs
  · exact ⟨-(y.mantissa * 2 ^ d : ℕ), by rw [hmagnitude]; push_cast; ring⟩
  · exact ⟨(y.mantissa * 2 ^ d : ℕ), by rw [hmagnitude]; push_cast; ring⟩

/-- The whole number of units that a ratio rounds to makes the nearest double, if the ratio has 53
bits in these units or the units are the smallest. -/
theorem isNearest_of_rounds {x : Binary64} {q : ℚ} {m : ℕ} {e : ℤ} (hx : x.value = m * 2 ^ e)
    (heven : Even m → Even x.mantissa) (hm : Rounds (q / 2 ^ e) m)
    (hlow : (2 : ℚ) ^ (e + 52) ≤ q ∨ e = -1074) : IsNearest x q := by
  have hpos : (0 : ℚ) < 2 ^ e := by positivity
  have hunits (k : ℤ) : |k * 2 ^ e - q| = |k - q / 2 ^ e| * 2 ^ e := by
    rw [← abs_of_pos hpos, ← abs_mul, abs_of_pos hpos, sub_mul, div_mul_cancel₀ _ hpos.ne']
  have hxunits : |x.value - q| = |(m : ℚ) - q / 2 ^ e| * 2 ^ e := by
    rw [hx]
    exact_mod_cast hunits m
  -- A double of a smaller exponent lies below `2 ^ 52` units, which are still below the ratio.
  have hsmall (y : Binary64) (hy : y.exponent < e) : |x.value - q| < |y.value - q| := by
    have hq : (2 : ℚ) ^ 52 * 2 ^ e ≤ q := by
      have hne : e ≠ -1074 := by
        have hnormal := y.normal
        omega
      have hlow := hlow.resolve_right hne
      rwa [add_comm, zpow_add₀ two_ne_zero, zpow_ofNat] at hlow
    have hvalue : y.value < 2 ^ 52 * 2 ^ e :=
      (le_abs_self _).trans_lt (y.abs_value ▸ magnitude_lt hy)
    calc |x.value - q| ≤ |((2 ^ 52 : ℤ) : ℚ) * 2 ^ e - q| := by
          rw [hxunits, hunits]
          exact mul_le_mul_of_nonneg_right (hm.le _) hpos.le
      _ = q - 2 ^ 52 * 2 ^ e := by
          rw [abs_of_nonpos (by push_cast; linarith)]
          push_cast
          ring
      _ < q - y.value := by linarith
      _ = |y.value - q| := by rw [abs_of_nonpos (by linarith), neg_sub]
  constructor
  · intro y
    rcases le_or_gt e y.exponent with hy | hy
    · obtain ⟨k, hk⟩ := exists_units y hy
      rw [hxunits, hk, hunits]
      exact mul_le_mul_of_nonneg_right (hm.le k) hpos.le
    · exact (hsmall y hy).le
  · intro y heq
    rcases le_or_gt e y.exponent with hy | hy
    · obtain ⟨k, hk⟩ := exists_units y hy
      rw [hxunits, hk, hunits] at heq
      rcases hm.even (mul_right_cancel₀ hpos.ne' heq) with rfl | hm'
      · exact .inl (by rw [hk, hx, Int.cast_natCast])
      · exact .inr (heven hm')
    · exact absurd heq (hsmall y hy).ne'

theorem isNearest_zero (negative : Bool) : IsNearest (zero negative) 0 := by
  have hzero : (zero negative).value = 0 := by simp [value, magnitude, zero]
  constructor
  · intro y
    rw [hzero, sub_zero, abs_zero]
    exact abs_nonneg _
  · exact fun _ _ => .inr ⟨0, rfl⟩

/-- The whole number that a ratio rounds to at its exponent has 53 bits, or the next number is a
power of two. -/
theorem nearestAt_bounds (num : ℕ) {den : ℕ} (hden : 0 < den) {e : ℤ}
    (hhigh : (num : ℚ) / den < 2 ^ (e + 53)) (hlow : (2 : ℚ) ^ (e + 52) ≤ num / den ∨ e = -1074) :
    nearestAt num den e ≤ 2 ^ 53 ∧ (2 ^ 52 ≤ nearestAt num den e ∨ e = -1074) := by
  have hrounds := rounds_nearestAt num hden e
  have hpos : (0 : ℚ) < 2 ^ e := by positivity
  constructor
  · refine hrounds.le_of_le ?_
    rw [div_le_iff₀ hpos]
    rw [add_comm, zpow_add₀ two_ne_zero] at hhigh
    exact_mod_cast hhigh.le
  · refine hlow.imp_left fun hlow => hrounds.ge_of_ge ?_
    rw [le_div_iff₀ hpos]
    rw [add_comm, zpow_add₀ two_ne_zero] at hlow
    exact_mod_cast hlow

/-- At the greatest exponent 53 bits are enough below `overflow`. -/
theorem exponent_of_lt_overflow {num den : ℕ} (hden : 0 < den) {e : ℤ}
    (hq : (num : ℚ) / den < overflow) (hhigh : (num : ℚ) / den < 2 ^ (e + 53))
    (hlow : (2 : ℚ) ^ (e + 52) ≤ num / den ∨ e = -1074) :
    e < 971 ∨ e = 971 ∧ nearestAt num den e < 2 ^ 53 := by
  have hmax : e ≤ 971 := by
    rcases hlow with hlow | hlow
    · have hlt : (2 : ℚ) ^ (e + 52) < 2 ^ (1024 : ℤ) :=
        (hlow.trans_lt hq).trans overflow_lt_pow
      rw [zpow_lt_zpow_iff_right₀ one_lt_two] at hlt
      omega
    · omega
  rcases hmax.lt_or_eq with he | rfl
  · exact .inl he
  refine .inr ⟨rfl, lt_of_le_of_ne (nearestAt_bounds num hden hhigh hlow).1 fun heq => ?_⟩
  have hrounds := (abs_le.mp (rounds_nearestAt num hden 971).1).1
  have hlt : (num : ℚ) / den / 2 ^ (971 : ℤ) < 2 ^ 53 - 1 / 2 := by
    rw [div_lt_iff₀ (by positivity)]
    exact hq.trans_eq overflow_eq
  rw [heq] at hrounds
  generalize (num : ℚ) / den / 2 ^ (971 : ℤ) = v at hrounds hlt
  push_cast at hrounds
  linarith

/-- A ratio below `overflow` makes a double, and that is the nearest. -/
theorem exists_ofRatio? (negative : Bool) (num : ℕ) {den : ℕ} (hden : 0 < den)
    (hq : (num : ℚ) / den < overflow) :
    ∃ x, ofRatio? negative num den = some x ∧ x.negative = negative ∧
      IsNearest x (if negative then -(num / den) else num / den) := by
  unfold ofRatio?
  by_cases hnum : num = 0
  · rw [if_pos hnum]
    refine ⟨zero negative, rfl, rfl, ?_⟩
    simpa [hnum] using isNearest_zero negative
  rw [if_neg hnum]
  obtain ⟨hmin, hhigh, hlow⟩ := exponentFor_spec (Nat.pos_of_ne_zero hnum) hden
  generalize exponentFor num den = e at hmin hhigh hlow
  have hrounds := rounds_nearestAt num hden e
  have hmax := exponent_of_lt_overflow hden hq hhigh hlow
  obtain ⟨hm, hm'⟩ := nearestAt_bounds num hden hhigh hlow
  obtain ⟨x, hx, hsign, hmagnitude, heven⟩ := exists_pack? negative hm hmin hmax hm'
  refine ⟨x, hx, hsign, ?_⟩
  cases negative with
  | false =>
    have hvalue : x.value = nearestAt num den e * 2 ^ e := by simp [value, hsign, hmagnitude]
    exact isNearest_of_rounds hvalue heven hrounds hlow
  | true =>
    have hvalue : x.neg.value = nearestAt num den e * 2 ^ e := by
      rw [value_neg]
      simp [value, hsign, hmagnitude]
    have hnear : IsNearest x.neg (num / den) := isNearest_of_rounds hvalue heven hrounds hlow
    have hneg : x.neg.neg = x := by simp [Binary64.neg]
    exact hneg ▸ hnear.neg

/-- A ratio makes no double from `overflow` on. -/
theorem ofRatio?_eq_none_iff (negative : Bool) (num : ℕ) {den : ℕ} (hden : 0 < den) :
    ofRatio? negative num den = none ↔ overflow ≤ (num : ℚ) / den := by
  refine ⟨fun h => not_lt.mp fun hq => ?_, fun hq => ?_⟩
  · obtain ⟨x, hx, -⟩ := exists_ofRatio? negative num hden hq
    rw [h] at hx
    cases hx
  have hnum : num ≠ 0 := by
    rintro rfl
    have hpos : (0 : ℚ) < overflow :=
      (by positivity : (0 : ℚ) < 2 ^ 0).trans (pow_lt_overflow (by decide))
    rw [Nat.cast_zero, zero_div] at hq
    exact hq.not_gt hpos
  unfold ofRatio?
  rw [if_neg hnum]
  obtain ⟨-, hhigh, hlow⟩ := exponentFor_spec (Nat.pos_of_ne_zero hnum) hden
  generalize exponentFor num den = e at hhigh hlow
  have hmin : 971 ≤ e := by
    have hlt : (2 : ℚ) ^ (1023 : ℤ) < 2 ^ (e + 53) :=
      ((pow_lt_overflow le_rfl).trans_le hq).trans hhigh
    rw [zpow_lt_zpow_iff_right₀ one_lt_two] at hlt
    omega
  obtain ⟨hm, hm'⟩ := nearestAt_bounds num hden hhigh hlow
  have hfull : 971 < e ∨ nearestAt num den e = 2 ^ 53 := by
    rcases hmin.lt_or_eq with he | rfl
    · exact .inl he
    refine .inr (hm.eq_of_not_lt fun hlt => ?_)
    -- Half a place below `2 ^ 53` the even neighbour is `2 ^ 53`.
    obtain ⟨hle, heven⟩ := rounds_nearestAt num hden 971
    have hv : 2 ^ 53 - 1 / 2 ≤ (num : ℚ) / den / 2 ^ (971 : ℤ) := by
      rw [le_div_iff₀ (by positivity)]
      exact overflow_eq.symm.trans_le hq
    have hcast : (nearestAt num den 971 : ℚ) ≤ 2 ^ 53 - 1 := by
      have hle : nearestAt num den 971 + 1 ≤ 2 ^ 53 := hlt
      rw [le_sub_iff_add_le]
      exact_mod_cast hle
    have habs := (abs_le.mp hle).2
    have heq : (nearestAt num den 971 : ℚ) = 2 ^ 53 - 1 := by linarith
    have hodd : nearestAt num den 971 = 2 ^ 53 - 1 := by
      have hcast' : (nearestAt num den 971 : ℚ) = ((2 ^ 53 - 1 : ℕ) : ℚ) := by
        rw [heq]
        norm_num
      exact_mod_cast hcast'
    have hhalf := heven (by rw [abs_of_nonneg (by linarith)]; linarith)
    rw [hodd] at hhalf
    exact absurd hhalf (by decide)
  unfold pack?
  by_cases h : nearestAt num den e = 0x20000000000000
  · simp only [if_pos h]
    rw [dif_neg (by omega)]
  · simp only [if_neg h]
    rw [dif_neg (by omega)]

/-! ## Whole numbers -/

theorem isNearest_ofInt {i : ℤ} (h : |(i : ℚ)| < 2 ^ 1023) : IsNearest (ofInt i) i := by
  have habs : ((i.natAbs : ℕ) : ℚ) = |(i : ℚ)| := by rw [Nat.cast_natAbs, Int.cast_abs]
  obtain ⟨x, hx, -, hnear⟩ := exists_ofRatio? (decide (i < 0)) i.natAbs one_pos
    (by rw [Nat.cast_one, div_one, habs]; exact h.trans (pow_lt_overflow le_rfl))
  rw [Nat.cast_one, div_one, habs] at hnear
  have hof : ofInt i = x := by simp only [ofInt, hx, Option.getD_some]
  rw [hof]
  by_cases hneg : i < 0
  · have hi : (i : ℚ) < 0 := by exact_mod_cast hneg
    simpa [hneg, abs_of_neg hi] using hnear
  · have hi : (0 : ℚ) ≤ i := by exact_mod_cast not_lt.mp hneg
    simpa [hneg, abs_of_nonneg hi] using hnear

/-- Whole numbers of up to 53 bits are doubles. -/
theorem exists_value_eq {i : ℤ} (h : |i| ≤ 2 ^ 53) : ∃ x : Binary64, x.value = i := by
  obtain ⟨n, hn⟩ : ∃ n : ℕ, i.natAbs = n := ⟨_, rfl⟩
  have hle : n ≤ 2 ^ 53 := by
    rw [Int.abs_eq_natAbs, hn] at h
    exact_mod_cast h
  by_cases hzero : n = 0
  · refine ⟨zero false, ?_⟩
    have hi : i = 0 := by omega
    simp [hi, value, magnitude, zero]
  -- Shifted to the left until it has 53 bits.
  obtain ⟨k, hk⟩ : ∃ k, 52 - n.log2 = k := ⟨_, rfl⟩
  have hlow := Nat.log2_self_le hzero
  have hm : n * 2 ^ k ≤ 2 ^ 53 ∧ 2 ^ 52 ≤ n * 2 ^ k := by
    rcases Nat.lt_or_ge n.log2 53 with hlog | hlog
    · constructor
      · calc n * 2 ^ k ≤ 2 ^ (n.log2 + 1) * 2 ^ k :=
              Nat.mul_le_mul_right _ Nat.lt_log2_self.le
          _ = 2 ^ 53 := by
              rw [← Nat.pow_add]
              congr 1
              omega
      · calc 2 ^ 52 = 2 ^ n.log2 * 2 ^ k := by
              rw [← Nat.pow_add]
              congr 1
              omega
          _ ≤ n * 2 ^ k := Nat.mul_le_mul_right _ hlow
    · have hbig : 2 ^ 53 ≤ n := (Nat.pow_le_pow_right two_pos hlog).trans hlow
      have hk : k = 0 := by omega
      subst hk
      omega
  obtain ⟨x, -, hsign, hmagnitude, -⟩ := exists_pack? (decide (i < 0)) (e := -(k : ℤ)) hm.1
    (by omega) (.inl (by omega)) (.inl hm.2)
  refine ⟨x, ?_⟩
  have hn' : x.magnitude = n := by
    rw [hmagnitude, zpow_neg, zpow_natCast]
    push_cast
    field_simp
  have habs : (n : ℚ) = |(i : ℚ)| := by rw [← hn, Nat.cast_natAbs, Int.cast_abs]
  unfold value
  rw [hn', habs, hsign]
  by_cases hneg : i < 0
  · have hi : (i : ℚ) < 0 := by exact_mod_cast hneg
    simp [hneg, abs_of_neg hi]
  · have hi : (0 : ℚ) ≤ i := by exact_mod_cast not_lt.mp hneg
    simp [hneg, abs_of_nonneg hi]

theorem value_ofInt {i : ℤ} (h : |i| ≤ 2 ^ 53) : (ofInt i).value = i := by
  have hq : |(i : ℚ)| ≤ 2 ^ 53 := by exact_mod_cast h
  have hnear := isNearest_ofInt (hq.trans_lt (pow_lt_pow_right₀ one_lt_two (by norm_num)))
  obtain ⟨x, hx⟩ := exists_value_eq h
  have hle := hnear.near x
  rw [hx, sub_self, abs_zero] at hle
  exact sub_eq_zero.mp (abs_nonpos_iff.mp hle)

end RuleBench.Binary64
