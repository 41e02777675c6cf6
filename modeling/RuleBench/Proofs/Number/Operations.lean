import RuleBench.Proofs.Number.Nearest

set_option autoImplicit false

/-!
# The four operations on doubles

Each operation gives the double nearest to the exact result, for as long as that result stays below
`overflow`.
-/

namespace RuleBench.Binary64

theorem value_zero (negative : Bool) : (zero negative).value = 0 := by
  simp [value, magnitude, zero]

theorem isZero_iff (x : Binary64) : x.isZero = true ↔ x.value = 0 := by
  have hpos : (0 : ℚ) < 2 ^ x.exponent := by positivity
  rw [isZero, beq_iff_eq, ← abs_eq_zero, abs_value, magnitude, mul_eq_zero, or_iff_left hpos.ne',
    Nat.cast_eq_zero]

namespace IsNearest

variable {x y : Binary64} {q : ℚ}

theorem abs_le_two_mul (h : IsNearest x q) : |x.value| ≤ 2 * |q| := by
  have hzero := h.near (zero false)
  rw [value_zero, zero_sub, abs_neg] at hzero
  have htriangle := abs_sub_abs_le_abs_sub x.value q
  linarith

/-- Rounding does not pass a double. -/
theorem ge_of_ge (h : IsNearest x q) (hq : y.value ≤ q) : y.value ≤ x.value := by
  by_contra hlt
  have hnear := h.near y
  rw [abs_of_nonpos (by linarith : x.value - q ≤ 0), abs_of_nonpos (by linarith : y.value - q ≤ 0)]
    at hnear
  linarith

theorem le_of_le (h : IsNearest x q) (hq : q ≤ y.value) : x.value ≤ y.value := by
  have hneg := h.neg.ge_of_ge (y := y.neg) (by rw [value_neg]; linarith)
  rw [value_neg, value_neg] at hneg
  linarith

theorem value_eq (h : IsNearest x q) (hq : y.value = q) : x.value = q :=
  hq ▸ le_antisymm (h.le_of_le hq.ge) (h.ge_of_ge hq.le)

end IsNearest

/-! ## Scaled whole numbers -/

theorem exists_ofScaled? (negative : Bool) (m : ℕ) (e : ℤ) (h : (m : ℚ) * 2 ^ e < overflow) :
    ∃ x, ofScaled? negative m e = some x ∧ x.negative = negative ∧
      IsNearest x (if negative then -(m * 2 ^ e) else m * 2 ^ e) := by
  unfold ofScaled?
  by_cases he : e < 0
  · rw [if_pos he]
    obtain ⟨k, rfl⟩ : ∃ k : ℕ, e = -k := ⟨(-e).toNat, by omega⟩
    have hratio : (m : ℚ) / (1 <<< (- -(k : ℤ)).toNat : ℕ) = m * 2 ^ (-(k : ℤ)) := by
      rw [neg_neg, Int.toNat_natCast, Nat.shiftLeft_eq, zpow_neg, zpow_natCast, div_eq_mul_inv]
      push_cast
      ring
    have hden : 0 < 1 <<< (- -(k : ℤ)).toNat := by
      rw [Nat.shiftLeft_eq]
      positivity
    rw [← hratio] at h ⊢
    exact exists_ofRatio? negative m hden h
  · rw [if_neg he]
    obtain ⟨k, rfl⟩ : ∃ k : ℕ, e = k := ⟨e.toNat, by omega⟩
    have hratio : ((m <<< ((k : ℤ)).toNat : ℕ) : ℚ) / (1 : ℕ) = m * 2 ^ (k : ℤ) := by
      rw [Int.toNat_natCast, Nat.shiftLeft_eq, zpow_natCast]
      push_cast
      ring
    rw [← hratio] at h ⊢
    exact exists_ofRatio? negative _ one_pos h

theorem unitsAt_mul (x : Binary64) {e : ℤ} (h : e ≤ x.exponent) :
    (x.unitsAt e : ℚ) * 2 ^ e = x.value := by
  obtain ⟨d, hd⟩ := Int.le.dest h
  have hshift : (x.exponent - e).toNat = d := by omega
  have hmagnitude : ((x.mantissa <<< d : ℕ) : ℚ) * 2 ^ e = x.magnitude := by
    rw [magnitude, ← hd, add_comm, zpow_add₀ two_ne_zero, zpow_natCast, Nat.shiftLeft_eq]
    push_cast
    ring
  unfold unitsAt value
  rw [hshift]
  split_ifs
  · rw [← hmagnitude, Int.cast_neg, Int.cast_natCast, neg_mul]
  · rw [← hmagnitude, Int.cast_natCast]

/-! ## Operations -/

variable {x y : Binary64}

theorem exists_add? (h : |x.value + y.value| < overflow) :
    ∃ z, x.add? y = some z ∧ IsNearest z (x.value + y.value) := by
  obtain ⟨e, he⟩ : ∃ e, min x.exponent y.exponent = e := ⟨_, rfl⟩
  obtain ⟨n, hn⟩ : ∃ n, x.unitsAt e + y.unitsAt e = n := ⟨_, rfl⟩
  have hsum : x.value + y.value = n * 2 ^ e := by
    rw [← x.unitsAt_mul (he ▸ min_le_left _ _), ← y.unitsAt_mul (he ▸ min_le_right _ _), ← hn]
    push_cast
    ring
  have hpos : (0 : ℚ) < 2 ^ e := by positivity
  have habs : ((n.natAbs : ℕ) : ℚ) * 2 ^ e = |x.value + y.value| := by
    rw [hsum, abs_mul, abs_of_pos hpos, Nat.cast_natAbs, Int.cast_abs]
  simp only [add?, he, hn]
  split_ifs with hzero
  · refine ⟨_, rfl, ?_⟩
    rw [hsum, hzero, Int.cast_zero, zero_mul]
    exact isNearest_zero _
  · obtain ⟨z, hz, -, hnear⟩ := exists_ofScaled? (decide (n < 0)) n.natAbs e (habs ▸ h)
    refine ⟨z, hz, ?_⟩
    rw [habs, hsum] at hnear
    rw [hsum]
    by_cases hneg : n < 0
    · have hlt : (n : ℚ) * 2 ^ e < 0 := mul_neg_of_neg_of_pos (by exact_mod_cast hneg) hpos
      simpa [hneg, abs_of_neg hlt] using hnear
    · have hle : 0 ≤ (n : ℚ) * 2 ^ e :=
        mul_nonneg (by exact_mod_cast not_lt.mp hneg) hpos.le
      simpa only [hneg, decide_false, Bool.false_eq_true, if_false, abs_of_nonneg hle] using hnear

theorem exists_sub? (h : |x.value - y.value| < overflow) :
    ∃ z, x.sub? y = some z ∧ IsNearest z (x.value - y.value) := by
  have hneg : x.value - y.value = x.value + y.neg.value := by rw [value_neg, sub_eq_add_neg]
  rw [hneg] at h ⊢
  exact exists_add? h

theorem value_mul (x y : Binary64) : x.value * y.value =
    if (x.negative != y.negative) = true then -(x.magnitude * y.magnitude)
    else x.magnitude * y.magnitude := by
  unfold value
  cases x.negative <;> cases y.negative <;> simp

theorem value_div (x y : Binary64) : x.value / y.value =
    if (x.negative != y.negative) = true then -(x.magnitude / y.magnitude)
    else x.magnitude / y.magnitude := by
  unfold value
  cases x.negative <;> cases y.negative <;> simp [div_neg, neg_div]

theorem exists_mul? (h : |x.value * y.value| < overflow) :
    ∃ z, x.mul? y = some z ∧ IsNearest z (x.value * y.value) := by
  have hmagnitude : ((x.mantissa * y.mantissa : ℕ) : ℚ) * 2 ^ (x.exponent + y.exponent) =
      x.magnitude * y.magnitude := by
    rw [magnitude, magnitude, zpow_add₀ two_ne_zero]
    push_cast
    ring
  rw [abs_mul, abs_value, abs_value, ← hmagnitude] at h
  obtain ⟨z, hz, -, hnear⟩ := exists_ofScaled? (x.negative != y.negative) _ _ h
  refine ⟨z, hz, ?_⟩
  rwa [value_mul, ← hmagnitude]

theorem exists_div? (hy : y.value ≠ 0) (h : |x.value / y.value| < overflow) :
    ∃ z, x.div? y = some z ∧ IsNearest z (x.value / y.value) := by
  have hmantissa : 0 < y.mantissa := by
    have hzero := mt y.isZero_iff.mp hy
    simpa [isZero, Nat.pos_iff_ne_zero] using hzero
  rw [abs_div, abs_value, abs_value] at h
  rw [value_div]
  unfold div?
  obtain ⟨e, he⟩ : ∃ e, x.exponent - y.exponent = e := ⟨_, rfl⟩
  have hratio : x.magnitude / y.magnitude = x.mantissa / y.mantissa * 2 ^ e := by
    rw [magnitude, magnitude, ← he, zpow_sub₀ two_ne_zero]
    field_simp
  simp only [he]
  rw [hratio] at h ⊢
  by_cases hneg : e < 0
  · rw [if_pos hneg]
    obtain ⟨k, rfl⟩ : ∃ k : ℕ, e = -k := ⟨(-e).toNat, by omega⟩
    have hshift : (x.mantissa : ℚ) / (y.mantissa <<< (- -(k : ℤ)).toNat : ℕ) =
        x.mantissa / y.mantissa * 2 ^ (-(k : ℤ)) := by
      rw [neg_neg, Int.toNat_natCast, Nat.shiftLeft_eq, zpow_neg, zpow_natCast]
      push_cast
      field_simp
    have hden : 0 < y.mantissa <<< (- -(k : ℤ)).toNat := by
      rw [Nat.shiftLeft_eq]
      positivity
    rw [← hshift] at h ⊢
    obtain ⟨z, hz, -, hnear⟩ := exists_ofRatio? (x.negative != y.negative) _ hden h
    exact ⟨z, hz, hnear⟩
  · rw [if_neg hneg]
    obtain ⟨k, rfl⟩ : ∃ k : ℕ, e = k := ⟨e.toNat, by omega⟩
    have hshift : ((x.mantissa <<< ((k : ℤ)).toNat : ℕ) : ℚ) / y.mantissa =
        x.mantissa / y.mantissa * 2 ^ (k : ℤ) := by
      rw [Int.toNat_natCast, Nat.shiftLeft_eq, zpow_natCast]
      push_cast
      ring
    rw [← hshift] at h ⊢
    obtain ⟨z, hz, -, hnear⟩ := exists_ofRatio? (x.negative != y.negative) _ hmantissa h
    exact ⟨z, hz, hnear⟩

end RuleBench.Binary64
