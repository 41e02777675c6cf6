import RuleBench.Proofs.Number.Operations

set_option autoImplicit false

/-!
# Decimals and doubles

A decimal stands for the double nearest to it, unless it is too large for any.  Every double is a
decimal itself.
-/

namespace RuleBench.Binary64

theorem eq_of_value_eq {x y : Binary64} (hsign : x.negative = y.negative)
    (h : x.value = y.value) : x = y := by
  have hmagnitude : x.magnitude = y.magnitude := by
    rw [← abs_value, ← abs_value, h]
  have hx := x.normal
  have hy := y.normal
  have hheight : x.height = y.height := by
    rcases lt_trichotomy x.height y.height with hlt | heq | hgt
    · exact absurd hmagnitude (magnitude_lt_of_height_lt hlt).ne
    · exact heq
    · exact absurd hmagnitude (magnitude_lt_of_height_lt hgt).ne'
  unfold height at hheight
  have hm : x.mantissa = y.mantissa := by omega
  have he : x.exponent = y.exponent := by omega
  cases x
  cases y
  simp_all

theorem magnitude_lt_overflow (x : Binary64) : x.magnitude < overflow := by
  have hm : (x.mantissa : ℚ) ≤ 2 ^ 53 - 1 := by
    have hle : x.mantissa + 1 ≤ 2 ^ 53 := x.normal.1
    rw [le_sub_iff_add_le]
    exact_mod_cast hle
  have he : x.exponent ≤ 971 := x.normal.2.2.1
  have hpow : (2 : ℚ) ^ x.exponent ≤ 2 ^ (971 : ℤ) := zpow_le_zpow_right₀ one_le_two he
  have hpos : (0 : ℚ) < 2 ^ (971 : ℤ) := by positivity
  calc x.magnitude ≤ (2 ^ 53 - 1) * 2 ^ (971 : ℤ) :=
        mul_le_mul hm hpow (by positivity) (by norm_num)
    _ < (2 ^ 53 - 1 / 2) * 2 ^ (971 : ℤ) := mul_lt_mul_of_pos_right (by norm_num) hpos
    _ = overflow := overflow_eq.symm

/-! ## Reading decimals -/

/-- What is at most half of the least positive double is nearest to zero. -/
theorem isNearest_zero_of_tiny {q : ℚ} (hq : 0 ≤ q) (h : 2 * q ≤ 2 ^ (-1074 : ℤ)) :
    IsNearest (zero false) q := by
  refine ⟨fun y => ?_, fun _ _ => .inr ⟨0, rfl⟩⟩
  rw [value_zero, zero_sub, abs_neg, abs_of_nonneg hq]
  obtain ⟨k, hk⟩ := exists_units y y.normal.2.1
  by_cases hzero : k = 0
  · rw [hk, hzero, Int.cast_zero, zero_mul, zero_sub, abs_neg, abs_of_nonneg hq]
  have hpos : (0 : ℚ) < 2 ^ (-1074 : ℤ) := by positivity
  have hone : (1 : ℚ) ≤ |(k : ℚ)| := by exact_mod_cast Int.one_le_abs hzero
  have hvalue : 2 ^ (-1074 : ℤ) ≤ |y.value| := by
    rw [hk, abs_mul, abs_of_pos hpos]
    exact le_mul_of_one_le_left hpos.le hone
  have htriangle := abs_sub_abs_le_abs_sub y.value q
  rw [abs_of_nonneg hq] at htriangle
  linarith

theorem tiny_of_log2 {digits count : ℕ}
    (h : -(count : ℤ) + (Nat.log2 digits : ℤ) < -1500) :
    2 * ((digits : ℚ) / 10 ^ count) ≤ 2 ^ (-1074 : ℤ) := by
  have hdigits : (digits : ℚ) ≤ 2 ^ (digits.log2 + 1) := by
    exact_mod_cast (Nat.lt_log2_self (n := digits)).le
  have hpow : (2 : ℚ) ^ count ≤ 10 ^ count := by gcongr; norm_num
  calc 2 * ((digits : ℚ) / 10 ^ count) ≤ 2 * (2 ^ (digits.log2 + 1) / 2 ^ count) := by gcongr
    _ = 2 ^ (((digits.log2 + 2 : ℕ) : ℤ) - count) := by
        rw [zpow_sub₀ two_ne_zero, zpow_natCast, zpow_natCast, pow_succ, pow_succ]
        ring
    _ ≤ 2 ^ (-1074 : ℤ) := zpow_le_zpow_right₀ one_le_two (by omega)

/-- A decimal is read as a ratio, or is too small to differ from zero. -/
theorem ofDecimal?_cases (digits count : ℕ) :
    (ofDecimal? false digits (-count) = some (zero false) ∧
      2 * ((digits : ℚ) / 10 ^ count) ≤ 2 ^ (-1074 : ℤ)) ∨
    ∃ num den : ℕ, 0 < den ∧ (num : ℚ) / den = digits / 10 ^ count ∧
      ofDecimal? false digits (-count) = ofRatio? false num den := by
  unfold ofDecimal?
  by_cases hdigits : digits = 0
  · rw [if_pos hdigits]
    refine .inl ⟨rfl, ?_⟩
    rw [hdigits, Nat.cast_zero, zero_div, mul_zero]
    positivity
  rw [if_neg hdigits, if_neg (by omega)]
  by_cases hsmall : -(count : ℤ) + (Nat.log2 digits : ℤ) < -1500
  · rw [if_pos hsmall]
    exact .inl ⟨rfl, tiny_of_log2 hsmall⟩
  rw [if_neg hsmall]
  refine .inr ?_
  by_cases hneg : -(count : ℤ) < 0
  · rw [if_pos hneg]
    refine ⟨digits, 10 ^ count, by positivity, by push_cast; rfl, ?_⟩
    rw [neg_neg, Int.toNat_natCast]
    rfl
  · rw [if_neg hneg]
    have hzero : count = 0 := by omega
    subst hzero
    exact ⟨digits, 1, one_pos, by norm_num, by simp⟩

theorem tiny_lt_overflow {q : ℚ} (h : 2 * q ≤ 2 ^ (-1074 : ℤ)) : q < overflow := by
  have hone : (2 : ℚ) ^ (-1074 : ℤ) ≤ 1 := zpow_le_one_of_nonpos₀ one_le_two (by norm_num)
  have hbound := pow_lt_overflow (n := 0) (by decide)
  rw [pow_zero] at hbound
  linarith

/-- A decimal below `overflow` is read as the nearest double. -/
theorem exists_ofDecimal? {digits count : ℕ} (h : (digits : ℚ) / 10 ^ count < overflow) :
    ∃ x, ofDecimal? false digits (-count) = some x ∧ x.negative = false ∧
      IsNearest x (digits / 10 ^ count) := by
  rcases ofDecimal?_cases digits count with ⟨hzero, htiny⟩ | ⟨num, den, hden, hratio, hread⟩
  · exact ⟨_, hzero, rfl, isNearest_zero_of_tiny (by positivity) htiny⟩
  · rw [← hratio] at h ⊢
    rw [hread]
    simpa using exists_ofRatio? false num hden h

/-- A decimal is not read from `overflow` on. -/
theorem ofDecimal?_eq_none_iff (digits count : ℕ) :
    ofDecimal? false digits (-count) = none ↔ overflow ≤ (digits : ℚ) / 10 ^ count := by
  rcases ofDecimal?_cases digits count with ⟨hzero, htiny⟩ | ⟨num, den, hden, hratio, hread⟩
  · rw [hzero]
    exact iff_of_false (Option.some_ne_none _) (tiny_lt_overflow htiny).not_ge
  · rw [← hratio, hread]
    exact ofRatio?_eq_none_iff false num hden

/-- A decimal that is a double is read as that double. -/
theorem ofDecimal?_eq {x : Binary64} (hsign : x.negative = false) {digits count : ℕ}
    (h : x.value = digits / 10 ^ count) : ofDecimal? false digits (-count) = some x := by
  have hlt : (digits : ℚ) / 10 ^ count < overflow := by
    rw [← h]
    exact (le_abs_self _).trans_lt (x.abs_value ▸ x.magnitude_lt_overflow)
  obtain ⟨y, hy, hnegative, hnear⟩ := exists_ofDecimal? hlt
  rw [hy, eq_of_value_eq (hnegative.trans hsign.symm) ((hnear.value_eq h).trans h.symm)]

/-! ## Doubles in decimal digits -/

/-- The last digits of a number, with zeros in front where it has fewer. -/
def lastDigits : ℕ → ℕ → List Char
  | 0, _ => []
  | count + 1, n => lastDigits count (n / 10) ++ [(n % 10).digitChar]

theorem length_lastDigits (count n : ℕ) : (lastDigits count n).length = count := by
  induction count generalizing n with
  | zero => rfl
  | succ count ih => rw [lastDigits, List.length_append, ih, List.length_singleton]

theorem isDigit_of_mem_lastDigits {count n : ℕ} :
    ∀ c ∈ lastDigits count n, c.isDigit = true := by
  induction count generalizing n with
  | zero => exact fun _ hc => absurd hc List.not_mem_nil
  | succ count ih =>
    intro c hc
    rcases List.mem_append.mp hc with hc | hc
    · exact ih c hc
    · rw [List.mem_singleton.mp hc, Nat.isDigit_digitChar, decide_eq_true_eq]
      exact Nat.mod_lt n (by decide)

theorem ofDigitChars_lastDigits (count n m : ℕ) :
    Nat.ofDigitChars 10 (lastDigits count n) m = m * 10 ^ count + n % 10 ^ count := by
  induction count generalizing n with
  | zero => simp [lastDigits, Nat.ofDigitChars, Nat.mod_one]
  | succ count ih =>
    have hlt : n % 10 < 10 := Nat.mod_lt n (by decide)
    rw [lastDigits, Nat.ofDigitChars_append, ih, Nat.ofDigitChars_cons_digitChar_of_lt_ten hlt,
      Nat.ofDigitChars_nil, pow_succ', Nat.mod_mul]
    ring

/-- Places after the point that are enough for a double; one at least. -/
def places (x : Binary64) : ℕ := max 1 (-x.exponent).toNat

/-- A double in units of its last place. -/
def inPlaces (x : Binary64) : ℕ :=
  if x.exponent < 0 then x.mantissa * 5 ^ (-x.exponent).toNat
  else x.mantissa * 2 ^ x.exponent.toNat * 10

theorem magnitude_eq_inPlaces (x : Binary64) : x.magnitude = x.inPlaces / 10 ^ x.places := by
  unfold magnitude inPlaces places
  by_cases h : x.exponent < 0
  · obtain ⟨k, hk⟩ : ∃ k : ℕ, x.exponent = -k := ⟨(-x.exponent).toNat, by omega⟩
    have hmax : max 1 k = k := by omega
    have hten : (10 : ℚ) ^ k = 2 ^ k * 5 ^ k := by
      rw [← mul_pow]
      norm_num
    rw [if_pos h, hk, neg_neg, Int.toNat_natCast, hmax, zpow_neg, zpow_natCast, hten]
    push_cast
    field_simp
  · obtain ⟨k, hk⟩ : ∃ k : ℕ, x.exponent = k := ⟨x.exponent.toNat, by omega⟩
    have hmax : max 1 (-(k : ℤ)).toNat = 1 := by omega
    rw [if_neg h, hk, Int.toNat_natCast, hmax, zpow_natCast, pow_one]
    push_cast
    ring

end RuleBench.Binary64
