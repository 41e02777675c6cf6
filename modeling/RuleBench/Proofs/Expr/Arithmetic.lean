import RuleBench.Proofs.Expr.Comparison
import RuleBench.Proofs.Number.Operations

set_option autoImplicit false

/-!
# Arithmetic on signed whole numbers

A result that is a signed whole number is given as such.  Every other result is the double nearest to
what the operator makes of the nearest doubles, and only division by zero has none.
-/

namespace RuleBench

open Binary64 (IsNearest overflow)

namespace Whole

theorem isSigned_iff (w : Whole) : w.isSigned = true ↔ w.val < 2 ^ 63 := decide_eq_true_iff

theorem abs_rounded_le (w : Whole) : |w.rounded| ≤ 2 ^ 65 := by
  have hw : |w.val| ≤ 2 ^ 64 := by
    have hbounds := w.bounds
    rw [abs_le]
    omega
  have hq : |(w.val : ℚ)| ≤ 2 ^ 64 := by exact_mod_cast hw
  calc |w.rounded| ≤ 2 * |(w.val : ℚ)| := w.isNearest.abs_le_two_mul
    _ ≤ 2 ^ 65 := by linarith

theorem zero_mem_bounds : -0x8000000000000000 ≤ (0 : ℤ) ∧ (0 : ℤ) < 0x10000000000000000 := by
  decide

def zero : Whole := ⟨0, zero_mem_bounds⟩

theorem rounded_zero : zero.rounded = 0 := by
  rw [rounded_eq (by simp [zero]), zero, Int.cast_zero]

theorem one_le_abs_rounded {w : Whole} (h : w.val ≠ 0) : 1 ≤ |w.rounded| := by
  obtain ⟨one, hone⟩ := Binary64.exists_value_eq (i := 1) (by norm_num)
  rw [Int.cast_one] at hone
  rcases lt_or_gt_of_ne h with hneg | hpos
  · have hle : (w.val : ℚ) ≤ one.neg.value := by
      rw [Binary64.value_neg, hone]
      exact_mod_cast (by omega : w.val ≤ -1)
    have hrounded := w.isNearest.le_of_le hle
    rw [Binary64.value_neg, hone] at hrounded
    exact le_abs.mpr (.inr (by rw [rounded]; linarith))
  · have hle : one.value ≤ w.val := by
      rw [hone]
      exact_mod_cast (by omega : 1 ≤ w.val)
    exact le_abs.mpr (.inl (hone ▸ w.isNearest.ge_of_ge hle))

end Whole

namespace BinaryOp

def calculates : BinaryOp → Bool
  | .add | .subtract | .multiply | .divide => true
  | _ => false

/-- The result without a bound on its size or its places. -/
def exact (op : BinaryOp) (p q : ℚ) : ℚ :=
  match op with
  | .add => p + q
  | .subtract => p - q
  | .multiply => p * q
  | .divide => p / q
  | _ => 0

/-- Whether an operator has a result, given its right operand. -/
def Defined (op : BinaryOp) (b : Whole) : Prop := op = .divide → b.val ≠ 0

theorem abs_exact_lt_overflow {op : BinaryOp} {a b : Whole} (h : op.Defined b) :
    |op.exact a.rounded b.rounded| < overflow := by
  have ha := a.abs_rounded_le
  have hb := b.abs_rounded_le
  refine lt_of_le_of_lt ?_ (Binary64.pow_lt_overflow (n := 130) (by decide))
  cases op with
  | add => exact (abs_add_le _ _).trans (by linarith)
  | subtract => exact (abs_sub _ _).trans (by linarith)
  | multiply =>
    calc |a.rounded * b.rounded| = |a.rounded| * |b.rounded| := abs_mul _ _
      _ ≤ 2 ^ 65 * 2 ^ 65 := by gcongr
      _ = 2 ^ 130 := by norm_num
  | divide =>
    have hone := Whole.one_le_abs_rounded (h rfl)
    calc |a.rounded / b.rounded| = |a.rounded| / |b.rounded| := abs_div _ _
      _ ≤ |a.rounded| := div_le_self (abs_nonneg _) hone
      _ ≤ 2 ^ 130 := by linarith
  | _ => simp [exact]

end BinaryOp

namespace Expr

/-! ## Whole results -/

theorem wholeOf?_eq_some_iff {op : BinaryOp} (hop : op.calculates = true) {x y z : ℤ}
    (hy : op = .divide → y ≠ 0) :
    wholeOf? op x y = some z ↔ op.exact x y = z ∧ -2 ^ 63 ≤ z ∧ z < 2 ^ 63 := by
  have hfits : ∀ r : ℤ, (if -0x8000000000000000 ≤ r ∧ r < 0x8000000000000000 then some r
      else none) = some z ↔ r = z ∧ -2 ^ 63 ≤ z ∧ z < 2 ^ 63 := by
    intro r
    split_ifs with hr
    · rw [Option.some.injEq]
      exact ⟨fun h => ⟨h, h ▸ hr⟩, And.left⟩
    · constructor
      · intro h
        cases h
      · rintro ⟨rfl, hz⟩
        exact absurd hz hr
  have hcast : ∀ {r : ℤ} {q : ℚ}, (r : ℚ) = q →
      ((if -0x8000000000000000 ≤ r ∧ r < 0x8000000000000000 then some r else none) = some z ↔
        q = z ∧ -2 ^ 63 ≤ z ∧ z < 2 ^ 63) := by
    rintro r q rfl
    rw [hfits, Int.cast_inj]
  cases op with
  | add => exact hcast (Int.cast_add x y)
  | subtract => exact hcast (Int.cast_sub x y)
  | multiply => exact hcast (Int.cast_mul x y)
  | divide =>
    have hy := hy rfl
    have hq : (y : ℚ) ≠ 0 := by exact_mod_cast hy
    have hquotient : (x : ℚ) / y = z ↔ x.tmod y = 0 ∧ x.tdiv y = z := by
      rw [div_eq_iff hq]
      constructor
      · intro h
        have hx : x = z * y := by exact_mod_cast h
        subst hx
        exact ⟨Int.mul_tmod_left z y, Int.mul_tdiv_cancel z hy⟩
      · rintro ⟨hmod, rfl⟩
        have hsum := Int.mul_tdiv_add_tmod x y
        rw [hmod, add_zero, mul_comm] at hsum
        exact_mod_cast hsum.symm
    simp only [wholeOf?, BinaryOp.exact, hquotient, hy, ne_eq, not_false_eq_true, true_and]
    by_cases hmod : x.tmod y = 0
    · rw [if_pos hmod, hfits, and_iff_right hmod]
    · rw [if_neg hmod]
      exact iff_of_false (Option.some_ne_none z).symm fun h => hmod h.1.1
  | _ => cases hop

theorem wholeResult?_eq {a b : Whole} (ha : a.isSigned = true) (hb : b.isSigned = true)
    (op : BinaryOp) : wholeResult? op (.whole a) (.whole b) =
      (wholeOf? op a.val b.val).bind Whole.ofInt? := by
  simp [wholeResult?, signedPair?, Number.signed?, ha, hb]

/-- A whole result is the exact one. -/
theorem wholeResult?_eq_some_iff {op : BinaryOp} (hop : op.calculates = true) {a b w : Whole}
    (ha : a.isSigned = true) (hb : b.isSigned = true) (h : op.Defined b) :
    wholeResult? op (.whole a) (.whole b) = some w ↔
      w.isSigned = true ∧ op.exact a.val b.val = w.val := by
  have hof : ∀ z, Whole.ofInt? z = some w → z = w.val := by
    intro z hz
    unfold Whole.ofInt? at hz
    split_ifs at hz
    cases hz
    rfl
  rw [wholeResult?_eq ha hb, Option.bind_eq_some_iff, Whole.isSigned_iff]
  constructor
  · rintro ⟨z, hz, hw⟩
    obtain rfl := hof z hw
    obtain ⟨hexact, -, hlt⟩ := (wholeOf?_eq_some_iff hop h).mp hz
    exact ⟨hlt, hexact⟩
  · rintro ⟨hlt, hexact⟩
    exact ⟨w.val, (wholeOf?_eq_some_iff hop h).mpr ⟨hexact, w.bounds.1, hlt⟩, w.ofInt?_val⟩

/-! ## Results on doubles -/

theorem exists_real? {op : BinaryOp} (hop : op.calculates = true) {a b : Whole}
    (h : op.Defined b) :
    ∃ r, real? op (Number.whole a).toReal (Number.whole b).toReal = some (some r) ∧
      IsNearest r (op.exact a.rounded b.rounded) := by
  have hlt := BinaryOp.abs_exact_lt_overflow (a := a) h
  cases op with
  | add =>
    obtain ⟨r, hr, hnear⟩ := Binary64.exists_add? hlt
    exact ⟨r, congrArg some hr, hnear⟩
  | subtract =>
    obtain ⟨r, hr, hnear⟩ := Binary64.exists_sub? hlt
    exact ⟨r, congrArg some hr, hnear⟩
  | multiply =>
    obtain ⟨r, hr, hnear⟩ := Binary64.exists_mul? hlt
    exact ⟨r, congrArg some hr, hnear⟩
  | divide =>
    have hone := Whole.one_le_abs_rounded (h rfl)
    have hne : b.rounded ≠ 0 := by
      intro hzero
      rw [hzero, abs_zero] at hone
      exact absurd hone (by norm_num)
    obtain ⟨r, hr, hnear⟩ := Binary64.exists_div? hne hlt
    exact ⟨r, congrArg some hr, hnear⟩
  | _ => cases hop

theorem realResult_eq {op : BinaryOp} (hop : op.calculates = true) {a b : Whole}
    (h : op.Defined b) : ∃ r, realResult op (.whole a) (.whole b) = .ok (.num (.real r)) ∧
      IsNearest r (op.exact a.rounded b.rounded) := by
  obtain ⟨r, hr, hnear⟩ := exists_real? hop (a := a) h
  refine ⟨r, ?_, hnear⟩
  have hzero : ¬ (op = .divide ∧ (Number.whole b).toReal.isZero = true) := by
    rintro ⟨hdivide, hzero⟩
    have hone := Whole.one_le_abs_rounded (h hdivide)
    have hvalue : b.rounded = 0 := (Binary64.isZero_iff _).mp hzero
    rw [hvalue, abs_zero] at hone
    exact absurd hone (by norm_num)
  rw [realResult, if_neg hzero, hr]

/-! ## Arithmetic -/

theorem arithmetic_zero {a b : Whole} (ha : a.isSigned = true) (hb : b.isSigned = true)
    (h : b.val = 0) :
    arithmetic .divide (.num (.whole a)) (.num (.whole b)) = .error .divisionByZero := by
  have hwhole : wholeResult? .divide (.whole a) (.whole b) = none := by
    rw [wholeResult?_eq ha hb]
    simp [wholeOf?, h]
  have hzero : (Number.whole b).toReal.isZero = true := by
    rw [Number.toReal, h]
    rfl
  simp only [arithmetic, hwhole, realResult, hzero, and_self, if_true]

theorem arithmetic_whole {op : BinaryOp} (hop : op.calculates = true) {a b w : Whole}
    (ha : a.isSigned = true) (hb : b.isSigned = true) (h : op.Defined b)
    (hw : w.isSigned = true) (hexact : op.exact a.val b.val = w.val) :
    arithmetic op (.num (.whole a)) (.num (.whole b)) = .ok (.num (.whole w)) := by
  have hwhole := (wholeResult?_eq_some_iff hop ha hb h).mpr ⟨hw, hexact⟩
  simp only [arithmetic, hwhole]

theorem arithmetic_real {op : BinaryOp} (hop : op.calculates = true) {a b : Whole}
    (ha : a.isSigned = true) (hb : b.isSigned = true) (h : op.Defined b)
    (hno : ∀ w : Whole, w.isSigned = true → op.exact a.val b.val ≠ w.val) :
    ∃ r, arithmetic op (.num (.whole a)) (.num (.whole b)) = .ok (.num (.real r)) ∧
      IsNearest r (op.exact a.rounded b.rounded) := by
  have hwhole : wholeResult? op (.whole a) (.whole b) = none := by
    rw [Option.eq_none_iff_forall_ne_some]
    intro w hw
    obtain ⟨hsigned, hexact⟩ := (wholeResult?_eq_some_iff hop ha hb h).mp hw
    exact hno w hsigned hexact
  obtain ⟨r, hr, hnear⟩ := realResult_eq hop (a := a) h
  refine ⟨r, ?_, hnear⟩
  simp only [arithmetic, hwhole, hr]

theorem eval_arithmetic {s : Scope} {op : BinaryOp} (hop : op.calculates = true) {x y : Expr}
    {v w : Json} (hx : x.eval s = .ok v) (hy : y.eval s = .ok w) :
    (binary op x y).eval s = arithmetic op v w := by
  cases op with
  | add | subtract | multiply | divide => exact eval_binary hx hy rfl
  | _ => cases hop

theorem eval_negate {s : Scope} {x : Expr} {v : Json} (hx : x.eval s = .ok v) :
    (negate x).eval s = arithmetic .subtract (Json.ofNat 0) v := by
  rw [eval, hx]
  rfl

/-- A whole result of two signed whole numbers is given as it is, every other one as the nearest
double; only division by zero has no result.  A minus gives the negative number, except for the
least number, whose negative is not signed. -/
theorem arithmetic_is_exact_or_nearest {s : Scope} {x y : Expr} {a b : Whole}
    (hx : x.eval s = .ok (.num (.whole a))) (hy : y.eval s = .ok (.num (.whole b)))
    (ha : a.isSigned = true) (hb : b.isSigned = true) :
    (∀ op : BinaryOp, op.calculates = true →
      (∀ w : Whole, w.isSigned = true → op.Defined b → op.exact a.val b.val = w.val →
        (binary op x y).eval s = .ok (.num (.whole w))) ∧
      ((∀ w : Whole, w.isSigned = true → op.exact a.val b.val ≠ w.val) → op.Defined b →
        ∃ r, (binary op x y).eval s = .ok (.num (.real r)) ∧
          IsNearest r (op.exact a.rounded b.rounded)) ∧
      ∀ error : EvalError, (binary op x y).eval s = .error error ↔
        error = .divisionByZero ∧ op = .divide ∧ b.val = 0) ∧
    EvalError.divisionByZero.message = "division by zero" ∧
    (a.val ≠ -2 ^ 63 → ∃ w : Whole, w.val = -a.val ∧
      (negate x).eval s = .ok (.num (.whole w))) ∧
    (a.val = -2 ^ 63 → ∃ r, (negate x).eval s = .ok (.num (.real r)) ∧
      IsNearest r (-a.rounded)) := by
  refine ⟨fun op hop => ?_, rfl, ?_, ?_⟩
  · rw [eval_arithmetic hop hx hy]
    refine ⟨fun w hw h => arithmetic_whole hop ha hb h hw,
      fun hno h => arithmetic_real hop ha hb h hno, fun error => ?_⟩
    constructor
    · intro herror
      by_cases h : op.Defined b
      · by_cases hw : ∃ w : Whole, w.isSigned = true ∧ op.exact a.val b.val = w.val
        · obtain ⟨w, hw, hexact⟩ := hw
          rw [arithmetic_whole hop ha hb h hw hexact] at herror
          cases herror
        · obtain ⟨r, hr, -⟩ := arithmetic_real hop ha hb h fun w hw' hexact => hw ⟨w, hw', hexact⟩
          rw [hr] at herror
          cases herror
      · obtain ⟨rfl, hzero⟩ : op = .divide ∧ b.val = 0 := by
          simpa [BinaryOp.Defined] using h
        rw [arithmetic_zero ha hb hzero] at herror
        cases herror
        exact ⟨rfl, rfl, hzero⟩
    · rintro ⟨rfl, rfl, hzero⟩
      exact arithmetic_zero ha hb hzero
  · intro hleast
    have hbounds := a.bounds
    have hlt := a.isSigned_iff.mp ha
    let w : Whole := ⟨-a.val, by omega⟩
    refine ⟨w, rfl, (eval_negate hx).trans ?_⟩
    refine arithmetic_whole rfl rfl ha (fun h => nomatch h) (w.isSigned_iff.mpr ?_) ?_
    · change -a.val < 2 ^ 63
      omega
    · simp [BinaryOp.exact, w]
  · intro hleast
    have hop : BinaryOp.subtract.calculates = true := rfl
    obtain ⟨r, hr, hnear⟩ := arithmetic_real (a := .zero) hop rfl ha
      (fun h => nomatch h) fun w hw hexact => by
        have hlt := w.isSigned_iff.mp hw
        have hval : w.val = -a.val := by
          simp only [BinaryOp.exact, Whole.zero, Int.cast_zero, zero_sub] at hexact
          exact_mod_cast hexact.symm
        omega
    refine ⟨r, (eval_negate hx).trans hr, ?_⟩
    rwa [BinaryOp.exact, Whole.rounded_zero, zero_sub] at hnear

/-- The least signed number can be halved, but neither divided by `-1` nor by zero; the quotient by
`-1` is a double, as is its negative. -/
theorem least_number_is_divided :
    (binary .divide (wholeLiteral ⟨-9223372036854775808, by decide⟩)
      (wholeLiteral ⟨2, by decide⟩)).eval emptyScope =
        .ok (.num (.whole ⟨-4611686018427387904, by decide⟩)) ∧
    (∃ r, (binary .divide (wholeLiteral ⟨-9223372036854775808, by decide⟩)
      (wholeLiteral ⟨-1, by decide⟩)).eval emptyScope = .ok (.num (.real r))) ∧
    (binary .divide (wholeLiteral ⟨-9223372036854775808, by decide⟩)
      (wholeLiteral ⟨0, by decide⟩)).eval emptyScope = .error .divisionByZero ∧
    ∃ r, (negate (wholeLiteral ⟨-9223372036854775808, by decide⟩)).eval emptyScope =
      .ok (.num (.real r)) := by
  have divided (b : Whole) (hb : b.isSigned = true) := arithmetic_is_exact_or_nearest
    (s := emptyScope) (x := wholeLiteral ⟨-9223372036854775808, by decide⟩)
    (y := wholeLiteral b) rfl rfl rfl hb
  refine ⟨?_, ?_, ?_, ?_⟩
  · exact ((divided ⟨2, by decide⟩ rfl).1 .divide rfl).1 _ rfl (fun _ => by decide)
      (by norm_num [BinaryOp.exact])
  · obtain ⟨r, hr, -⟩ := ((divided ⟨-1, by decide⟩ rfl).1 .divide rfl).2.1 (fun w hw hexact => by
      have hlt := w.isSigned_iff.mp hw
      have hval : (9223372036854775808 : ℤ) = w.val := by
        norm_num [BinaryOp.exact] at hexact
        exact_mod_cast hexact
      omega) fun _ => by decide
    exact ⟨r, hr⟩
  · exact (((divided ⟨0, by decide⟩ rfl).1 .divide rfl).2.2 _).mpr ⟨rfl, rfl, rfl⟩
  · obtain ⟨r, hr, -⟩ := (divided ⟨0, by decide⟩ rfl).2.2.2 rfl
    exact ⟨r, hr⟩

end Expr

end RuleBench
