import Mathlib.Order.Compare
import RuleBench.Expr.Eval
import RuleBench.Proofs.Number.Nearest

set_option autoImplicit false

/-!
# Comparison of whole numbers

Whole numbers are compared by their nearest doubles.  So a comparison never reverses an order and is
exact for numbers of up to 53 bits, but beyond them different numbers may count as equal.
-/

namespace RuleBench

open Binary64 (IsNearest)

namespace Whole

/-- The value of the nearest double. -/
def rounded (w : Whole) : ℚ := (Binary64.ofInt w.val).value

theorem abs_val_lt (w : Whole) : |(w.val : ℚ)| < 2 ^ 1023 := by
  have hw : |w.val| < 2 ^ 64 := by
    have hbounds := w.bounds
    rw [abs_lt]
    omega
  have hq : |(w.val : ℚ)| < 2 ^ 64 := by exact_mod_cast hw
  exact hq.trans (pow_lt_pow_right₀ one_lt_two (by norm_num))

theorem isNearest (w : Whole) : IsNearest (Binary64.ofInt w.val) w.val :=
  Binary64.isNearest_ofInt w.abs_val_lt

theorem rounded_mono {a b : Whole} (h : a.val < b.val) : a.rounded ≤ b.rounded :=
  a.isNearest.mono b.isNearest (by exact_mod_cast h)

theorem rounded_eq {w : Whole} (h : |w.val| ≤ 2 ^ 53) : w.rounded = w.val :=
  Binary64.value_ofInt h

end Whole

/-- What an operator says of two numbers. -/
def BinaryOp.Compares (op : BinaryOp) (p q : ℚ) : Prop :=
  match op with
  | .equal => p = q
  | .notEqual => p ≠ q
  | .less => p < q
  | .lessEqual => p ≤ q
  | .greater => q < p
  | .greaterEqual => q ≤ p
  | _ => False

def BinaryOp.isComparison : BinaryOp → Bool
  | .equal | .notEqual | .less | .lessEqual | .greater | .greaterEqual => true
  | _ => false

namespace Expr

theorem compare_num_eq_cmp (op : BinaryOp) (a b : Number) :
    compare op (.num a) (.num b) = .ok (cmp a.toReal.value b.toReal.value) := by
  simp only [compare, cmp, cmpUsing, Number.less_iff]

theorem compare_num (op : BinaryOp) (a b : Number) :
    ∃ o, compare op (.num a) (.num b) = .ok o ∧
      (o = .lt ↔ a.toReal.value < b.toReal.value) ∧
      (o = .gt ↔ b.toReal.value < a.toReal.value) :=
  ⟨_, compare_num_eq_cmp op a b, cmp_eq_lt_iff _ _, cmp_eq_gt_iff _ _⟩

/-- Numbers are compared by the values of their nearest doubles. -/
theorem combine_num {op : BinaryOp} (h : op.isComparison = true) (a b : Number) :
    ∃ r, combine op (.num a) (.num b) = .ok (.bool r) ∧
      (r = true ↔ op.Compares a.toReal.value b.toReal.value) := by
  have hequal := Number.equal_iff a b
  obtain ⟨o, ho, hlt, hgt⟩ := compare_num op a b
  cases op with
  | equal => exact ⟨_, rfl, hequal⟩
  | notEqual =>
    refine ⟨_, rfl, ?_⟩
    rw [Bool.not_eq_true', ← Bool.not_eq_true]
    exact not_congr hequal
  | less => exact ⟨o == .lt, by rw [combine, ho]; rfl, by rw [beq_iff_eq]; exact hlt⟩
  | greater => exact ⟨o == .gt, by rw [combine, ho]; rfl, by rw [beq_iff_eq]; exact hgt⟩
  | lessEqual =>
    refine ⟨o != .gt, by rw [combine, ho]; rfl, ?_⟩
    rw [bne_iff_ne]
    exact (not_congr hgt).trans not_lt
  | greaterEqual =>
    refine ⟨o != .lt, by rw [combine, ho]; rfl, ?_⟩
    rw [bne_iff_ne]
    exact (not_congr hlt).trans not_lt
  | _ => cases h

theorem eval_binary {s : Scope} {op : BinaryOp} {x y : Expr} {v w : Json} (hx : x.eval s = .ok v)
    (hy : y.eval s = .ok w) (hdecided : decided? op v = .ok none) :
    (binary op x y).eval s = combine op v w := by
  rw [eval, hx, hy]
  simp only [bind, Except.bind, hdecided]

theorem decided?_of_isComparison {op : BinaryOp} (h : op.isComparison = true) (v : Json) :
    decided? op v = .ok none := by
  cases op <;> first | rfl | cases h

theorem eval_comparison {s : Scope} {op : BinaryOp} (h : op.isComparison = true) {x y : Expr}
    {a b : Whole} (hx : x.eval s = .ok (.num (.whole a))) (hy : y.eval s = .ok (.num (.whole b))) :
    ∃ r, (binary op x y).eval s = .ok (.bool r) ∧ (r = true ↔ op.Compares a.rounded b.rounded) := by
  rw [eval_binary hx hy (decided?_of_isComparison h _)]
  exact combine_num h _ _

theorem eval_contains {s : Scope} {x y : Expr} {items : List Whole} {b : Whole}
    (hx : x.eval s = .ok (.arr (items.map fun w => .num (.whole w))))
    (hy : y.eval s = .ok (.num (.whole b))) :
    ∃ r, (binary .contains x y).eval s = .ok (.bool r) ∧
      (r = true ↔ ∃ w ∈ items, w.rounded = b.rounded) := by
  refine ⟨_, by rw [eval_binary hx hy rfl]; rfl, ?_⟩
  rw [List.any_map, List.any_eq_true]
  exact exists_congr fun w => and_congr_right fun _ => Number.equal_iff (.whole w) (.whole b)

/-- Whole numbers are compared, and looked for in a list, by their nearest doubles.  This does not
reverse their order, and is exact up to 53 bits. -/
theorem wholes_compare_by_nearest_doubles {s : Scope} {x y : Expr} {a b : Whole}
    (hx : x.eval s = .ok (.num (.whole a))) (hy : y.eval s = .ok (.num (.whole b))) :
    (IsNearest (Binary64.ofInt a.val) a.val ∧ IsNearest (Binary64.ofInt b.val) b.val) ∧
    (∀ op : BinaryOp, op.isComparison = true →
      ∃ r, (binary op x y).eval s = .ok (.bool r) ∧
        (r = true ↔ op.Compares a.rounded b.rounded) ∧
        (|a.val| ≤ 2 ^ 53 → |b.val| ≤ 2 ^ 53 → (r = true ↔ op.Compares a.val b.val))) ∧
    ((binary .less x y).eval s = .ok (.bool true) → a.val < b.val) ∧
    (a.val = b.val → (binary .equal x y).eval s = .ok (.bool true)) ∧
    ∀ (z : Expr) (items : List Whole),
      z.eval s = .ok (.arr (items.map fun w => .num (.whole w))) →
      ∃ r, (binary .contains z y).eval s = .ok (.bool r) ∧
        (r = true ↔ ∃ w ∈ items, w.rounded = b.rounded) := by
  refine ⟨⟨a.isNearest, b.isNearest⟩, ?_, ?_, ?_, fun z items hz => eval_contains hz hy⟩
  · intro op hop
    obtain ⟨r, hr, hcompares⟩ := eval_comparison hop hx hy
    refine ⟨r, hr, hcompares, fun ha hb => ?_⟩
    rw [hcompares, Whole.rounded_eq ha, Whole.rounded_eq hb]
  · intro hless
    obtain ⟨r, hr, hcompares⟩ :=
      eval_comparison (show BinaryOp.less.isComparison = true from rfl) hx hy
    rw [hr] at hless
    obtain rfl : r = true := by simpa using hless
    have hlt : a.rounded < b.rounded := hcompares.mp rfl
    by_contra hno
    rcases (not_lt.mp hno).lt_or_eq with h | h
    · exact hlt.not_ge (Whole.rounded_mono h)
    · exact hlt.ne (by rw [Whole.rounded, Whole.rounded, h])
  · intro heq
    obtain ⟨r, hr, hcompares⟩ :=
      eval_comparison (show BinaryOp.equal.isComparison = true from rfl) hx hy
    have hrounded : a.rounded = b.rounded := by rw [Whole.rounded, Whole.rounded, heq]
    rw [hr, hcompares.mpr hrounded]

/-- A scope in which nothing has a name. -/
def emptyScope : Scope where
  current := .null
  previous := .null
  locals := []
  now := ⟨default, 0, 0, 0⟩
  today := default

def wholeLiteral (w : Whole) : Expr := .literal (.num (.whole w))

/-- The greatest two numbers that comparison is exact for. -/
theorem wholes_of_53_bits_are_told_apart :
    (binary .less (wholeLiteral ⟨9007199254740991, by decide⟩)
      (wholeLiteral ⟨9007199254740992, by decide⟩)).eval emptyScope = .ok (.bool true) := by
  have h := wholes_compare_by_nearest_doubles (s := emptyScope)
    (x := wholeLiteral ⟨9007199254740991, by decide⟩)
    (y := wholeLiteral ⟨9007199254740992, by decide⟩) rfl rfl
  obtain ⟨r, hr, -, hexact⟩ := h.2.1 .less rfl
  rw [hr, (hexact (by norm_num) (by norm_num)).mpr (by simp only [BinaryOp.Compares]; norm_num)]

/-- The next number counts as equal to the last of these, as not greater, and as found in a list of
that one alone. -/
theorem adjacent_wholes_count_as_equal :
    (binary .equal (wholeLiteral ⟨9007199254740993, by decide⟩)
      (wholeLiteral ⟨9007199254740992, by decide⟩)).eval emptyScope = .ok (.bool true) ∧
    (binary .greater (wholeLiteral ⟨9007199254740993, by decide⟩)
      (wholeLiteral ⟨9007199254740992, by decide⟩)).eval emptyScope = .ok (.bool false) ∧
    (binary .contains (.literal (.arr [.num (.whole ⟨9007199254740992, by decide⟩)]))
      (wholeLiteral ⟨9007199254740993, by decide⟩)).eval emptyScope = .ok (.bool true) ∧
    (9007199254740993 : ℤ) ≠ 9007199254740992 :=
  ⟨rfl, rfl, rfl, by decide⟩

end Expr

end RuleBench
