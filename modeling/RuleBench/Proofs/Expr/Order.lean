import Mathlib.Data.String.Basic
import RuleBench.Proofs.Expr.Equality

set_option autoImplicit false

/-!
# The order of values

Equality of values is an equivalence.  Numbers are ordered by value and strings by code points, and
one of less, equal and greater holds of any two; all other pairs have no order.
-/

namespace RuleBench

namespace BinaryOp

def isOrdering : BinaryOp → Bool
  | .less | .lessEqual | .greater | .greaterEqual => true
  | _ => false

theorem isComparison_of_isOrdering {op : BinaryOp} (h : op.isOrdering = true) :
    op.isComparison = true := by
  cases op <;> first | rfl | cases h

/-- What an operator says of values in this order. -/
def accepts (op : BinaryOp) (o : Ordering) : Bool :=
  match op with
  | .less => o == .lt
  | .lessEqual => o == .lt || o == .eq
  | .greater => o == .gt
  | .greaterEqual => o == .gt || o == .eq
  | _ => false

end BinaryOp

namespace Expr

inductive Comparable : Json → Json → Prop where
  | numbers (a b : Number) : Comparable (.num a) (.num b)
  | strings (s t : String) : Comparable (.str s) (.str t)

/-! ## One ordering of every two -/

theorem compare_str_eq_cmp (op : BinaryOp) (s t : String) :
    compare op (.str s) (.str t) = .ok (cmp s t) := rfl

theorem equal_num_eq_cmp (a b : Number) :
    equal (.num a) (.num b) = (cmp a.toReal.value b.toReal.value == .eq) := by
  rw [Bool.eq_iff_iff, beq_iff_eq, cmp_eq_eq_iff]
  exact Number.equal_iff a b

theorem equal_str_eq_cmp (s t : String) : equal (.str s) (.str t) = (cmp s t == .eq) := by
  rw [Bool.eq_iff_iff, beq_iff_eq, cmp_eq_eq_iff]
  exact beq_iff_eq

/-- What can be compared has one ordering, by which it is equal as well; the other way round it has
the opposite one. -/
theorem exists_ordering {v w : Json} (h : Comparable v w) :
    ∃ o : Ordering, (∀ op, compare op v w = .ok o) ∧ (∀ op, compare op w v = .ok o.swap) ∧
      equal v w = (o == .eq) := by
  cases h with
  | numbers a b =>
    refine ⟨_, fun op => compare_num_eq_cmp op a b, fun op => ?_, equal_num_eq_cmp a b⟩
    rw [cmp_swap, compare_num_eq_cmp]
  | strings s t =>
    refine ⟨_, fun op => compare_str_eq_cmp op s t, fun op => ?_, equal_str_eq_cmp s t⟩
    rw [cmp_swap, compare_str_eq_cmp]

theorem compare_of_not_comparable {v w : Json} (h : ¬ Comparable v w) (op : BinaryOp) :
    compare op v w = .error (.mismatch op (Kind.of v) (Kind.of w)) := by
  cases v with
  | num a =>
    cases w with
    | num b => exact absurd (.numbers a b) h
    | _ => rfl
  | str s =>
    cases w with
    | str t => exact absurd (.strings s t) h
    | _ => rfl
  | _ => rfl

theorem comparable_of_compare {op : BinaryOp} {v w : Json} {o : Ordering}
    (h : compare op v w = .ok o) : Comparable v w := by
  by_contra hno
  rw [compare_of_not_comparable hno] at h
  cases h

theorem compare_trans {op : BinaryOp} {u v w : Json} (h : compare op u v = .ok .lt)
    (g : compare op v w = .ok .lt) : compare op u w = .ok .lt := by
  cases comparable_of_compare h with
  | numbers a b =>
    cases comparable_of_compare g with
    | numbers _ c =>
      rw [compare_num_eq_cmp, Except.ok.injEq, cmp_eq_lt_iff] at h g ⊢
      exact h.trans g
  | strings r s =>
    cases comparable_of_compare g with
    | strings _ t =>
      rw [compare_str_eq_cmp, Except.ok.injEq, cmp_eq_lt_iff] at h g ⊢
      exact h.trans g

/-! ## What the operators say -/

/-- The operator says `b` of all operands with these values. -/
def Says (s : Scope) (op : BinaryOp) (v w : Json) (b : Bool) : Prop :=
  ∀ x y : Expr, x.eval s = .ok v → y.eval s = .ok w → (binary op x y).eval s = .ok (.bool b)

variable {s : Scope} {op : BinaryOp} {u v w : Json} {b : Bool}

theorem says_iff (h : op.isComparison = true) :
    Says s op v w b ↔ combine op v w = .ok (.bool b) := by
  refine ⟨fun hsays => ?_, fun hcombine x y hx hy => ?_⟩
  · rw [← eval_binary (s := s) (x := .literal v) (y := .literal w) rfl rfl
      (decided?_of_isComparison h v)]
    exact hsays _ _ rfl rfl
  · rw [eval_binary hx hy (decided?_of_isComparison h v), hcombine]

theorem says_equal_iff : Says s .equal v w b ↔ equal v w = b := by
  rw [says_iff rfl, combine, Except.ok.injEq, Json.bool.injEq]

theorem says_notEqual_iff : Says s .notEqual v w b ↔ (!equal v w) = b := by
  rw [says_iff rfl, combine, Except.ok.injEq, Json.bool.injEq]

theorem combine_of_isOrdering (h : op.isOrdering = true) (v w : Json) :
    combine op v w = (compare op v w).map fun o => .bool (op.accepts o) := by
  cases op with
  | less | greater => rfl
  | lessEqual | greaterEqual =>
    rw [combine]
    cases compare _ v w with
    | error f => rfl
    | ok o => cases o <;> rfl
  | _ => cases h

theorem says_of_compare {o : Ordering} (h : op.isOrdering = true) (ho : compare op v w = .ok o) :
    Says s op v w (op.accepts o) := by
  rw [says_iff (BinaryOp.isComparison_of_isOrdering h), combine_of_isOrdering h, ho]
  rfl

theorem says_less_true_iff : Says s .less v w true ↔ compare .less v w = .ok .lt := by
  rw [says_iff rfl, combine]
  cases compare .less v w <;> simp [Except.map]

/-- Equality is an equivalence on all values and never fails, and inequality denies it.  Of any two
numbers and any two strings exactly one of less, equal and greater holds, the weak comparisons hold
accordingly, and less is transitive.  Every other pair cannot be compared. -/
theorem comparisons_form_one_order (s : Scope) :
    Equivalence (Says s .equal · · true) ∧
    (∀ v w, ∃ b, Says s .equal v w b ∧ Says s .notEqual v w !b) ∧
    (∀ v w, Comparable v w → ∃ o : Ordering,
      Says s .less v w (o == .lt) ∧ Says s .equal v w (o == .eq) ∧
      Says s .greater v w (o == .gt) ∧ Says s .lessEqual v w (o == .lt || o == .eq) ∧
      Says s .greaterEqual v w (o == .gt || o == .eq) ∧ Says s .less w v (o == .gt)) ∧
    (∀ u v w, Says s .less u v true → Says s .less v w true → Says s .less u w true) ∧
    ∀ v w, ¬ Comparable v w → ∀ op : BinaryOp, op.isOrdering = true →
      ∀ x y : Expr, x.eval s = .ok v → y.eval s = .ok w →
        (binary op x y).eval s = .error (.mismatch op (Kind.of v) (Kind.of w)) := by
  refine ⟨⟨?_, ?_, ?_⟩, ?_, ?_, ?_, ?_⟩
  · intro v
    exact says_equal_iff.mpr (equal_refl v)
  · intro v w h
    exact says_equal_iff.mpr (equal_symm (says_equal_iff.mp h))
  · intro u v w h g
    exact says_equal_iff.mpr (equal_trans (says_equal_iff.mp h) (says_equal_iff.mp g))
  · intro v w
    exact ⟨equal v w, says_equal_iff.mpr rfl, says_notEqual_iff.mpr rfl⟩
  · intro v w h
    obtain ⟨o, ho, hswap, hequal⟩ := exists_ordering h
    have hback : (o.swap == .lt) = (o == .gt) := by cases o <;> rfl
    exact ⟨o, says_of_compare rfl (ho _), says_equal_iff.mpr hequal, says_of_compare rfl (ho _),
      says_of_compare rfl (ho _), says_of_compare rfl (ho _),
      hback ▸ says_of_compare rfl (hswap .less)⟩
  · intro u v w h g
    exact says_less_true_iff.mpr
      (compare_trans (says_less_true_iff.mp h) (says_less_true_iff.mp g))
  · intro v w h op hop x y hx hy
    have hdecided := decided?_of_isComparison (BinaryOp.isComparison_of_isOrdering hop) v
    rw [eval_binary hx hy hdecided, combine_of_isOrdering hop, compare_of_not_comparable h]
    rfl

/-- The greatest unsigned number. -/
def greatestWhole : Json := .num (.whole ⟨18446744073709551615, by decide⟩)

/-- A double stands between two whole numbers and is equal to a third; nothing compares with
nothing. -/
theorem mixed_numbers_are_ordered :
    Says emptyScope .less (Json.ofNat 0) realOne true ∧
    Says emptyScope .less realOne greatestWhole true ∧
    Says emptyScope .less (Json.ofNat 0) greatestWhole true ∧
    Says emptyScope .equal realOne wholeOne true ∧
    (binary .less (.literal .null) (.literal .null)).eval emptyScope =
      .error (.mismatch .less .empty .empty) := by
  obtain ⟨hequivalence, -, -, htrans, hno⟩ := comparisons_form_one_order emptyScope
  have hlow : Says emptyScope .less (Json.ofNat 0) realOne true := says_less_true_iff.mpr rfl
  have hhigh : Says emptyScope .less realOne greatestWhole true := says_less_true_iff.mpr rfl
  have hone : Says emptyScope .equal wholeOne realOne true := says_equal_iff.mpr rfl
  have hnull : ¬ Comparable .null .null := by
    intro h
    cases h
  exact ⟨hlow, hhigh, htrans _ _ _ hlow hhigh, hequivalence.symm hone,
    hno _ _ hnull .less rfl _ _ rfl rfl⟩

end Expr

end RuleBench
