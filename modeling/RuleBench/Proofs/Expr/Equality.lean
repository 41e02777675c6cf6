import RuleBench.Proofs.Expr.Comparison
import RuleBench.Proofs.Json.Identity

set_option autoImplicit false

/-!
# Equality of values

Two numbers are equal by value, but other values only if they are identical.  So a number inside a
list or an object is not equal there to one of the same value in another representation.
-/

namespace RuleBench

namespace Expr

theorem equal_of_not_num {v w : Json} (h : ¬ ∃ a b, v = .num a ∧ w = .num b) :
    equal v w = v.identical w := by
  cases v with
  | num a =>
    cases w with
    | num b => exact absurd ⟨a, b, rfl, rfl⟩ h
    | _ => rfl
  | _ => rfl

theorem equal_of_identical {v w : Json} (h : v.identical w = true) : equal v w = true := by
  by_cases hnum : ∃ a b, v = .num a ∧ w = .num b
  · obtain ⟨a, b, rfl, rfl⟩ := hnum
    exact Number.equal_of_identical h
  · rwa [equal_of_not_num hnum]

theorem equal_refl (v : Json) : equal v v = true := equal_of_identical v.identical_refl

/-- Equal values are equal to the same values. -/
theorem equal_congr {v w : Json} (h : equal v w = true) (u : Json) : equal v u = equal w u := by
  by_cases hnum : ∃ a b, v = .num a ∧ w = .num b
  · obtain ⟨a, b, rfl, rfl⟩ := hnum
    have hrank : a.toReal.rank = b.toReal.rank := beq_iff_eq.mp h
    cases u with
    | num c => simp only [equal, Number.equal, Binary64.same, hrank]
    | _ => rfl
  · rw [equal_of_not_num hnum] at h
    have hv : ¬ ∃ a c, v = .num a ∧ u = .num c := by
      rintro ⟨a, -, rfl, -⟩
      cases w with
      | num b => exact hnum ⟨a, b, rfl, rfl⟩
      | _ => cases h
    have hw : ¬ ∃ b c, w = .num b ∧ u = .num c := by
      rintro ⟨b, -, rfl, -⟩
      cases v with
      | num a => exact hnum ⟨a, b, rfl, rfl⟩
      | _ => cases h
    rw [equal_of_not_num hv, equal_of_not_num hw]
    exact Json.identical_congr h u

theorem equal_symm {v w : Json} (h : equal v w = true) : equal w v = true :=
  (equal_congr h v).symm.trans (equal_refl v)

theorem equal_trans {u v w : Json} (h : equal u v = true) (g : equal v w = true) :
    equal u w = true :=
  (equal_congr h w).trans g

/-! ## Inside lists and objects -/

/-- Values that are equal are equal by value throughout; the converse holds of numbers, and of
values that are identical. -/
theorem equal_iff (v w : Json) :
    equal v w = true ↔ v.inDoubles.identical w.inDoubles = true ∧
      ((∃ a b, v = .num a ∧ w = .num b) ∨ v.identical w = true) := by
  by_cases hnum : ∃ a b, v = .num a ∧ w = .num b
  · simp only [hnum, true_or, and_true]
    obtain ⟨a, b, rfl, rfl⟩ := hnum
    rfl
  · rw [equal_of_not_num hnum, or_iff_right hnum]
    exact ⟨fun h => ⟨Json.identical_inDoubles h, h⟩, fun h => h.2⟩

/-- If both are numbers, they are in one representation. -/
def WrittenAlike (v w : Json) : Prop := ∀ a b, v = .num a → w = .num b → a.identical b = true

theorem identical_iff_writtenAlike {v w : Json} (h : equal v w = true) :
    v.identical w = true ↔ WrittenAlike v w := by
  by_cases hnum : ∃ a b, v = .num a ∧ w = .num b
  · obtain ⟨a, b, rfl, rfl⟩ := hnum
    refine ⟨?_, fun halike => halike a b rfl rfl⟩
    rintro hab _ _ ⟨⟩ ⟨⟩
    exact hab
  · rw [equal_of_not_num hnum] at h
    exact iff_of_true h fun a b ha hb => absurd ⟨a, b, ha, hb⟩ hnum

/-- Lists of equal items are equal where all numbers among the items are in one representation. -/
theorem equal_arr_iff {as bs : List Json} (h : List.Forall₂ (fun v w => equal v w = true) as bs) :
    equal (.arr as) (.arr bs) = true ↔ List.Forall₂ WrittenAlike as bs := by
  refine Json.identicalItems_iff.trans ?_
  induction h with
  | nil => exact iff_of_true .nil .nil
  | cons hvw _ ih =>
    rw [List.forall₂_cons, List.forall₂_cons, identical_iff_writtenAlike hvw, ih]

theorem equal_obj_iff {ms ns : List (String × Json)}
    (h : List.Forall₂ (fun m n => m.1 = n.1 ∧ equal m.2 n.2 = true) ms ns) :
    equal (.obj ms) (.obj ns) = true ↔
      List.Forall₂ (fun m n => WrittenAlike m.2 n.2) ms ns := by
  refine Json.identicalMembers_iff.trans ?_
  induction h with
  | nil => exact iff_of_true .nil .nil
  | cons hmn _ ih =>
    rw [List.forall₂_cons, List.forall₂_cons, identical_iff_writtenAlike hmn.2, ih,
      and_iff_right hmn.1]

/-- Of values other than two numbers, equality looks at the representation of every number inside:
lists of items that are equal one by one are equal exactly if numbers among the items are in one
representation, and so are objects with their members. -/
theorem nested_numbers_compare_by_representation {s : Scope} {x y : Expr} {v w : Json}
    (hx : x.eval s = .ok v) (hy : y.eval s = .ok w) :
    (binary .equal x y).eval s = .ok (.bool (equal v w)) ∧
    (equal v w = true ↔ v.inDoubles.identical w.inDoubles = true ∧
      ((∃ a b, v = .num a ∧ w = .num b) ∨ v.identical w = true)) ∧
    (∀ as bs, v = .arr as → w = .arr bs → List.Forall₂ (fun a b => equal a b = true) as bs →
      (equal v w = true ↔ List.Forall₂ WrittenAlike as bs)) ∧
    ∀ ms ns, v = .obj ms → w = .obj ns →
      List.Forall₂ (fun m n => m.1 = n.1 ∧ equal m.2 n.2 = true) ms ns →
      (equal v w = true ↔ List.Forall₂ (fun m n => WrittenAlike m.2 n.2) ms ns) := by
  refine ⟨eval_binary hx hy rfl, equal_iff v w, ?_, ?_⟩
  · rintro as bs rfl rfl h
    exact equal_arr_iff h
  · rintro ms ns rfl rfl h
    exact equal_obj_iff h

/-- The number one. -/
def wholeOne : Json := .num (.whole ⟨1, by decide⟩)

/-- The same number, written with a fraction. -/
def realOne : Json := .num (.real ⟨false, 0x10000000000000, -52, by decide⟩)

/-- Two numbers, the second of them inside a list, where its representation is the same. -/
def pairWith (first : Json) : List Json := [first, .arr [realOne]]

/-- The lists are equal item by item, but the first item is in two representations. -/
theorem lists_differ_in_one_representation :
    List.Forall₂ (fun a b => equal a b = true) (pairWith wholeOne) (pairWith realOne) ∧
    (binary .equal (.literal (.arr (pairWith wholeOne)))
      (.literal (.arr (pairWith realOne)))).eval emptyScope = .ok (.bool false) := by
  have hitems : List.Forall₂ (fun a b => equal a b = true) (pairWith wholeOne)
      (pairWith realOne) := .cons rfl (.cons rfl .nil)
  obtain ⟨heval, -, hlists, -⟩ := nested_numbers_compare_by_representation (s := emptyScope)
    (x := .literal (.arr (pairWith wholeOne))) (y := .literal (.arr (pairWith realOne))) rfl rfl
  have hno : ¬ equal (.arr (pairWith wholeOne)) (.arr (pairWith realOne)) = true := by
    rw [hlists _ _ rfl rfl hitems]
    intro halike
    have hone := (List.forall₂_cons.mp halike).1 _ _ rfl rfl
    cases hone
  rw [Bool.eq_false_of_not_eq_true hno] at heval
  exact ⟨hitems, heval⟩

/-- A record with the two numbers, each alone, in a list and in an object. -/
def twoOnes : Scope where
  current := .obj [("A", .arr [wholeOne]), ("B", .arr [realOne]), ("C", .obj [("k", wholeOne)]),
    ("D", .obj [("k", realOne)]), ("E", wholeOne), ("F", realOne)]
  previous := .null
  locals := []
  now := emptyScope.now
  today := emptyScope.today

/-- One and the same number is equal to itself and found in a list, whatever its representation, but
neither lists nor objects of it are equal. -/
theorem lists_of_equal_numbers_are_not_equal :
    (binary .equal (.field "E") (.field "F")).eval twoOnes = .ok (.bool true) ∧
    (binary .contains (.field "A") (.field "F")).eval twoOnes = .ok (.bool true) ∧
    (binary .equal (.field "A") (.field "B")).eval twoOnes = .ok (.bool false) ∧
    (binary .equal (.field "C") (.field "D")).eval twoOnes = .ok (.bool false) :=
  ⟨rfl, rfl, rfl, rfl⟩

end Expr

end RuleBench
