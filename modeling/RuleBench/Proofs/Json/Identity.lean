import Mathlib.Data.List.Forall2
import RuleBench.Proofs.Json.Layout

set_option autoImplicit false

/-!
# Identical values

Values are identical that have the same structure and the same numbers in the same representation.
This is an equivalence.  It is finer than equality by value throughout, for which every number is
taken as its nearest double.
-/

namespace RuleBench

namespace Number

theorem identical_refl (a : Number) : a.identical a = true := by
  cases a with
  | whole w => exact beq_self_eq_true w.val
  | real x => exact x.same_refl

theorem identical_congr {a b : Number} (h : a.identical b = true) (c : Number) :
    a.identical c = b.identical c := by
  cases a with
  | whole v =>
    cases b with
    | whole w =>
      have hval : v.val = w.val := beq_iff_eq.mp h
      cases c with
      | whole u => simp only [identical, hval]
      | real z => rfl
    | real y => cases h
  | real x =>
    cases b with
    | whole w => cases h
    | real y =>
      have hrank : x.rank = y.rank := beq_iff_eq.mp h
      cases c with
      | whole u => rfl
      | real z => simp only [identical, Binary64.same, hrank]

theorem equal_of_identical {a b : Number} (h : a.identical b = true) : a.equal b = true := by
  cases a with
  | whole v =>
    cases b with
    | whole w =>
      have hval : v.val = w.val := beq_iff_eq.mp h
      rw [equal, toReal, toReal, hval]
      exact Binary64.same_refl _
    | real y => cases h
  | real x =>
    cases b with
    | whole w => cases h
    | real y => exact h

end Number

namespace Json

/-! ## Lists and objects, part by part -/

theorem identicalItems_iff {as bs : List Json} :
    identicalItems as bs = true ↔ List.Forall₂ (fun v w => v.identical w = true) as bs := by
  induction as generalizing bs with
  | nil => cases bs <;> simp [identicalItems]
  | cons v as ih => cases bs <;> simp [identicalItems, ih]

theorem identicalMembers_iff {ms ns : List (String × Json)} :
    identicalMembers ms ns = true ↔
      List.Forall₂ (fun m n => m.1 = n.1 ∧ m.2.identical n.2 = true) ms ns := by
  induction ms generalizing ns with
  | nil => cases ns <;> simp [identicalMembers]
  | cons m ms ih => cases ns <;> simp [identicalMembers, ih]

/-! ## An equivalence -/

theorem identical_refl (v : Json) : v.identical v = true := by
  induction v using Json.induct with
  | null => rfl
  | bool b => exact beq_self_eq_true b
  | num n => exact n.identical_refl
  | str s => exact beq_self_eq_true s
  | arr items ih => exact identicalItems_iff.mpr (List.forall₂_same.mpr ih)
  | obj members ih =>
    exact identicalMembers_iff.mpr (List.forall₂_same.mpr fun m hm => ⟨rfl, ih m hm⟩)

theorem identicalItems_congr {as bs : List Json}
    (h : List.Forall₂ (fun v w => ∀ u, v.identical u = w.identical u) as bs) (cs : List Json) :
    identicalItems as cs = identicalItems bs cs := by
  induction h generalizing cs with
  | nil => rfl
  | cons hvw _ ih => cases cs <;> simp only [identicalItems, hvw, ih]

theorem identicalMembers_congr {ms ns : List (String × Json)}
    (h : List.Forall₂ (fun m n => m.1 = n.1 ∧ ∀ u, m.2.identical u = n.2.identical u) ms ns)
    (os : List (String × Json)) : identicalMembers ms os = identicalMembers ns os := by
  induction h generalizing os with
  | nil => rfl
  | cons hmn _ ih => cases os <;> simp only [identicalMembers, hmn.1, hmn.2, ih]

/-- Identical values are identical to the same values. -/
theorem identical_congr {v w : Json} (h : v.identical w = true) (u : Json) :
    v.identical u = w.identical u := by
  -- with reflexivity this one induction gives symmetry and transitivity
  induction v using Json.induct generalizing w u with
  | null =>
    cases w with
    | null => rfl
    | _ => cases h
  | bool b =>
    cases w with
    | bool c =>
      obtain rfl : b = c := beq_iff_eq.mp h
      rfl
    | _ => cases h
  | num a =>
    cases w with
    | num b =>
      cases u with
      | num c => exact Number.identical_congr h c
      | _ => rfl
    | _ => cases h
  | str s =>
    cases w with
    | str t =>
      obtain rfl : s = t := beq_iff_eq.mp h
      rfl
    | _ => cases h
  | arr as ih =>
    cases w with
    | arr bs =>
      have hpairs := (List.forall₂_and_left _ _).mpr ⟨ih, identicalItems_iff.mp h⟩
      cases u with
      | arr cs => exact identicalItems_congr (hpairs.imp fun _ _ hvw => hvw.1 hvw.2) cs
      | _ => rfl
    | _ => cases h
  | obj ms ih =>
    cases w with
    | obj ns =>
      have hpairs := (List.forall₂_and_left _ _).mpr ⟨ih, identicalMembers_iff.mp h⟩
      cases u with
      | obj os =>
        exact identicalMembers_congr (hpairs.imp fun _ _ hmn => ⟨hmn.2.1, hmn.1 hmn.2.2⟩) os
      | _ => rfl
    | _ => cases h

/-! ## Equality by value throughout -/

mutual

/-- Every number as its nearest double. -/
def inDoubles : Json → Json
  | .num n => .num (.real n.toReal)
  | .arr items => .arr (itemsInDoubles items)
  | .obj members => .obj (membersInDoubles members)
  | other => other

def itemsInDoubles : List Json → List Json
  | [] => []
  | v :: rest => inDoubles v :: itemsInDoubles rest

def membersInDoubles : List (String × Json) → List (String × Json)
  | [] => []
  | (n, v) :: rest => (n, inDoubles v) :: membersInDoubles rest

end

theorem itemsInDoubles_eq (items : List Json) : itemsInDoubles items = items.map inDoubles := by
  induction items with
  | nil => rfl
  | cons v rest ih => rw [itemsInDoubles, ih, List.map_cons]

theorem membersInDoubles_eq (members : List (String × Json)) :
    membersInDoubles members = members.map fun m => (m.1, m.2.inDoubles) := by
  induction members with
  | nil => rfl
  | cons m rest ih => rw [membersInDoubles, ih, List.map_cons]

theorem identical_inDoubles {v w : Json} (h : v.identical w = true) :
    v.inDoubles.identical w.inDoubles = true := by
  induction v using Json.induct generalizing w with
  | num a =>
    cases w with
    | num b => exact Number.equal_of_identical h
    | _ => cases h
  | arr as ih =>
    cases w with
    | arr bs =>
      have hpairs := (List.forall₂_and_left _ _).mpr ⟨ih, identicalItems_iff.mp h⟩
      refine identicalItems_iff.mpr ?_
      rw [itemsInDoubles_eq, itemsInDoubles_eq, List.forall₂_map_left_iff,
        List.forall₂_map_right_iff]
      exact hpairs.imp fun _ _ hvw => hvw.1 hvw.2
    | _ => cases h
  | obj ms ih =>
    cases w with
    | obj ns =>
      have hpairs := (List.forall₂_and_left _ _).mpr ⟨ih, identicalMembers_iff.mp h⟩
      refine identicalMembers_iff.mpr ?_
      rw [membersInDoubles_eq, membersInDoubles_eq, List.forall₂_map_left_iff,
        List.forall₂_map_right_iff]
      exact hpairs.imp fun _ _ hmn => ⟨hmn.2.1, hmn.1 hmn.2.2⟩
    | _ => cases h
  | _ => cases w <;> exact h

end Json

end RuleBench
