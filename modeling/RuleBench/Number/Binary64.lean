set_option autoImplicit false

/-!
# Finite doubles

A finite 64-bit binary floating-point number is kept as sign, significand and exponent in its one
normal form.  Everything is exact arithmetic on whole numbers followed by one rounding to nearest,
ties to even: reading decimal digits, the four operations, and conversion from whole numbers.  A
result too large to be finite is `none`.
-/

namespace RuleBench

/-- The value is `± mantissa * 2 ^ exponent`; only the smallest exponent allows fewer than 53 bits.
-/
structure Binary64 where
  negative : Bool
  mantissa : Nat
  exponent : Int
  normal : mantissa < 0x20000000000000 ∧ -1074 ≤ exponent ∧ exponent ≤ 971 ∧
    (0x10000000000000 ≤ mantissa ∨ exponent = -1074)
  deriving DecidableEq

namespace Binary64

def zero (negative : Bool) : Binary64 := ⟨negative, 0, -1074, by decide⟩

instance : Inhabited Binary64 := ⟨zero false⟩

def isZero (x : Binary64) : Bool := x.mantissa == 0

def neg (x : Binary64) : Binary64 := { x with negative := !x.negative }

/-- The whole number nearest to `num / den`; a tie goes to the even one. -/
def nearest (num den : Nat) : Nat :=
  let q := num / den
  let twice := 2 * (num % den)
  if twice < den then q else if den < twice then q + 1 else q + q % 2

/-- `num / den` in units of `2 ^ e`, rounded. -/
def nearestAt (num den : Nat) (e : Int) : Nat :=
  if e < 0 then nearest (num <<< (-e).toNat) den else nearest num (den <<< e.toNat)

/-- The exponent that gives `num / den` 53 bits, unless the smallest exponent gives it fewer. -/
def exponentFor (num den : Nat) : Int :=
  let e : Int := (Nat.log2 num : Int) - Nat.log2 den - 52
  let short := if e < 0 then num <<< (-e).toNat < den <<< 52 else num < den <<< (e.toNat + 52)
  max (if short then e - 1 else e) (-1074)

/-- Takes a significand that rounding may have carried to 54 bits. -/
def pack? (negative : Bool) (m : Nat) (e : Int) : Option Binary64 :=
  let (m, e) := if m = 0x20000000000000 then (0x10000000000000, e + 1) else (m, e)
  if h : m < 0x20000000000000 ∧ -1074 ≤ e ∧ e ≤ 971 ∧
      (0x10000000000000 ≤ m ∨ e = -1074) then
    some ⟨negative, m, e, h⟩
  else none

/-- The double nearest to `± num / den`, for `den ≠ 0`. -/
def ofRatio? (negative : Bool) (num den : Nat) : Option Binary64 :=
  if num = 0 then some (zero negative)
  else
    let e := exponentFor num den
    pack? negative (nearestAt num den e) e

/-- The double nearest to `± m * 2 ^ e`. -/
def ofScaled? (negative : Bool) (m : Nat) (e : Int) : Option Binary64 :=
  if e < 0 then ofRatio? negative m (1 <<< (-e).toNat) else ofRatio? negative (m <<< e.toNat) 1

/-- The double nearest to a whole number; `0` stands in for one beyond all doubles. -/
def ofInt (i : Int) : Binary64 := (ofRatio? (i < 0) i.natAbs 1).getD (zero false)

/-- The double nearest to `± digits * 10 ^ e`.  Beyond 400 digits either way the outcome is settled
without raising ten to the power. -/
def ofDecimal? (negative : Bool) (digits : Nat) (e : Int) : Option Binary64 :=
  if digits = 0 then some (zero negative)
  else if 400 < e then none
  else if e + (Nat.log2 digits : Int) < -1500 then some (zero negative)
  else if e < 0 then ofRatio? negative digits (Nat.pow 10 (-e).toNat)
  else ofRatio? negative (digits * Nat.pow 10 e.toNat) 1

/-- The significand with its sign, in units of `2 ^ e`, for `e` no greater than the exponent. -/
def unitsAt (x : Binary64) (e : Int) : Int :=
  let m : Int := (x.mantissa <<< (x.exponent - e).toNat : Nat)
  if x.negative then -m else m

def add? (x y : Binary64) : Option Binary64 :=
  let e := min x.exponent y.exponent
  let sum := x.unitsAt e + y.unitsAt e
  if sum = 0 then some (zero (x.negative && y.negative))
  else ofScaled? (sum < 0) sum.natAbs e

def sub? (x y : Binary64) : Option Binary64 := add? x y.neg

def mul? (x y : Binary64) : Option Binary64 :=
  ofScaled? (x.negative != y.negative) (x.mantissa * y.mantissa) (x.exponent + y.exponent)

/-- The quotient, for `y` not zero. -/
def div? (x y : Binary64) : Option Binary64 :=
  let e := x.exponent - y.exponent
  if e < 0 then ofRatio? (x.negative != y.negative) x.mantissa (y.mantissa <<< (-e).toNat)
  else ofRatio? (x.negative != y.negative) (x.mantissa <<< e.toNat) y.mantissa

/-- Grows with the value and is `0` for both zeros. -/
def rank (x : Binary64) : Int :=
  let r : Int := (x.exponent + 1074) * 0x20000000000000 + x.mantissa
  if x.negative then -r else r

/-- Equality as numbers: the two zeros are equal. -/
def same (x y : Binary64) : Bool := x.rank == y.rank

theorem same_refl (x : Binary64) : x.same x = true := by simp [same]

end Binary64

end RuleBench
