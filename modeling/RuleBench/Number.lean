import RuleBench.Number.Binary64
import RuleBench.Number.Shortest

set_option autoImplicit false

/-!
# Numbers

A number is whole, from `-2^63` to `2^64 - 1`, or a double.  Two numbers are the same representation
only if they are of one kind; they are equal as numbers when their nearest doubles are.
-/

namespace RuleBench

/-- A whole number that 64 bits can hold, signed or unsigned. -/
structure Whole where
  val : Int
  bounds : -0x8000000000000000 ≤ val ∧ val < 0x10000000000000000
  deriving DecidableEq

namespace Whole

def ofInt? (i : Int) : Option Whole :=
  if h : -0x8000000000000000 ≤ i ∧ i < 0x10000000000000000 then some ⟨i, h⟩ else none

theorem ofInt?_val (w : Whole) : ofInt? w.val = some w := by
  simp only [ofInt?, w.bounds, and_self, dite_true]

/-- Below `2^63`, so that signed arithmetic applies. -/
def isSigned (w : Whole) : Bool := w.val < 0x8000000000000000

end Whole

inductive Number where
  | whole (w : Whole)
  | real (x : Binary64)
  deriving DecidableEq

namespace Number

instance : Inhabited Number := ⟨.whole ⟨0, by decide⟩⟩

def ofNat (n : Nat) : Number :=
  match Whole.ofInt? n with
  | some w => .whole w
  | none => .real (Binary64.ofInt n)

/-- The nearest double. -/
def toReal : Number → Binary64
  | .whole w => Binary64.ofInt w.val
  | .real x => x

/-- The value, if it is whole and signed. -/
def signed? : Number → Option Int
  | .whole w => if w.isSigned then some w.val else none
  | .real _ => none

/-- Same kind and same value; the two zero doubles count as one. -/
def identical : Number → Number → Bool
  | .whole a, .whole b => a.val == b.val
  | .real x, .real y => x.same y
  | _, _ => false

/-- Equality of the nearest doubles. -/
def equal (a b : Number) : Bool := a.toReal.same b.toReal

def less (a b : Number) : Bool := a.toReal.rank < b.toReal.rank

def text : Number → List Char
  | .whole w => (if w.val < 0 then ['-'] else []) ++ Nat.toDigits 10 w.val.natAbs
  | .real x => x.text

end Number

end RuleBench
