set_option autoImplicit false

/-!
# UUIDs

Ids of 32 hexadecimal digits, of which one tells the version, 4, and one the variant.  All other
bits are those of a number; where it is drawn at random, so is the id.
-/

namespace RuleBench.Text

/-- The last hexadecimal digits of a number. -/
def lastDigits (n : Nat) : Nat → List Char
  | 0 => []
  | count + 1 => lastDigits (n / 16) count ++ [Nat.digitChar (n % 16)]

/-- The id of the last 122 bits of a number. -/
def uuid (n : Nat) : String :=
  let digits := lastDigits n 12
  let n := n >>> 48
  let clock := Nat.digitChar (8 + (n >>> 12) % 4) :: lastDigits n 3
  let n := n >>> 14
  let version := '4' :: lastDigits n 3
  let n := n >>> 12
  String.ofList (lastDigits (n >>> 16) 8 ++ '-' :: lastDigits n 4 ++ '-' :: version ++
    '-' :: clock ++ '-' :: digits)

end RuleBench.Text
