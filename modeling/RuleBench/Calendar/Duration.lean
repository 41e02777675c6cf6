set_option autoImplicit false

/-!
# Durations

A length of time in whole milliseconds, written in seconds if there is a whole one, and otherwise in
milliseconds.
-/

namespace RuleBench.Calendar

structure Duration where
  milliseconds : Nat
  deriving DecidableEq

namespace Duration

/-- Thousandths as digits after a point, without zeros at the end. -/
def fraction (thousandths : Nat) : String :=
  if thousandths = 0 then ""
  else
    let digits := Nat.toDigits 10 thousandths
    let all := List.replicate (3 - digits.length) '0' ++ digits
    String.ofList ('.' :: (all.reverse.dropWhile (· == '0')).reverse)

def text (d : Duration) : String :=
  if 1000 ≤ d.milliseconds then
    toString (d.milliseconds / 1000) ++ fraction (d.milliseconds % 1000) ++ "s"
  else if d.milliseconds = 0 then "0ns"
  else toString d.milliseconds ++ "ms"

end Duration

end RuleBench.Calendar
