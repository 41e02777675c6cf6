import RuleBench.Number.Binary64

set_option autoImplicit false

/-!
# Shortest decimal text of a double

The fewest digits that read back as the same double, and of those the nearest to it.  The reals that
round to a double form an interval, with its ends when the significand is even.  A grid of decimals
that meets the interval meets it at one of the two grid points around the value, so looking at those
two for one digit, two digits and so on finds the shortest.
-/

namespace RuleBench.Binary64

/-- The value and the ends of its rounding interval as `_ / den`. -/
structure Interval where
  low : Nat
  value : Nat
  high : Nat
  den : Nat
  closed : Bool

/-- In units of a quarter of the last place, since below a power of two the spacing is halved. -/
def interval (x : Binary64) : Interval :=
  let e := x.exponent - 2
  let scale := if e < 0 then 1 else 1 <<< e.toNat
  let narrow := x.mantissa = 0x10000000000000 && -1074 < x.exponent
  { low := (4 * x.mantissa - if narrow then 1 else 2) * scale
    value := 4 * x.mantissa * scale
    high := (4 * x.mantissa + 2) * scale
    den := if e < 0 then 1 <<< (-e).toNat else 1
    closed := x.mantissa % 2 == 0 }

namespace Interval

/-- Whether `digits * 10 ^ p` lies in the interval. -/
def holds (i : Interval) (digits : Nat) (p : Int) : Bool :=
  let point := if p < 0 then digits * i.den else digits * i.den * Nat.pow 10 p.toNat
  let unit := if p < 0 then Nat.pow 10 (-p).toNat else 1
  if i.closed then i.low * unit ≤ point && point ≤ i.high * unit
  else i.low * unit < point && point < i.high * unit

/-- The grid point `q * 10 ^ p` just below the value, and whether the one above is nearer; a tie
goes to the even one. -/
def below (i : Interval) (p : Int) : Nat × Bool :=
  let num := if p < 0 then i.value * Nat.pow 10 (-p).toNat else i.value
  let den := if p < 0 then i.den else i.den * Nat.pow 10 p.toNat
  let q := num / den
  let twice := 2 * (num % den)
  (q, den < twice || (den == twice && q % 2 == 1))

/-- The point of the grid `10 ^ p` to write, if the grid meets the interval. -/
def pick? (i : Interval) (p : Int) : Option Nat :=
  let (q, upper) := i.below p
  match i.holds q p, i.holds (q + 1) p with
  | true, true => some (if upper then q + 1 else q)
  | true, false => some q
  | false, true => some (q + 1)
  | false, false => none

/-- Looks through the grids of `tries` more digits, the coarsest first. -/
def search (i : Interval) (p : Int) : Nat → Nat × Int
  | 0 => ((i.below p).1, p)
  | tries + 1 =>
    match i.pick? p with
    | some digits => (digits, p)
    | none => search i (p - 1) tries

/-- The exponent of the leading digit: the greatest `k ≤ guess` with `10 ^ k` not above the value,
looked for in a few steps down. -/
def leading (i : Interval) (guess : Int) : Nat → Int
  | 0 => guess
  | steps + 1 => if (i.below guess).1 = 0 then leading i (guess - 1) steps else guess

end Interval

/-- Drops zeros at the end, counting them into the exponent. -/
def stripZeros (digits : Nat) (p : Int) : Nat → Nat × Int
  | 0 => (digits, p)
  | fuel + 1 =>
    if digits % 10 = 0 && digits ≠ 0 then stripZeros (digits / 10) (p + 1) fuel else (digits, p)

/-- The shortest decimal of a double that is not zero: digits, and the power of ten of the last. -/
def shortest (x : Binary64) : Nat × Int :=
  let i := x.interval
  let guess : Int := (Nat.log2 (max 1 x.mantissa) + x.exponent + 1) * 30103 / 100000 + 1
  let lead := i.leading guess 4
  let (digits, p) := i.search lead 17
  stripZeros digits p 20

/-- How doubles are written: plainly while the leading digit stands for `10 ^ plainFrom` up to
`10 ^ plainTo`, else with an exponent. -/
structure Style where
  plainFrom : Int
  plainTo : Int

/-- Plain from `0.00001` to below `1e+16`. -/
def style : Style := ⟨-5, 15⟩

/-- `d.ddd` from its digits. -/
def pointAfterFirst : List Char → List Char
  | [] => []
  | [d] => [d]
  | d :: more => d :: '.' :: more

def writePlain (digits : List Char) (lead : Int) : List Char :=
  if lead < 0 then
    ['0', '.'] ++ List.replicate (-lead - 1).toNat '0' ++ digits
  else
    let whole := lead.toNat + 1
    let fraction := digits.drop whole
    digits.take whole ++ List.replicate (whole - digits.length) '0' ++ '.' ::
      (if fraction.isEmpty then ['0'] else fraction)

def writeScientific (digits : List Char) (lead : Int) : List Char :=
  pointAfterFirst digits ++ 'e' :: (if lead < 0 then '-' else '+') :: Nat.toDigits 10 lead.natAbs

/-- The text of a double; a whole one keeps one digit after the point, and a zero its sign. -/
def text (x : Binary64) : List Char :=
  let sign := if x.negative then ['-'] else []
  if x.isZero then sign ++ ['0', '.', '0']
  else
    let (n, p) := x.shortest
    let digits := Nat.toDigits 10 n
    let lead := p + digits.length - 1
    sign ++ if style.plainFrom ≤ lead && lead ≤ style.plainTo then writePlain digits lead
      else writeScientific digits lead

end RuleBench.Binary64
