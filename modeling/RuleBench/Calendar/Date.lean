import RuleBench.Text.Letter
import RuleBench.Text.Blank
import RuleBench.Text.Size

set_option autoImplicit false

/-!
# Calendar dates

Dates of the Gregorian calendar, carried on to all years from -262143 to 262142.  Years outside
`0000` to `9999` are written with a sign.
-/

namespace RuleBench.Calendar

def isLeap (year : Int) : Bool :=
  year % 4 == 0 && (year % 100 != 0 || year % 400 == 0)

def daysIn (year : Int) : Nat → Nat
  | 2 => if isLeap year then 29 else 28
  | 4 | 6 | 9 | 11 => 30
  | _ => 31

/-- The days that the calendar has. -/
def IsDate (year : Int) (month day : Nat) : Prop :=
  -262143 ≤ year ∧ year ≤ 262142 ∧ 1 ≤ month ∧ month ≤ 12 ∧ 1 ≤ day ∧ day ≤ daysIn year month

instance (year : Int) (month day : Nat) : Decidable (IsDate year month day) := by
  unfold IsDate; infer_instance

structure Date where
  year : Int
  month : Nat
  day : Nat
  valid : IsDate year month day
  deriving DecidableEq

namespace Date

def of? (year : Int) (month day : Nat) : Option Date :=
  if h : IsDate year month day then some ⟨year, month, day, h⟩ else none

instance : Inhabited Date := ⟨⟨1970, 1, 1, by decide⟩⟩

/-- The next day; the last one stays. -/
def next (d : Date) : Date :=
  ((of? d.year d.month (d.day + 1)).orElse fun _ =>
    (of? d.year (d.month + 1) 1).orElse fun _ => of? (d.year + 1) 1 1).getD d

/-- The day before; the first one stays. -/
def previous (d : Date) : Date :=
  ((of? d.year d.month (d.day - 1)).orElse fun _ =>
    (of? d.year (d.month - 1) (daysIn d.year (d.month - 1))).orElse fun _ =>
      of? (d.year - 1) 12 31).getD d

end Date

/-- A number with at least `width` digits. -/
def padded (width n : Nat) : List Char :=
  let digits := Nat.toDigits 10 n
  List.replicate (width - digits.length) '0' ++ digits

def yearText (year : Int) : List Char :=
  if 0 ≤ year ∧ year ≤ 9999 then padded 4 year.toNat
  else (if year < 0 then '-' else '+') :: padded 4 year.natAbs

def Date.text (d : Date) : List Char :=
  yearText d.year ++ '-' :: padded 2 d.month ++ '-' :: padded 2 d.day

/-- What can be wrong with the text of a date or an instant. -/
inductive Fault where
  | outOfRange
  | invalid
  | tooShort
  | tooLong
  deriving DecidableEq

def Fault.message : Fault → String
  | .outOfRange => "input is out of range"
  | .invalid => "input contains invalid characters"
  | .tooShort => "premature end of input"
  | .tooLong => "trailing input"

/-! ## Pieces of text -/

/-- Takes up to `most` digits, of which `least` must be there. -/
def takeDigits (least most : Nat) (n : Nat) : List Char → Except Fault (Nat × List Char)
  | [] => if least = 0 then .ok (n, []) else .error .invalid
  | c :: rest =>
    match most with
    | 0 => .ok (n, c :: rest)
    | most + 1 =>
      if Text.asciiDigit c then
        takeDigits (least - 1) most (10 * n + (c.toNat - '0'.toNat)) rest
      else if least = 0 then .ok (n, c :: rest)
      else .error .invalid

/-- A number of at least `least` and at most `most` digits, below `2^63`. -/
def number (least most : Nat) (s : List Char) : Except Fault (Nat × List Char) :=
  if Text.byteSize s < least then .error .tooShort
  else do
    let (n, rest) ← takeDigits least most 0 s
    if n < 0x8000000000000000 then return (n, rest) else .error .outOfRange

def character (c : Char) : List Char → Except Fault (List Char)
  | [] => .error .tooShort
  | d :: rest => if d = c then .ok rest else .error .invalid

/-- A number that must lie between two others. -/
def numberIn (low high least most : Nat) (s : List Char) :
    Except Fault (Nat × List Char) := do
  let (n, rest) ← number least most s
  if low ≤ n ∧ n ≤ high then return (n, rest) else .error .outOfRange

/-- A year: four digits at most, or any number of them after a sign. -/
def signedYear (s : List Char) : Except Fault (Int × List Char) :=
  match s with
  | '-' :: rest => do
    let (n, rest) ← number 1 rest.length rest
    year (-(n : Int)) rest
  | '+' :: rest => do
    let (n, rest) ← number 1 rest.length rest
    year n rest
  | s => do
    let (n, rest) ← number 1 4 s
    year n rest
where
  /-- Years that 32 bits can hold. -/
  year (n : Int) (rest : List Char) : Except Fault (Int × List Char) :=
    if -0x80000000 ≤ n ∧ n < 0x80000000 then .ok (n, rest) else .error .outOfRange

/-- A date as year, month and day with hyphens; blanks may precede each number. -/
def Date.parse (s : List Char) : Except Fault Date := do
  let (year, s) ← signedYear (Text.trimStart s)
  let s ← character '-' s
  let (month, s) ← numberIn 1 12 1 2 (Text.trimStart s)
  let s ← character '-' s
  let (day, s) ← numberIn 1 31 1 2 (Text.trimStart s)
  if s ≠ [] then .error .tooLong
  else
    match Date.of? year month day with
    | some d => .ok d
    | none => .error .outOfRange

end RuleBench.Calendar
