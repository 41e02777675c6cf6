import RuleBench.Calendar.Date

set_option autoImplicit false

/-!
# Instants

A date and a time of day as a clock shows them that runs ahead of UTC by some minutes, read and
written in the manner of RFC 3339.  A second that is counted twice, written `60`, is kept as the
second `59` with a thousand million nanoseconds more.
-/

namespace RuleBench.Calendar

structure Instant where
  date : Date
  /-- Seconds since midnight. -/
  second : Nat
  nanosecond : Nat
  /-- How far the clock is ahead of UTC, in seconds. -/
  offset : Int
  deriving DecidableEq

namespace Instant

def daySeconds : Nat := 86400

/-- The same instant on a clock that is `seconds` further ahead, by less than a day. -/
def shift (t : Instant) (seconds : Int) : Instant :=
  let s := (t.second : Int) + seconds
  if s < 0 then
    { t with
      date := t.date.previous, second := (s + daySeconds).toNat, offset := t.offset + seconds }
  else if daySeconds ≤ s then
    { t with
      date := t.date.next, second := (s - daySeconds).toNat, offset := t.offset + seconds }
  else { t with second := s.toNat, offset := t.offset + seconds }

def toUtc (t : Instant) : Instant := t.shift (-t.offset)

/-! ## Reading -/

/-- The nanoseconds that the digits after a point say; more than nine are ignored. -/
def nanoseconds (s : List Char) : Except Fault (Nat × List Char) := do
  let (n, rest) ← number 1 9 s
  return (n * Nat.pow 10 (9 - (s.length - rest.length)), rest.dropWhile Text.asciiDigit)

/-- Two digits, the first of them below `6`. -/
def offsetMinutes (s : List Char) : Except Fault (Nat × List Char) :=
  if Text.byteSize s < 2 then .error .tooShort
  else
    match s with
    | a :: b :: rest =>
      if Text.asciiDigit a && Text.asciiDigit b then
        if a < '6' then .ok (10 * (a.toNat - '0'.toNat) + (b.toNat - '0'.toNat), rest)
        else .error .outOfRange
      else .error .invalid
    | _ => .error .invalid

def offsetHours (s : List Char) : Except Fault (Nat × List Char) :=
  if Text.byteSize s < 2 then .error .tooShort
  else
    match s with
    | a :: b :: rest =>
      if Text.asciiDigit a && Text.asciiDigit b then
        .ok (10 * (a.toNat - '0'.toNat) + (b.toNat - '0'.toNat), rest)
      else .error .invalid
    | _ => .error .invalid

/-- Hours and minutes ahead of UTC, in seconds. -/
def offsetAfterSign (s : List Char) : Except Fault (Nat × List Char) := do
  let (hours, s) ← offsetHours s
  let s ← character ':' s
  let (minutes, s) ← offsetMinutes s
  return (hours * 3600 + minutes * 60, s)

/-- How far the clock is ahead of UTC; either minus sign will do. -/
def offsetPart (s : List Char) : Except Fault (Int × List Char) :=
  match s with
  | [] => .error .tooShort
  | 'Z' :: rest => .ok (0, rest)
  | 'z' :: rest => .ok (0, rest)
  | '+' :: rest => do
    let (n, rest) ← offsetAfterSign rest
    return (n, rest)
  | '-' :: rest => do
    let (n, rest) ← offsetAfterSign rest
    return (-(n : Int), rest)
  | '−' :: rest => do
    let (n, rest) ← offsetAfterSign rest
    return (-(n : Int), rest)
  | _ => .error .invalid

/-- A point and nanoseconds, or nothing. -/
def fractionPart (s : List Char) : Except Fault (Nat × List Char) :=
  match s with
  | '.' :: rest => nanoseconds rest
  | s => .ok (0, s)

/-- The greatest distance from UTC. -/
def offsetLimit : Nat := (23 * 60 + 59) * 60

/-- Two digits. -/
def twoDigits (s : List Char) : Except Fault (Nat × List Char) := takeDigits 2 2 0 s

/-- What separates date and time. -/
def isSeparator (c : Char) : Bool := c == 'T' || c == 't' || c == ' '

/-- One character of a kind. -/
def character? (p : Char → Bool) : List Char → Except Fault (List Char)
  | [] => .error .invalid
  | c :: rest => if p c then .ok rest else .error .invalid

/-- The time of day, from hours, minutes and seconds as written; the second `60` is allowed. -/
def timeOfDay? (hour minute second nanosecond : Nat) : Option (Nat × Nat) :=
  let (second, nanosecond) :=
    if second = 60 then (59, nanosecond + 1000000000) else (second, nanosecond)
  if hour < 24 ∧ minute < 60 ∧ second < 60 then
    some (hour * 3600 + minute * 60 + second, nanosecond)
  else none

def orOutOfRange {α : Type} : Option α → Except Fault α
  | some a => .ok a
  | none => .error .outOfRange

/-- Reads `YYYY-MM-DDThh:mm:ss`, then a fraction if any, then the distance from UTC. -/
def parse (s : List Char) : Except Fault Instant :=
  if Text.byteSize s < 19 then .error .tooShort
  else do
    let (year, s) ← takeDigits 4 4 0 s
    let s ← character? (· == '-') s
    let (month, s) ← twoDigits s
    let s ← character? (· == '-') s
    let (day, s) ← twoDigits s
    let date ← orOutOfRange (Date.of? year month day)
    let s ← character? isSeparator s
    let (hour, s) ← twoDigits s
    let s ← character? (· == ':') s
    let (minute, s) ← twoDigits s
    let s ← character? (· == ':') s
    let (second, s) ← twoDigits s
    let (fraction, s) ← fractionPart s
    let (second, nanosecond) ← orOutOfRange (timeOfDay? hour minute second fraction)
    let (offset, s) ← offsetPart s
    if offsetLimit < offset.natAbs then .error .outOfRange
    else if s ≠ [] then .error .tooLong
    else return ⟨date, second, nanosecond, offset⟩

/-! ## Writing -/

/-- How the fraction of a second is written. -/
inductive Precision where
  /-- Three digits. -/
  | milliseconds
  /-- As many of 0, 3, 6 and 9 digits as lose nothing. -/
  | exact

def fractionText (p : Precision) (nanosecond : Nat) : List Char :=
  match p with
  | .milliseconds => '.' :: padded 3 (nanosecond / 1000000)
  | .exact =>
    if nanosecond = 0 then []
    else if nanosecond % 1000000 = 0 then '.' :: padded 3 (nanosecond / 1000000)
    else if nanosecond % 1000 = 0 then '.' :: padded 6 (nanosecond / 1000)
    else '.' :: padded 9 nanosecond

def offsetText (zulu : Bool) (offset : Int) : List Char :=
  if zulu && offset = 0 then ['Z']
  else
    let minutes := offset.natAbs / 60
    (if offset < 0 then '-' else '+') :: padded 2 (minutes / 60) ++ ':' :: padded 2 (minutes % 60)

/-- `zulu` says whether UTC is written `Z`. -/
def text (p : Precision) (zulu : Bool) (t : Instant) : List Char :=
  let (second, nanosecond) :=
    if 1000000000 ≤ t.nanosecond then (t.second % 60 + 1, t.nanosecond - 1000000000)
    else (t.second % 60, t.nanosecond)
  t.date.text ++ 'T' :: padded 2 (t.second / 3600) ++ ':' :: padded 2 (t.second / 60 % 60) ++
    ':' :: padded 2 second ++ fractionText p nanosecond ++ offsetText zulu t.offset

/-- Milliseconds, and `Z` for UTC. -/
def stamp (t : Instant) : String := String.ofList (t.text .milliseconds true)

end Instant

end RuleBench.Calendar
