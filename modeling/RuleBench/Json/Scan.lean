import RuleBench.Json.Fault
import RuleBench.Text.Letter

set_option autoImplicit false

/-!
# Scanning a JSON text

A scan moves a cursor along a text and either yields a value or fails.  A failure keeps the cursor
where it was, because what encloses the failing part still looks for its own end before the fault is
given a place.

A text that comes byte by byte from a file differs in one respect: a byte that has been looked at
has already been drawn, so places lie one byte further on until it is taken.
-/

namespace RuleBench.Json

structure Cursor where
  rest : List Char
  line : Nat
  column : Nat
  /-- The text is drawn byte by byte. -/
  drawn : Bool
  /-- The next byte has been looked at and not taken. -/
  ahead : Bool

abbrev Scan := EStateM Fault Cursor

namespace Cursor

def start (text : List Char) (drawn : Bool) : Cursor := ⟨text, 1, 0, drawn, false⟩

/-- The place one byte further on. -/
def nextPlace (c : Cursor) : Place :=
  match c.rest with
  | [] => ⟨c.line, c.column⟩
  | '\n' :: _ => ⟨c.line + 1, 0⟩
  | _ :: _ => ⟨c.line, c.column + 1⟩

def place (c : Cursor) : Place :=
  if c.drawn && c.ahead then c.nextPlace else ⟨c.line, c.column⟩

/-- The cursor after one character. -/
def advance (c : Cursor) : Cursor :=
  match c.rest with
  | [] => c
  | '\n' :: rest => { c with rest, line := c.line + 1, column := 0, ahead := false }
  | ch :: rest => { c with rest, column := c.column + ch.utf8Size, ahead := false }

def isSpace (c : Char) : Bool := c == ' ' || c == '\n' || c == '\t' || c == '\r'

/-- The line and column after the blanks that `text` starts with, and what follows them. -/
def afterSpaces (line column : Nat) : List Char → List Char × Nat × Nat
  | [] => ([], line, column)
  | c :: rest =>
    if c == '\n' then afterSpaces (line + 1) 0 rest
    else if isSpace c then afterSpaces line (column + 1) rest
    else (c :: rest, line, column)

def skipSpaces (c : Cursor) : Cursor :=
  let (rest, line, column) := afterSpaces c.line c.column c.rest
  { c with rest, line, column, ahead := !rest.isEmpty }

end Cursor

namespace Scan

variable {α : Type}

/-- Fails at the cursor. -/
def fail (cause : Cause) : Scan α := fun c => .error ⟨cause, some c.place⟩ c

/-- Fails just after the byte at the cursor. -/
def failNext (cause : Cause) : Scan α := fun c => .error ⟨cause, some c.nextPlace⟩ c

/-- Fails without a place; what encloses the failing part will give it one. -/
def failUnplaced (cause : Cause) : Scan α := fun c => .error ⟨cause, none⟩ c

/-- Gives a fault without a place the place where the scan came to a stop. -/
def placed (s : Scan α) : Scan α := fun c =>
  match s c with
  | .ok a c => .ok a c
  | .error f c => .error (f.placedAt c.place) c

def lift (r : Except Cause α) : Scan α :=
  match r with
  | .ok a => pure a
  | .error cause => failUnplaced cause

/-- The next character, not taken. -/
def peek : Scan (Option Char) := fun c =>
  match c.rest with
  | [] => .ok none c
  | ch :: _ => .ok (some ch) { c with ahead := true }

/-- The next character after blanks, not taken. -/
def look : Scan (Option Char) := fun c =>
  let c := c.skipSpaces
  .ok c.rest.head? c

def take : Scan Unit := fun c => .ok () c.advance

/-- Takes a word whose first letter has been taken. -/
def word : List Char → Scan Unit
  | [] => pure ()
  | w :: more => do
    match ← peek with
    | none => fail .endInValue
    | some c => if c == w then take; word more else failNext .expectedWord

end Scan

/-! ## Strings -/

def hexValue? (c : Char) : Option Nat :=
  if Text.asciiDigit c then some (c.toNat - '0'.toNat)
  else if 'a' ≤ c && c ≤ 'f' then some (c.toNat - 'a'.toNat + 10)
  else if 'A' ≤ c && c ≤ 'F' then some (c.toNat - 'A'.toNat + 10)
  else none

/-- The number that four hexadecimal digits write. -/
def hexNumber? (a b c d : Char) : Option Nat := do
  return ((← hexValue? a) * 16 + (← hexValue? b)) * 256 + (← hexValue? c) * 16 + (← hexValue? d)

/-- The character a letter after a backslash stands for. -/
def simpleEscape? : Char → Option Char
  | '"' => some '"'
  | '\\' => some '\\'
  | '/' => some '/'
  | 'b' => some '\x08'
  | 'f' => some '\x0c'
  | 'n' => some '\n'
  | 'r' => some '\r'
  | 't' => some '\t'
  | _ => none

def isHighSurrogate (n : Nat) : Bool := 0xD800 ≤ n && n ≤ 0xDBFF

def isLowSurrogate (n : Nat) : Bool := 0xDC00 ≤ n && n ≤ 0xDFFF

/-- The place `bytes` bytes further on; a fault inside four bytes that are no digits counts bytes,
wherever characters end. -/
def placeAfter (line column : Nat) : Nat → List Char → Option Place
  | 0, _ => some ⟨line, column⟩
  | _, [] => none
  | bytes, c :: rest =>
    if bytes ≤ c.utf8Size then
      some (if c == '\n' then ⟨line + 1, 0⟩ else ⟨line, column + bytes⟩)
    else if c == '\n' then placeAfter (line + 1) 0 (bytes - 1) rest
    else placeAfter line (column + c.utf8Size) (bytes - c.utf8Size) rest

/-- The place at the end of a text. -/
def placeAtEnd (line column : Nat) : List Char → Place
  | [] => ⟨line, column⟩
  | c :: rest =>
    if c == '\n' then placeAtEnd (line + 1) 0 rest else placeAtEnd line (column + c.utf8Size) rest

/-- What is wrong with a hexadecimal escape whose four digits are not all there. -/
def badHex (line column : Nat) (rest : List Char) : Fault :=
  match placeAfter line column 4 rest with
  | some p => ⟨.invalidEscape, some p⟩
  | none => ⟨.endInString, some (placeAtEnd line column rest)⟩

/-- The end of a string: its characters, last first, what follows it, and the column there. -/
structure StringEnd where
  reversed : List Char
  rest : List Char
  column : Nat

/-- The byte after which a fault at the front of `rest` is reported. -/
def byteOn (line column : Nat) : List Char → Place
  | [] => ⟨line, column⟩
  | c :: _ => if c == '\n' then ⟨line + 1, 0⟩ else ⟨line, column + 1⟩

/-- Reads a string on from after its opening quote. -/
def stringFrom (line column : Nat) (reversed : List Char) : List Char → Except Fault StringEnd
  | [] => .error ⟨.endInString, some ⟨line, column⟩⟩
  | '"' :: rest => .ok ⟨reversed, rest, column + 1⟩
  | '\\' :: 'u' :: a :: b :: c :: d :: rest =>
    match hexNumber? a b c d with
    | none => .error (badHex line (column + 2) (a :: b :: c :: d :: rest))
    | some n =>
      if isLowSurrogate n then .error ⟨.loneSurrogate, some ⟨line, column + 6⟩⟩
      else if isHighSurrogate n then
        match rest with
        | [] => .error ⟨.endInString, some ⟨line, column + 6⟩⟩
        | '\\' :: more =>
          match more with
          | [] => .error ⟨.endInString, some ⟨line, column + 7⟩⟩
          | 'u' :: e :: f :: g :: h :: more =>
            match hexNumber? e f g h with
            | none => .error (badHex line (column + 8) (e :: f :: g :: h :: more))
            | some m =>
              if isLowSurrogate m then
                stringFrom line (column + 12)
                  (Char.ofNat ((n - 0xD800) * 1024 + (m - 0xDC00) + 0x10000) :: reversed) more
              else .error ⟨.loneSurrogate, some ⟨line, column + 12⟩⟩
          | 'u' :: more => .error (badHex line (column + 8) more)
          | other => .error ⟨.unfinishedSurrogates, some (byteOn line (column + 7) other)⟩
        | other => .error ⟨.unfinishedSurrogates, some (byteOn line (column + 6) other)⟩
      else stringFrom line (column + 6) (Char.ofNat n :: reversed) rest
  | '\\' :: 'u' :: rest => .error (badHex line (column + 2) rest)
  | '\\' :: [] => .error ⟨.endInString, some ⟨line, column + 1⟩⟩
  | '\\' :: e :: rest =>
    match simpleEscape? e with
    | some ch => stringFrom line (column + 2) (ch :: reversed) rest
    | none => .error ⟨.invalidEscape, some (byteOn line (column + 1) (e :: rest))⟩
  | c :: rest =>
    if c.toNat < 32 then .error ⟨.controlCharacter, some (byteOn line column (c :: rest))⟩
    else stringFrom line (column + c.utf8Size) (c :: reversed) rest

/-- Passes over a string on from after its opening quote.  Surrogates need not pair up, and a
control character is reported before it, or after it when the text is drawn byte by byte. -/
def skipStringFrom (drawn : Bool) (line column : Nat) : List Char → Except Fault StringEnd
  | [] => .error ⟨.endInString, some ⟨line, column⟩⟩
  | '"' :: rest => .ok ⟨[], rest, column + 1⟩
  | '\\' :: 'u' :: a :: b :: c :: d :: rest =>
    match hexNumber? a b c d with
    | none => .error (badHex line (column + 2) (a :: b :: c :: d :: rest))
    | some _ => skipStringFrom drawn line (column + 6) rest
  | '\\' :: 'u' :: rest => .error (badHex line (column + 2) rest)
  | '\\' :: [] => .error ⟨.endInString, some ⟨line, column + 1⟩⟩
  | '\\' :: e :: rest =>
    match simpleEscape? e with
    | some _ => skipStringFrom drawn line (column + 2) rest
    | none => .error ⟨.invalidEscape, some (byteOn line (column + 1) (e :: rest))⟩
  | c :: rest =>
    if c.toNat < 32 then
      .error ⟨.controlCharacter,
        some (if drawn then byteOn line column (c :: rest) else ⟨line, column⟩)⟩
    else skipStringFrom drawn line (column + c.utf8Size) rest

namespace Scan

def stringEnd (r : Cursor → Except Fault StringEnd) : Scan StringEnd := fun c =>
  match r c with
  | .ok e => .ok e { c with rest := e.rest, column := e.column, ahead := false }
  | .error f => .error f c

/-- The characters up to the closing quote; the opening one has been taken. -/
def string : Scan String := do
  let e ← stringEnd fun c => stringFrom c.line c.column [] c.rest
  return String.ofList e.reversed.reverse

def skipString : Scan Unit := do
  let _ ← stringEnd fun c => skipStringFrom c.drawn c.line c.column c.rest

end Scan

/-! ## Numbers -/

/-- Takes digits into a number, counting them. -/
def digitsFrom (n count : Nat) : List Char → Nat × Nat × List Char
  | [] => (n, count, [])
  | c :: rest =>
    if Text.asciiDigit c then digitsFrom (10 * n + (c.toNat - '0'.toNat)) (count + 1) rest
    else (n, count, c :: rest)

/-- The greatest exponent that is kept. -/
def exponentLimit : Nat := 0x7fffffff

/-- Takes digits of an exponent until they pass the limit: then `none` stands for the exponent. -/
def exponentFrom (n count : Nat) : List Char → Option Nat × Nat × List Char
  | [] => (some n, count, [])
  | c :: rest =>
    if Text.asciiDigit c then
      let m := 10 * n + (c.toNat - '0'.toNat)
      if exponentLimit < m then (none, count + 1, rest) else exponentFrom m (count + 1) rest
    else (some n, count, c :: rest)

namespace Scan

def digits (n : Nat) : Scan (Nat × Nat) := fun c =>
  let (m, count, rest) := digitsFrom n 0 c.rest
  .ok (m, count) { c with rest, column := c.column + count, ahead := !rest.isEmpty }

def exponentDigits (n : Nat) : Scan (Option Nat) := fun c =>
  let (m, count, rest) := exponentFrom n 0 c.rest
  .ok m { c with rest, column := c.column + count, ahead := m.isSome && !rest.isEmpty }

/-- The double nearest to `± n * 10 ^ e`.  A reader that rounds the digits and the power of ten by
themselves is faster and may be off by one unit in the last place, as with `51.248178375505404`. -/
def decimal (negative : Bool) (n : Nat) (e : Int) : Scan Number :=
  match Binary64.ofDecimal? negative n e with
  | some x => return .real x
  | none => fail .numberOutOfRange

/-- The exponent part, from its letter on, of a number with the digits `n` and the exponent `e`. -/
def exponentPart (negative : Bool) (n : Nat) (e : Int) : Scan Number := do
  take
  let down ← do
    match ← peek with
    | some '+' => take; pure false
    | some '-' => take; pure true
    | _ => pure false
  match ← peek with
  | none => fail .endInValue
  | some c =>
    if !Text.asciiDigit c then failNext .invalidNumber
    else
      match ← exponentDigits 0 with
      | some x => decimal negative n (if down then e - x else e + x)
      | none =>
        if n ≠ 0 && !down then fail .numberOutOfRange
        else
          let _ ← digits 0
          return .real (Binary64.zero negative)

/-- The part after the point, from the point on. -/
def fractionPart (negative : Bool) (n : Nat) : Scan Number := do
  take
  let (m, count) ← digits n
  match ← peek with
  | none => if count = 0 then fail .endInValue else decimal negative m (-(count : Int))
  | some c =>
    if count = 0 then failNext .invalidNumber
    else if c == 'e' || c == 'E' then exponentPart negative m (-(count : Int))
    else decimal negative m (-(count : Int))

/-- A number written without point and exponent: a whole number if 64 bits hold it, otherwise the
nearest double.  Minus zero is a double. -/
def wholeNumber (negative : Bool) (n : Nat) : Scan Number :=
  if negative && n = 0 then return .real (Binary64.zero true)
  else
    match Whole.ofInt? (if negative then -(n : Int) else n) with
    | some w => return .whole w
    | none => decimal negative n 0

/-- The whole part of a number: no digits follow a leading zero. -/
def wholePart : Scan Nat := do
  match ← peek with
  | none => fail .endInValue
  | some '0' =>
    take
    match (← peek).map Text.asciiDigit with
    | some true => failNext .invalidNumber
    | _ => return 0
  | some c =>
    if Text.asciiDigit c then return (← digits 0).1 else failNext .invalidNumber

/-- A number; its minus sign, if it has one, has been taken. -/
def number (negative : Bool) : Scan Number := do
  let n ← wholePart
  match ← peek with
  | some '.' => fractionPart negative n
  | some 'e' => exponentPart negative n 0
  | some 'E' => exponentPart negative n 0
  | _ => wholeNumber negative n

/-- Passes over an exponent, from its letter on. -/
def skipExponent : Scan Unit := do
  take
  let sign ← peek
  if sign == some '+' || sign == some '-' then take
  match (← peek).map Text.asciiDigit with
  | some true => let _ ← digits 0
  | _ => failNext .invalidNumber

/-- Passes over a fraction, from its point on. -/
def skipFraction : Scan Unit := do
  take
  let (_, count) ← digits 0
  let c ← peek
  if count = 0 then failNext .invalidNumber
  else if c == some 'e' || c == some 'E' then skipExponent

/-- Passes over the whole part of a number. -/
def skipWholePart : Scan Unit := do
  match ← peek with
  | some '0' =>
    take
    if (← peek).map Text.asciiDigit == some true then failNext .invalidNumber
  | some c => if Text.asciiDigit c then let _ ← digits 0 else failNext .invalidNumber
  | none => fail .invalidNumber

/-- Passes over a number; its minus sign has been taken. -/
def skipNumber : Scan Unit := do
  skipWholePart
  match ← peek with
  | some '.' => skipFraction
  | some 'e' => skipExponent
  | some 'E' => skipExponent
  | _ => pure ()

end Scan

end RuleBench.Json
