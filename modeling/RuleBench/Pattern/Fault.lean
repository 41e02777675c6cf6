set_option autoImplicit false

/-!
# What is wrong with a pattern

A fault names the mistake and the stretch of the pattern where it was made; two mistakes also point
to the earlier stretch that they repeat.  The message shows the pattern with marks under it.
-/

namespace RuleBench.Pattern

/-- A place in a pattern: bytes before it, and its line and column, counted from one. -/
structure Position where
  offset : Nat
  line : Nat
  column : Nat
  deriving DecidableEq, Inhabited

namespace Position

def start : Position := ⟨0, 1, 1⟩

/-- The place after a character. -/
def after (p : Position) (c : Char) : Position :=
  if c = '\n' then ⟨p.offset + c.utf8Size, p.line + 1, 1⟩
  else ⟨p.offset + c.utf8Size, p.line, p.column + 1⟩

end Position

structure Span where
  start : Position
  stop : Position
  deriving DecidableEq, Inhabited

def Span.isOneLine (s : Span) : Bool := s.start.line == s.stop.line

inductive Mistake where
  | badClassEscape
  | badClassRange
  | classRangeNeedsLiteral
  | unclosedClass
  | noDecimal
  | badDecimal
  | noHexDigits
  | badHexValue
  | badHexDigit
  | unfinishedEscape
  | unknownEscape
  | danglingNegation
  | duplicateFlag
  | repeatedNegation
  | unfinishedFlags
  | unknownFlag
  | duplicateGroupName
  | emptyGroupName
  | badGroupName
  | unfinishedGroupName
  | unclosedGroup
  | unopenedGroup
  | nestedTooDeep (limit : Nat)
  | badCount
  | noCount
  | unclosedCount
  | nothingToRepeat
  | unclosedBoundary
  | unknownBoundary
  | unfinishedBoundary
  | badUnicodeClass
  | backreference
  | lookAround
  | unicodeNotAllowed
  | matchesBrokenText
  | unknownProperty
  | unknownPropertyValue
  deriving DecidableEq

def Mistake.text : Mistake → String
  | .badClassEscape => "invalid escape sequence found in character class"
  | .badClassRange => "invalid character class range, the start must be <= the end"
  | .classRangeNeedsLiteral => "invalid range boundary, must be a literal"
  | .unclosedClass => "unclosed character class"
  | .noDecimal => "decimal literal empty"
  | .badDecimal => "decimal literal invalid"
  | .noHexDigits => "hexadecimal literal empty"
  | .badHexValue => "hexadecimal literal is not a Unicode scalar value"
  | .badHexDigit => "invalid hexadecimal digit"
  | .unfinishedEscape => "incomplete escape sequence, reached end of pattern prematurely"
  | .unknownEscape => "unrecognized escape sequence"
  | .danglingNegation => "dangling flag negation operator"
  | .duplicateFlag => "duplicate flag"
  | .repeatedNegation => "flag negation operator repeated"
  | .unfinishedFlags => "expected flag but got end of regex"
  | .unknownFlag => "unrecognized flag"
  | .duplicateGroupName => "duplicate capture group name"
  | .emptyGroupName => "empty capture group name"
  | .badGroupName => "invalid capture group character"
  | .unfinishedGroupName => "unclosed capture group name"
  | .unclosedGroup => "unclosed group"
  | .unopenedGroup => "unopened group"
  | .nestedTooDeep limit =>
    "exceed the maximum number of nested parentheses/brackets (" ++ toString limit ++ ")"
  | .badCount => "invalid repetition count range, the start must be <= the end"
  | .noCount => "repetition quantifier expects a valid decimal"
  | .unclosedCount => "unclosed counted repetition"
  | .nothingToRepeat => "repetition operator missing expression"
  | .unclosedBoundary =>
    "special word boundary assertion is either unclosed or contains an invalid character"
  | .unknownBoundary =>
    "unrecognized special word boundary assertion, valid choices are: start, end, start-half or end-half"
  | .unfinishedBoundary =>
    "found either the beginning of a special word boundary or a bounded repetition on a \\b with an opening brace, but no closing brace"
  | .badUnicodeClass => "invalid Unicode character class"
  | .backreference => "backreferences are not supported"
  | .lookAround => "look-around, including look-ahead and look-behind, is not supported"
  | .unicodeNotAllowed => "Unicode not allowed here"
  | .matchesBrokenText => "pattern can match invalid UTF-8"
  | .unknownProperty => "Unicode property not found"
  | .unknownPropertyValue => "Unicode property value not found"

structure Fault where
  mistake : Mistake
  span : Span
  /-- What the mistake repeats. -/
  earlier : Option Span

namespace Fault

/-- The lines of a text, without line ends; what follows the last line end is a line only if it is
not empty. -/
def linesFrom (reversed : List Char) : List Char → List (List Char)
  | [] => if reversed.isEmpty then [] else [reversed.reverse]
  | '\n' :: rest =>
    (match reversed with
      | '\r' :: line => line.reverse
      | line => line.reverse) :: linesFrom [] rest
  | c :: rest => linesFrom (c :: reversed) rest

def blanks (n : Nat) : List Char := List.replicate n ' '

/-- Marks under one line; `column` is the next free column. -/
def marks (column : Nat) : List Span → List Char
  | [] => []
  | s :: more =>
    let width := max 1 (s.stop.column - s.start.column)
    let free := max column s.start.column
    blanks (s.start.column - column) ++ List.replicate width '^' ++ marks (free + width) more

/-- Spans in the order of their beginnings. -/
def spans (f : Fault) : List Span :=
  match f.earlier with
  | none => [f.span]
  | some e => if e.start.offset ≤ f.span.start.offset then [e, f.span] else [f.span, e]

/-- A line of the pattern and the marks under it; `width` is that of line numbers, 0 for none. -/
def showLine (spans : List Span) (width number : Nat) (line : List Char) : List Char :=
  let label :=
    if width = 0 then blanks 4
    else
      let digits := Nat.toDigits 10 number
      blanks (width - digits.length) ++ digits ++ [':', ' ']
  let here := spans.filter fun s => s.isOneLine && s.start.line == number
  let below :=
    if here.isEmpty then []
    else blanks (if width = 0 then 4 else width + 2) ++ marks 1 here ++ ['\n']
  label ++ line ++ ['\n'] ++ below

def showLines (spans : List Span) (width : Nat) : Nat → List (List Char) → List Char
  | _, [] => []
  | number, line :: more =>
    showLine spans width number line ++ showLines spans width (number + 1) more

def describeSpan (s : Span) : String :=
  s!"on line {s.start.line} (column {s.start.column}) through line {s.stop.line}" ++
    s!" (column {s.stop.column - 1})"

def divider : String := String.ofList (List.replicate 79 '~') ++ "\n"

def message (pattern : List Char) (f : Fault) : String :=
  let lines := linesFrom [] pattern
  let count := lines.length + (if pattern.getLast? = some '\n' then 1 else 0)
  let width := if count ≤ 1 then 0 else (Nat.toDigits 10 count).length
  let shown := String.ofList (showLines f.spans width 1 lines)
  let reason := "error: " ++ f.mistake.text
  if pattern.contains '\n' then
    let long := f.spans.filter fun s => !s.isOneLine
    "regex parse error:\n" ++ divider ++ shown ++ divider ++
      String.join (long.map fun s => describeSpan s ++ "\n") ++ reason
  else "regex parse error:\n" ++ shown ++ reason

end Fault

end RuleBench.Pattern
