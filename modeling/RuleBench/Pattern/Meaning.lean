import RuleBench.Pattern.Basic
import RuleBench.Pattern.Parser
import RuleBench.Pattern.Property
import RuleBench.Text.Blank
import RuleBench.Text.Folding

set_option autoImplicit false

/-!
# What a written pattern means

Flags hold from where they are set to the end of their group, over bars too.  Without the flag `u`
only ASCII may be matched, since a pattern must never match a part of a character.
-/

namespace RuleBench.Pattern

open Text

structure Flags where
  ignoreCase : Bool
  multiLine : Bool
  dotMatchesAll : Bool
  unicode : Bool
  carriageReturns : Bool

namespace Flags

def default : Flags := ⟨false, false, false, true, false⟩

def change (f : Flags) (changes : FlagChanges) : Flags where
  ignoreCase := (changes.state? .ignoreCase).getD f.ignoreCase
  multiLine := (changes.state? .multiLine).getD f.multiLine
  dotMatchesAll := (changes.state? .dotMatchesAll).getD f.dotMatchesAll
  unicode := (changes.state? .unicode).getD f.unicode
  carriageReturns := (changes.state? .carriageReturns).getD f.carriageReturns

/-- The greatest number that a member of a class may have. -/
def last (f : Flags) : Nat := if f.unicode then lastCode else 255

def fold (f : Flags) (s : CodeSet) : CodeSet :=
  if f.ignoreCase then foldCase (if f.unicode then lastCode else 127) s else s

def word (f : Flags) : CodeSet := if f.unicode then wordSet else asciiWordSet

end Flags

def faultAt (m : Mistake) (s : Span) : Fault := ⟨m, s, none⟩

/-- Without the flag `u` a set must keep to ASCII. -/
def checked (f : Flags) (span : Span) (s : CodeSet) : Except Fault CodeSet :=
  if !f.unicode && s.any (fun run => 127 < run.2) then .error (faultAt .matchesBrokenText span)
  else .ok s

/-- Letter case is ignored before a class is negated. -/
def foldAndNegate (f : Flags) (span : Span) (negated : Bool) (s : CodeSet) : Except Fault CodeSet :=
  checked f span (if negated then (f.fold s).complement f.last else f.fold s)

def LetterClass.codes (f : Flags) (span : Span) (negated : Bool) (c : LetterClass) :
    Except Fault CodeSet :=
  let s := match c with
    | .digit => if f.unicode then digitSet else asciiDigitSet
    | .space => if f.unicode then blanks else asciiSpaceSet
    | .word => f.word
  checked f span (if negated then s.complement f.last else s)

def AsciiClass.codes : AsciiClass → CodeSet
  | .alnum => [(0x30, 0x39), (0x41, 0x5A), (0x61, 0x7A)]
  | .alpha => [(0x41, 0x5A), (0x61, 0x7A)]
  | .ascii => [(0x00, 0x7F)]
  | .blank => [(0x09, 0x09), (0x20, 0x20)]
  | .cntrl => [(0x00, 0x1F), (0x7F, 0x7F)]
  | .digit => asciiDigitSet
  | .graph => [(0x21, 0x7E)]
  | .lower => [(0x61, 0x7A)]
  | .print => [(0x20, 0x7E)]
  | .punct => [(0x21, 0x2F), (0x3A, 0x40), (0x5B, 0x60), (0x7B, 0x7E)]
  | .space => asciiSpaceSet
  | .upper => [(0x41, 0x5A)]
  | .word => asciiWordSet
  | .xdigit => [(0x30, 0x39), (0x41, 0x46), (0x61, 0x66)]

def propertyCodes (f : Flags) (span : Span) (negated : Bool) (q : Query) : Except Fault CodeSet :=
  if !f.unicode then .error (faultAt .unicodeNotAllowed span)
  else
    match q.codes with
    | .ok s => foldAndNegate f span negated s
    | .error m => .error (faultAt m span)

/-- A literal outside classes. -/
def Literal.codes (f : Flags) (l : Literal) : Except Fault CodeSet :=
  if !f.unicode && l.isByteEscape && 127 < l.char.toNat then
    .error (faultAt .matchesBrokenText l.span)
  else .ok (f.fold [(l.char.toNat, l.char.toNat)])

/-- The number of a literal in a class. -/
def Literal.code (f : Flags) (l : Literal) : Except Fault Nat :=
  if f.unicode || l.char.toNat ≤ 127 then .ok l.char.toNat
  else .error (faultAt (if l.isByteEscape then .matchesBrokenText else .unicodeNotAllowed) l.span)

def SetOp.apply (last : Nat) : SetOp → CodeSet → CodeSet → CodeSet
  | .intersection => CodeSet.inter last
  | .difference => CodeSet.diff last
  | .symmetricDifference => CodeSet.symmDiff last

mutual

def ClassItem.codes (f : Flags) : ClassItem → Except Fault CodeSet
  | .literal l => do
    let n ← l.code f
    return [(n, n)]
  | .range _ first last => do
    let a ← first.code f
    let b ← last.code f
    return [(a, b)]
  | .ascii span negated c => foldAndNegate f span negated c.codes
  | .letter span negated c => c.codes f span negated
  | .property span negated q => propertyCodes f span negated q
  | .bracketed span negated s => do foldAndNegate f span negated (← ClassSet.codes f s)

def ClassSet.codes (f : Flags) : ClassSet → Except Fault CodeSet
  | .union _ items => itemCodes f items
  | .binary _ op l r => do
    let a ← ClassSet.codes f l
    let b ← ClassSet.codes f r
    return op.apply f.last (f.fold a) (f.fold b)

def itemCodes (f : Flags) : List ClassItem → Except Fault CodeSet
  | [] => .ok []
  | x :: more => do
    let a ← ClassItem.codes f x
    let b ← itemCodes f more
    return a ++ b

end

def dotCodes (f : Flags) (span : Span) : Except Fault CodeSet :=
  if !f.unicode then .error (faultAt .matchesBrokenText span)
  else if f.dotMatchesAll then .ok [(0, lastCode)]
  else if f.carriageReturns then .ok (CodeSet.complement lastCode [(0x0A, 0x0A), (0x0D, 0x0D)])
  else .ok (CodeSet.complement lastCode [(0x0A, 0x0A)])

def Assertion.look (f : Flags) : Assertion → Look
  | .lineStart =>
    if !f.multiLine then .textStart else if f.carriageReturns then .lineStartAnyEnd else .lineStart
  | .lineEnd =>
    if !f.multiLine then .textEnd else if f.carriageReturns then .lineEndAnyEnd else .lineEnd
  | .textStart => .textStart
  | .textEnd => .textEnd
  | .boundary => .boundary
  | .noBoundary => .noBoundary
  | .wordStart => .wordStart
  | .wordEnd => .wordEnd
  | .wordStartHalf => .wordStartHalf
  | .wordEndHalf => .wordEndHalf

mutual

/-- The pattern of a tree, with the flags that hold after it. -/
def Tree.meaning (f : Flags) : Tree → Except Fault (Pattern × Flags)
  | .empty _ => .ok (.empty, f)
  | .flags _ changes => .ok (.empty, f.change changes)
  | .literal l => do return (.oneOf (← l.codes f), f)
  | .dot span => do return (.oneOf (← dotCodes f span), f)
  | .assertion _ a => .ok (.look (a.look f) f.word, f)
  | .letter span negated c => do return (.oneOf (← c.codes f span negated), f)
  | .property span negated q => do return (.oneOf (← propertyCodes f span negated q), f)
  | .bracketed span negated s => do
    return (.oneOf (← foldAndNegate f span negated (← s.codes f)), f)
  | .repetition _ least most x => do
    let (p, f) ← Tree.meaning f x
    return (.repeated least most p, f)
  | .group _ changes x => do
    let (p, _) ← Tree.meaning (f.change changes) x
    return (p, f)
  | .alternation _ xs => eitherMeaning f xs
  | .concat _ xs => rowMeaning f xs

def rowMeaning (f : Flags) : List Tree → Except Fault (Pattern × Flags)
  | [] => .ok (.empty, f)
  | x :: more => do
    let (p, f) ← Tree.meaning f x
    let (q, f) ← rowMeaning f more
    return (.concat p q, f)

/-- Nothing is chosen from no branches at all, which no text has. -/
def eitherMeaning (f : Flags) : List Tree → Except Fault (Pattern × Flags)
  | [] => .ok (.oneOf [], f)
  | x :: more => do
    let (p, f) ← Tree.meaning f x
    let (q, f) ← eitherMeaning f more
    return (.either p q, f)

end

/-- Reads a pattern; the error is a message for people.  There is no limit on how large a pattern
grows when its repetitions are written out, so none is refused for its size alone. -/
def parse (text : String) : Except String Pattern :=
  let read : Except Fault Pattern := do
    let tree ← Tree.parse text.toList
    let (p, _) ← tree.meaning .default
    return p
  read.mapError fun f => f.message text.toList

end RuleBench.Pattern
