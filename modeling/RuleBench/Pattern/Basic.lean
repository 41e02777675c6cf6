import RuleBench.Text.CodeSet

set_option autoImplicit false

/-!
# Patterns and what they match

A pattern is matched against a text by following which places of the text it can reach from which
others.  Places are counted from zero to the length of the text, and a list of marks says of each
whether it has been reached.
-/

namespace RuleBench

/-- A condition on what stands before and after a place. -/
inductive Look where
  | textStart
  | textEnd
  | lineStart
  | lineEnd
  /-- As `lineStart`, but carriage returns, alone or before a line feed, end lines too. -/
  | lineStartAnyEnd
  | lineEndAnyEnd
  | boundary
  | noBoundary
  | wordStart
  | wordEnd
  | wordStartHalf
  | wordEndHalf
  deriving DecidableEq

inductive Pattern where
  | empty
  | oneOf (s : Text.CodeSet)
  /-- `word` says which characters make words. -/
  | look (l : Look) (word : Text.CodeSet)
  | concat (x y : Pattern)
  | either (x y : Pattern)
  | repeated (least : Nat) (most : Option Nat) (x : Pattern)

namespace Pattern

/-- The characters on both sides of a place. -/
structure Gap where
  before : Option Char
  after : Option Char

def gapsFrom (before : Option Char) : List Char → List Gap
  | [] => [⟨before, none⟩]
  | c :: rest => ⟨before, some c⟩ :: gapsFrom (some c) rest

def holds (l : Look) (word : Text.CodeSet) (g : Gap) : Bool :=
  let inWord (c : Option Char) : Bool := c.any fun c => word.contains c.toNat
  match l with
  | .textStart => g.before.isNone
  | .textEnd => g.after.isNone
  | .lineStart => g.before.all (· == '\n')
  | .lineEnd => g.after.all (· == '\n')
  | .lineStartAnyEnd => g.before.all (· == '\n') || (g.before == some '\r' && g.after != some '\n')
  | .lineEndAnyEnd => g.after.all (· == '\r') || (g.after == some '\n' && g.before != some '\r')
  | .boundary => inWord g.before != inWord g.after
  | .noBoundary => inWord g.before == inWord g.after
  | .wordStart => !inWord g.before && inWord g.after
  | .wordEnd => inWord g.before && !inWord g.after
  | .wordStartHalf => !inWord g.before
  | .wordEndHalf => !inWord g.after

/-- For each place, whether it has been reached. -/
abbrev Marks := List Bool

def Marks.join (a b : Marks) : Marks := List.zipWith (· || ·) a b

/-- One step over every character of a set. -/
def stepOver (s : Text.CodeSet) (text : List Char) (m : Marks) : Marks :=
  false :: List.zipWith (fun c reached => reached && s.contains c.toNat) text m

/-- `n` steps; a step that changes nothing ends them. -/
def steps (step : Marks → Marks) : Nat → Marks → Marks
  | 0, m => m
  | n + 1, m => if step m = m then m else steps step n (step m)

/-- Up to `n` steps. -/
def stepsUpTo (step : Marks → Marks) (n : Nat) (m : Marks) : Marks :=
  steps (fun m => m.join (step m)) n m

/-- The places that a pattern reaches from those marked. -/
def reach (text : List Char) : Pattern → Marks → Marks
  | .empty, m => m
  | .oneOf s, m => stepOver s text m
  | .look l word, m =>
    List.zipWith (fun g reached => reached && holds l word g) (gapsFrom none text) m
  | .concat x y, m => reach text y (reach text x m)
  | .either x y, m => (reach text x m).join (reach text y m)
  | .repeated least most x, m =>
    let further := match most with
      | some most => most - least
      | none => text.length + 1
    stepsUpTo (reach text x) further (steps (reach text x) least m)

/-- Whether some part of a text, an empty one included, matches. -/
def isFoundIn (p : Pattern) (text : List Char) : Bool :=
  (reach text p (List.replicate (text.length + 1) true)).any id

end Pattern

end RuleBench
