import RuleBench.Pattern.Fault

set_option autoImplicit false

/-!
# Patterns as written

The tree of a pattern's text.  Every node knows the stretch it was read from, since faults that are
found only later point into the text too.
-/

namespace RuleBench.Pattern

structure Literal where
  span : Span
  char : Char
  /-- Written with exactly two hexadecimal digits, and so perhaps meant as a byte. -/
  isByteEscape : Bool

inductive Flag where
  | ignoreCase
  | multiLine
  | dotMatchesAll
  | swapGreed
  | unicode
  | carriageReturns
  | ignoreBlanks
  deriving DecidableEq

/-- Flags in the order written, each to be set or cleared. -/
abbrev FlagChanges := List (Flag × Bool)

def FlagChanges.state? (changes : FlagChanges) (f : Flag) : Option Bool :=
  (changes.find? fun c => decide (c.1 = f)).map (·.2)

inductive Assertion where
  | lineStart
  | lineEnd
  | textStart
  | textEnd
  | boundary
  | noBoundary
  | wordStart
  | wordEnd
  | wordStartHalf
  | wordEndHalf
  deriving DecidableEq

/-- The classes that have an escape of one letter. -/
inductive LetterClass where
  | digit
  | space
  | word
  deriving DecidableEq

inductive AsciiClass where
  | alnum
  | alpha
  | ascii
  | blank
  | cntrl
  | digit
  | graph
  | lower
  | print
  | punct
  | space
  | upper
  | word
  | xdigit
  deriving DecidableEq

def AsciiClass.names : List (String × AsciiClass) :=
  [("alnum", .alnum), ("alpha", .alpha), ("ascii", .ascii), ("blank", .blank), ("cntrl", .cntrl),
   ("digit", .digit), ("graph", .graph), ("lower", .lower), ("print", .print), ("punct", .punct),
   ("space", .space), ("upper", .upper), ("word", .word), ("xdigit", .xdigit)]

/-- What a class of characters by property asks for. -/
inductive Query where
  | byName (name : List Char)
  | byValue (property value : List Char)

inductive SetOp where
  | intersection
  | difference
  | symmetricDifference
  deriving DecidableEq

mutual

inductive ClassItem where
  | literal (l : Literal)
  | range (span : Span) (first last : Literal)
  | ascii (span : Span) (negated : Bool) (c : AsciiClass)
  | letter (span : Span) (negated : Bool) (c : LetterClass)
  | property (span : Span) (negated : Bool) (q : Query)
  | bracketed (span : Span) (negated : Bool) (s : ClassSet)

inductive ClassSet where
  | union (span : Span) (items : List ClassItem)
  | binary (span : Span) (op : SetOp) (left right : ClassSet)

end

instance : Inhabited ClassSet := ⟨.union default []⟩

def ClassItem.span : ClassItem → Span
  | .literal l => l.span
  | .range s _ _ => s
  | .ascii s _ _ => s
  | .letter s _ _ => s
  | .property s _ _ => s
  | .bracketed s _ _ => s

def ClassSet.span : ClassSet → Span
  | .union s [] => s
  | .union s (x :: more) => ⟨x.span.start, ((x :: more).getLast?.map (·.span.stop)).getD s.stop⟩
  | .binary s _ _ _ => s

inductive Tree where
  | empty (span : Span)
  | flags (span : Span) (changes : FlagChanges)
  | literal (l : Literal)
  | dot (span : Span)
  | assertion (span : Span) (a : Assertion)
  | letter (span : Span) (negated : Bool) (c : LetterClass)
  | property (span : Span) (negated : Bool) (q : Query)
  | bracketed (span : Span) (negated : Bool) (s : ClassSet)
  | repetition (span : Span) (least : Nat) (most : Option Nat) (x : Tree)
  | group (span : Span) (changes : FlagChanges) (x : Tree)
  | alternation (span : Span) (xs : List Tree)
  | concat (span : Span) (xs : List Tree)

namespace Tree

instance : Inhabited Tree := ⟨.empty default⟩

def span : Tree → Span
  | .empty s => s
  | .flags s _ => s
  | .literal l => l.span
  | .dot s => s
  | .assertion s _ => s
  | .letter s _ _ => s
  | .property s _ _ => s
  | .bracketed s _ _ => s
  | .repetition s _ _ _ => s
  | .group s _ _ => s
  | .alternation s _ => s
  | .concat s _ => s

/-- One tree for the trees in a row. -/
def ofRow (span : Span) : List Tree → Tree
  | [] => .empty span
  | [x] => x
  | xs => .concat span xs

end Tree

/-! ## Nesting -/

/-- The greatest depth of nesting. -/
def maxNesting : Nat := 250

mutual

/-- The first part of an item that lies too deep below `depth` others. -/
def ClassItem.tooDeep? (depth : Nat) : ClassItem → Option Span
  | .bracketed span _ s =>
    if maxNesting ≤ depth then some span else ClassSet.tooDeep? (depth + 1) s
  | _ => none

def ClassSet.tooDeep? (depth : Nat) : ClassSet → Option Span
  | .union _ [] => none
  | .union _ [x] => ClassItem.tooDeep? depth x
  | .union span (x :: y :: more) =>
    if maxNesting ≤ depth then some (ClassSet.union span (x :: y :: more)).span
    else itemTooDeep? (depth + 1) (x :: y :: more)
  | .binary span _ l r =>
    if maxNesting ≤ depth then some span
    else (ClassSet.tooDeep? (depth + 1) l).orElse fun _ => ClassSet.tooDeep? (depth + 1) r

def itemTooDeep? (depth : Nat) : List ClassItem → Option Span
  | [] => none
  | x :: more => (ClassItem.tooDeep? depth x).orElse fun _ => itemTooDeep? depth more

end

mutual

/-- The first part of a tree that lies too deep below `depth` others. -/
def Tree.tooDeep? (depth : Nat) : Tree → Option Span
  | .bracketed span _ s =>
    if maxNesting ≤ depth then some span else s.tooDeep? (depth + 1)
  | .repetition span _ _ x => if maxNesting ≤ depth then some span else Tree.tooDeep? (depth + 1) x
  | .group span _ x => if maxNesting ≤ depth then some span else Tree.tooDeep? (depth + 1) x
  | .alternation span xs => if maxNesting ≤ depth then some span else treeTooDeep? (depth + 1) xs
  | .concat span xs => if maxNesting ≤ depth then some span else treeTooDeep? (depth + 1) xs
  | _ => none

def treeTooDeep? (depth : Nat) : List Tree → Option Span
  | [] => none
  | x :: more => (Tree.tooDeep? depth x).orElse fun _ => treeTooDeep? depth more

end

end RuleBench.Pattern
