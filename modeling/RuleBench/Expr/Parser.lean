import RuleBench.Expr.Basic
import RuleBench.Text.Blank
import RuleBench.Text.Letter
import RuleBench.Text.Quoted
import RuleBench.Text.Size

set_option autoImplicit false

/-!
# Reading expressions

The grammar has one layer for each strength of operator.  From the weakest: `.OR.`, `.AND.`,
`.NOT.`, one comparison, sums, products, minus, and what stands alone.  Blanks may surround every
token, and keywords and function names are in any letter case.

A piece that cannot be read is put back and the text before it may stand by itself; only nesting
that is too deep stops everything at once.  Depth is counted on the way down, over parentheses,
arguments, `.NOT.` and minus, and again in the height of each tree on the way up.
-/

namespace RuleBench.Expr

/-- How far a piece of the grammar got with a text. -/
inductive Outcome (α : Type) where
  | done (a : α) (rest : List Char)
  /-- The piece does not stand here; `rest` is the text from where that became clear. -/
  | stuck (rest : List Char)
  | tooDeep

abbrev Parser (α : Type) := List Char → Outcome α

namespace Outcome

variable {α β : Type}

def andThen (o : Outcome α) (k : α → Parser β) : Outcome β :=
  match o with
  | .done a rest => k a rest
  | .stuck rest => .stuck rest
  | .tooDeep => .tooDeep

end Outcome

/-! ## Tokens -/

def isSpace (c : Char) : Bool := c == ' ' || c == '\t' || c == '\r' || c == '\n'

def skipSpaces (s : List Char) : List Char := s.dropWhile isSpace

/-- What follows `token`, with letters in any case, at the front of a text. -/
def afterToken? : List Char → List Char → Option (List Char)
  | [], s => some s
  | _, [] => none
  | t :: ts, c :: rest => if Text.sameLetter t c then afterToken? ts rest else none

/-- As `afterToken?`, with blanks on both sides of the token. -/
def afterSpaced? (token : String) (s : List Char) : Option (List Char) :=
  (afterToken? token.toList (skipSpaces s)).map skipSpaces

/-- The first of some tokens that stands at the front. -/
def firstToken? {α : Type} : List (String × α) → List Char → Option (α × List Char)
  | [], _ => none
  | (token, a) :: more, s =>
    match afterSpaced? token s with
    | some rest => some (a, rest)
    | none => firstToken? more s

def startsName (c : Char) : Bool := Text.isLetter c || c == '_'

def inName (c : Char) : Bool := Text.isLetterOrNumeral c || c == '_'

def name? (s : List Char) : Option (List Char × List Char) :=
  match s with
  | [] => none
  | c :: rest =>
    if startsName c then some (c :: rest.takeWhile inName, rest.dropWhile inName) else none

def constants : List (String × Expr) :=
  [(".TRUE.", .literal (.bool true)), (".FALSE.", .literal (.bool false)),
   (".EMPTY.", .literal .null), (".NOW.", .now), (".TODAY.", .today)]

/-- The first constant that stands at the very front. -/
def constant? : List (String × Expr) → List Char → Option (Expr × List Char)
  | [], _ => none
  | (token, e) :: more, s =>
    match afterToken? token.toList s with
    | some rest => some (e, rest)
    | none => constant? more s

def digitsValue (digits : List Char) : Nat :=
  digits.foldl (fun n c => 10 * n + (c.toNat - '0'.toNat)) 0

/-- The double that a decimal numeral denotes; one beyond all doubles denotes nothing. -/
def decimalValue (whole fraction : List Char) : Json :=
  match Binary64.ofDecimal? false (digitsValue (whole ++ fraction)) (-(fraction.length : Int)) with
  | some x => .num (.real x)
  | none => .null

/-- A numeral.  Without a point it must be below `2^63`. -/
def numeral? (s : List Char) : Option (Json × List Char) :=
  let whole := s.takeWhile Text.asciiDigit
  let rest := s.dropWhile Text.asciiDigit
  if whole.isEmpty then none
  else
    let wholeNumeral :=
      if digitsValue whole < 0x8000000000000000 then some (Json.ofNat (digitsValue whole), rest)
      else none
    match rest with
    | '.' :: more =>
      let fraction := more.takeWhile Text.asciiDigit
      if fraction.isEmpty then wholeNumeral
      else some (decimalValue whole fraction, more.dropWhile Text.asciiDigit)
    | _ => wholeNumeral

/-- The rest of a string after its opening quote; `\\`, `\"` and `\n` are the only escapes. -/
def stringFrom (reversed : List Char) : List Char → Option (List Char × List Char)
  | [] => none
  | '"' :: rest => some (reversed.reverse, rest)
  | '\\' :: '\\' :: rest => stringFrom ('\\' :: reversed) rest
  | '\\' :: '"' :: rest => stringFrom ('"' :: reversed) rest
  | '\\' :: 'n' :: rest => stringFrom ('\n' :: reversed) rest
  | '\\' :: _ => none
  | c :: rest => stringFrom (c :: reversed) rest

def string? : List Char → Option (List Char × List Char)
  | '"' :: rest => stringFrom [] rest
  | _ => none

/-- `LAST`, at least one blank, and a name. -/
def lastName? (s : List Char) : Option (List Char × List Char) := do
  let rest ← afterToken? "LAST".toList s
  if (rest.head?.map isSpace) = some true then name? (skipSpaces rest) else none

/-! ## Layers -/

/-- A tree, unless it is too high. -/
def bounded (e : Expr) : Parser Expr := fun rest =>
  if maxDepth < e.height then .tooDeep else .done e rest

/-- The tree of a chain of operators of one strength, which group to the left. -/
def foldChain (first : Expr) (more : List (BinaryOp × Expr)) : Expr :=
  more.foldl (fun left m => .binary m.1 left m.2) first

/-- The length of a chain is looked at before its tree is built. -/
def chainTree (first : Expr) (more : List (BinaryOp × Expr)) : Parser Expr := fun rest =>
  if more.isEmpty then .done first rest
  else if maxDepth ≤ more.length then .tooDeep
  else bounded (foldChain first more) rest

/-- Operators with their right operands, for as long as both can be read.  Each takes a character at
least, so the length of the text bounds their number. -/
def operands (ops : List (String × BinaryOp)) (operand : Parser Expr) :
    Nat → Parser (List (BinaryOp × Expr))
  | 0, s => .done [] s
  | fuel + 1, s =>
    match firstToken? ops s with
    | none => .done [] s
    | some (op, rest) =>
      match operand rest with
      | .done e rest =>
        (operands ops operand fuel rest).andThen fun more rest => .done ((op, e) :: more) rest
      | .stuck _ => .done [] s
      | .tooDeep => .tooDeep

/-- Operands joined by operators of one strength. -/
def chain (ops : List (String × BinaryOp)) (operand : Parser Expr) : Parser Expr := fun s =>
  (operand s).andThen fun first rest =>
    (operands ops operand rest.length rest).andThen fun more rest => chainTree first more rest

def orOps : List (String × BinaryOp) := [(".OR.", .or)]

def andOps : List (String × BinaryOp) := [(".AND.", .and)]

/-- Longer operators stand before those they begin with. -/
def comparisonOps : List (String × BinaryOp) :=
  [("!=", .notEqual), ("<>", .notEqual), ("<=", .lessEqual), (">=", .greaterEqual), ("=", .equal),
   ("<", .less), (">", .greater), (".CONTAINS.", .contains)]

def sumOps : List (String × BinaryOp) := [("+", .add), ("-", .subtract)]

def productOps : List (String × BinaryOp) := [("*", .multiply), ("/", .divide)]

/-- An operand, or two with one comparison between them. -/
def comparison (operand : Parser Expr) : Parser Expr := fun s =>
  (operand s).andThen fun left rest =>
    match firstToken? comparisonOps rest with
    | none => .done left rest
    | some (op, more) =>
      match operand more with
      | .done right rest => bounded (.binary op left right) rest
      | .stuck _ => .done left rest
      | .tooDeep => .tooDeep

/-- Arguments after the first, for as long as they can be read. -/
def moreArguments (argument : Parser Expr) : Nat → Parser (List Expr)
  | 0, s => .done [] s
  | fuel + 1, s =>
    match s with
    | ',' :: rest =>
      match argument rest with
      | .done e rest =>
        (moreArguments argument fuel rest).andThen fun more rest => .done (e :: more) rest
      | .stuck _ => .done [] s
      | .tooDeep => .tooDeep
    | _ => .done [] s

/-- Any number of arguments with commas between them. -/
def arguments (argument : Parser Expr) : Parser (List Expr) := fun s =>
  match argument s with
  | .done e rest =>
    (moreArguments argument rest.length rest).andThen fun more rest => .done (e :: more) rest
  | .stuck _ => .done [] s
  | .tooDeep => .tooDeep

/-- The layers of one depth.  An operand in parentheses or after `.NOT.` or a minus belongs to the
layers one level further down. -/
structure Layers where
  disjunction : Parser Expr
  negation : Parser Expr
  unary : Parser Expr

/-- Beyond the deepest level nothing is read. -/
def Layers.closed : Layers := ⟨fun _ => .tooDeep, fun _ => .tooDeep, fun _ => .tooDeep⟩

/-- `( … )` -/
def parenthesized (below : Layers) : Parser Expr := fun s =>
  match s with
  | '(' :: rest =>
    (below.disjunction rest).andThen fun e rest =>
      match afterSpaced? ")" rest with
      | some rest => .done e rest
      | none => .stuck rest
  | s => .stuck s

/-- A function name and its arguments. -/
def functionCall (below : Layers) : Parser Expr := fun s =>
  match name? s with
  | none => .stuck s
  | some (name, rest) =>
    match Function.ofName? name with
    | none => .stuck s
    | some f =>
      match afterSpaced? "(" rest with
      | none => .stuck s
      | some rest =>
        (arguments below.disjunction rest).andThen fun args rest =>
          match afterSpaced? ")" rest with
          | some rest => bounded (.call f args) rest
          | none => .stuck rest

/-- What is left when neither parentheses nor a call stand at the front: a constant, a numeral, a
string, a former value. -/
def atom? (s : List Char) : Option (Expr × List Char) :=
  (constant? constants s).orElse fun _ =>
    ((numeral? s).map fun (v, rest) => (.literal v, rest)).orElse fun _ =>
      ((string? s).map fun (t, rest) => (.literal (.str (String.ofList t)), rest)).orElse fun _ =>
        (lastName? s).map fun (n, rest) => (.last (String.ofList n), rest)

/-- A field, when nothing else stands at the front. -/
def fieldName : Parser Expr := fun s =>
  match name? s with
  | some (n, rest) => .done (.field (String.ofList n)) rest
  | none => .stuck s

/-- What stands alone; blanks before it have been skipped. -/
def primaryHere (below : Layers) : Parser Expr := fun s =>
  match parenthesized below s with
  | .stuck _ =>
    match atom? s with
    | some (e, rest) => .done e rest
    | none =>
      match functionCall below s with
      | .stuck _ => fieldName s
      | outcome => outcome
  | outcome => outcome

def primary (below : Layers) : Parser Expr := fun s =>
  (primaryHere below (skipSpaces s)).andThen fun e rest => .done e (skipSpaces rest)

def unaryAt (below : Layers) : Parser Expr := fun s =>
  match afterSpaced? "-" s with
  | some rest => (below.unary rest).andThen fun e rest => bounded (.negate e) rest
  | none => primary below s

def negationAt (below : Layers) : Parser Expr := fun s =>
  match afterSpaced? ".NOT." s with
  | some rest => (below.negation rest).andThen fun e rest => bounded (.not e) rest
  | none => comparison (chain sumOps (chain productOps (unaryAt below))) s

def disjunctionAt (below : Layers) : Parser Expr :=
  chain orOps (chain andOps (negationAt below))

/-- The layers that have `room` levels below them. -/
def Layers.withRoom : Nat → Layers
  | 0 => ⟨disjunctionAt .closed, negationAt .closed, unaryAt .closed⟩
  | room + 1 =>
    let below := withRoom room
    ⟨disjunctionAt below, negationAt below, unaryAt below⟩

/-! ## Whole expressions -/

/-- What is wrong with the text of an expression. -/
inductive ParseError where
  | tooDeep
  | endOfText
  /-- The byte at which something stands that cannot, and the text from there. -/
  | unexpected (offset : Nat) (excerpt : String)
  | arity (f : Function) (given : Nat)

/-- Characters of the text that an error shows. -/
def excerptLength : Nat := 16

namespace ParseError

def message : ParseError → String
  | .tooDeep => "expression nested too deeply"
  | .endOfText => "unexpected end of expression"
  | .unexpected offset excerpt =>
    s!"unexpected input at offset {offset}: " ++ Text.quoted excerpt
  | .arity f given => f.name ++ s!" expects {f.arity} argument(s), got {given}"

end ParseError

/-- The error for a text of which `rest` could not be read. -/
def unread (source rest : List Char) : ParseError :=
  if (Text.trim rest).isEmpty then .endOfText
  else
    .unexpected (Text.byteSize source - Text.byteSize rest)
      (String.ofList (rest.take excerptLength))

mutual

/-- The first call, from the outside in and from left to right, with a wrong number of arguments. -/
def arityError? : Expr → Option ParseError
  | .not x => arityError? x
  | .negate x => arityError? x
  | .binary _ l r => (arityError? l).orElse fun _ => arityError? r
  | .call f args =>
    if args.length ≠ f.arity then some (.arity f args.length) else arityErrors? args
  | _ => none

def arityErrors? : List Expr → Option ParseError
  | [] => none
  | x :: rest => (arityError? x).orElse fun _ => arityErrors? rest

end

/-- The tree of a text, whatever the numbers of arguments in it. -/
def parseTree (source : List Char) : Except ParseError Expr :=
  match (Layers.withRoom (maxDepth - 1)).disjunction (skipSpaces source) with
  | .done e rest =>
    let rest := skipSpaces rest
    if rest.isEmpty then .ok e else .error (unread source rest)
  | .stuck rest => .error (unread source rest)
  | .tooDeep => .error .tooDeep

def parse (source : String) : Except ParseError Expr := do
  let e ← parseTree source.toList
  match arityError? e with
  | some error => throw error
  | none => return e

end RuleBench.Expr
