import RuleBench.Expr.Basic
import RuleBench.Expr.Scope
import RuleBench.Pattern.Meaning
import RuleBench.Text.Quoted

set_option autoImplicit false

/-!
# Evaluation

An expression has a value in a scope, or an error that says why it has none.  `.AND.`, `.OR.` and
`IIF` evaluate no operand that does not matter.
-/

namespace RuleBench

namespace Expr

/-- The kinds of values, as people are told about them. -/
inductive Kind where
  | empty
  | boolean
  | number
  | string
  | list
  | object
  deriving DecidableEq

def Kind.name : Kind → String
  | .empty => "empty"
  | .boolean => "boolean"
  | .number => "number"
  | .string => "string"
  | .list => "list"
  | .object => "object"

def Kind.of : Json → Kind
  | .null => .empty
  | .bool _ => .boolean
  | .num _ => .number
  | .str _ => .string
  | .arr _ => .list
  | .obj _ => .object

/-- Who asks for a boolean. -/
inductive Asker where
  | operator (op : BinaryOp)
  | negation
  | condition
  deriving DecidableEq

def Asker.name : Asker → String
  | .operator op => op.symbol
  | .negation => ".NOT."
  | .condition => Function.iif.name

inductive EvalError where
  | notBoolean (asker : Asker) (found : Kind)
  | mismatch (op : BinaryOp) (left right : Kind)
  | unsupported (f : Function) (found : Kind)
  /-- Arguments are counted from one. -/
  | missingArgument (f : Function) (position : Nat)
  /-- The message says what is wrong with the pattern. -/
  | badPattern (pattern message : String)
  | divisionByZero
  | notFinite (op : BinaryOp)
  deriving DecidableEq

def EvalError.message : EvalError → String
  | .notBoolean asker found => asker.name ++ " expects a boolean, got " ++ found.name
  | .mismatch op left right =>
    "cannot apply " ++ op.symbol ++ " to " ++ left.name ++ " and " ++ right.name
  | .unsupported f found => f.name ++ " does not accept " ++ found.name
  | .missingArgument f position => f.name ++ s!" is missing argument {position}"
  | .badPattern pattern message => "invalid pattern " ++ Text.quoted pattern ++ ": " ++ message
  | .divisionByZero => "division by zero"
  | .notFinite op => op.symbol ++ " produced a non-finite number"

def asBool (asker : Asker) : Json → Except EvalError Bool
  | .bool b => .ok b
  | v => .error (.notBoolean asker (Kind.of v))

/-! ## Comparison -/

/-- Numbers are equal by their nearest doubles, all else by structure and representation. -/
def equal : Json → Json → Bool
  | .num a, .num b => a.equal b
  | a, b => a.identical b

/-- The order of numbers by their nearest doubles, and of strings by code points. -/
def compare (op : BinaryOp) : Json → Json → Except EvalError Ordering
  | .num a, .num b => .ok (if a.less b then .lt else if b.less a then .gt else .eq)
  | .str a, .str b => .ok (if a < b then .lt else if b < a then .gt else .eq)
  | a, b => .error (.mismatch op (Kind.of a) (Kind.of b))

/-- Whether `part` stands somewhere in a text. -/
def hasPart (part : List Char) : List Char → Bool
  | [] => part.isEmpty
  | c :: rest => part.isPrefixOf (c :: rest) || hasPart part rest

def contains : Json → Json → Except EvalError Bool
  | .null, _ => .ok false
  | .arr items, v => .ok (items.any fun item => equal item v)
  | .str s, .str part => .ok (hasPart part.toList s.toList)
  | a, b => .error (.mismatch .contains (Kind.of a) (Kind.of b))

/-! ## Arithmetic -/

/-- The result in whole numbers, where both operands and the result are signed. -/
def wholeOf? (op : BinaryOp) (x y : Int) : Option Int :=
  let fits (z : Int) : Option Int :=
    if -0x8000000000000000 ≤ z ∧ z < 0x8000000000000000 then some z else none
  match op with
  | .add => fits (x + y)
  | .subtract => fits (x - y)
  | .multiply => fits (x * y)
  | .divide => if y ≠ 0 ∧ x.tmod y = 0 then fits (x.tdiv y) else none
  | _ => none

/-- The result on doubles, if it is finite; `none` for an operator that does not calculate. -/
def real? (op : BinaryOp) (x y : Binary64) : Option (Option Binary64) :=
  match op with
  | .add => some (x.add? y)
  | .subtract => some (x.sub? y)
  | .multiply => some (x.mul? y)
  | .divide => some (x.div? y)
  | _ => none

def signedPair? (a b : Number) : Option (Int × Int) := do
  let x ← a.signed?
  let y ← b.signed?
  return (x, y)

def wholeResult? (op : BinaryOp) (a b : Number) : Option Whole := do
  let (x, y) ← signedPair? a b
  Whole.ofInt? (← wholeOf? op x y)

def realResult (op : BinaryOp) (a b : Number) : Except EvalError Json :=
  if op = .divide ∧ b.toReal.isZero then .error .divisionByZero
  else
    match real? op a.toReal b.toReal with
    | some (some z) => .ok (.num (.real z))
    | some none => .error (.notFinite op)
    | none => .error (.mismatch op .number .number)

/-- Whole numbers stay whole where the result is; `+` joins strings. -/
def arithmetic (op : BinaryOp) : Json → Json → Except EvalError Json
  | .num a, .num b =>
    match wholeResult? op a b with
    | some w => .ok (.num (.whole w))
    | none => realResult op a b
  | .str a, .str b =>
    if op = .add then .ok (.str (a ++ b)) else .error (.mismatch op .string .string)
  | a, b => .error (.mismatch op (Kind.of a) (Kind.of b))

/-! ## Operators and functions -/

/-- What the left operand alone decides. -/
def decided? (op : BinaryOp) (left : Json) : Except EvalError (Option Json) :=
  match op with
  | .and => do
    if ← asBool (.operator .and) left then return none else return some (.bool false)
  | .or => do
    if ← asBool (.operator .or) left then return some (.bool true) else return none
  | _ => .ok none

/-- The value of an operator of which the left operand alone has not decided it. -/
def combine (op : BinaryOp) (left right : Json) : Except EvalError Json :=
  match op with
  | .and => (asBool (.operator .and) right).map .bool
  | .or => (asBool (.operator .or) right).map .bool
  | .equal => .ok (.bool (equal left right))
  | .notEqual => .ok (.bool !(equal left right))
  | .less => (compare op left right).map fun o => .bool (o == .lt)
  | .lessEqual => (compare op left right).map fun o => .bool (o != .gt)
  | .greater => (compare op left right).map fun o => .bool (o == .gt)
  | .greaterEqual => (compare op left right).map fun o => .bool (o != .lt)
  | .contains => (contains left right).map .bool
  | .add => arithmetic .add left right
  | .subtract => arithmetic .subtract left right
  | .multiply => arithmetic .multiply left right
  | .divide => arithmetic .divide left right

def lengthOf : Json → Except EvalError Json
  | .null => .ok (Json.ofNat 0)
  | .str s => .ok (Json.ofNat s.length)
  | .arr items => .ok (Json.ofNat items.length)
  | v => .error (.unsupported .length (Kind.of v))

def matchOf : Json → Json → Except EvalError Json
  | .null, _ => .ok (.bool false)
  | .str subject, .str pattern =>
    match Pattern.parse pattern with
    | .ok p => .ok (.bool (p.isFoundIn subject.toList))
    | .error message => .error (.badPattern pattern message)
  | v, .str _ => .error (.unsupported .matches (Kind.of v))
  | _, v => .error (.unsupported .matches (Kind.of v))

/-- A string with its characters changed; nothing stays nothing. -/
def mapText (f : Function) (change : List Char → List Char) : Json → Except EvalError Json
  | .null => .ok .null
  | .str s => .ok (.str (String.ofList (change s.toList)))
  | v => .error (.unsupported f (Kind.of v))

/-- The value of a call; `argument` evaluates the argument at an index. -/
def callValue (f : Function) (argument : Nat → Except EvalError Json) : Except EvalError Json :=
  match f with
  | .iif => do
    if ← asBool .condition (← argument 0) then argument 1 else argument 2
  | .length => do lengthOf (← argument 0)
  | .matches => do
    let subject ← argument 0
    let pattern ← argument 1
    matchOf subject pattern
  | .upper => do mapText .upper Text.upper (← argument 0)
  | .lower => do mapText .lower Text.lower (← argument 0)

mutual

def eval (s : Scope) : Expr → Except EvalError Json
  | .literal v => .ok v
  | .field name => .ok (s.field name)
  | .last name => .ok (s.previousField name)
  | .now => .ok (.str s.now.stamp)
  | .today => .ok (.str (String.ofList s.today.text))
  | .not x => do return .bool !(← asBool .negation (← eval s x))
  | .negate x => do arithmetic .subtract (Json.ofNat 0) (← eval s x)
  | .binary op l r => do
    let left ← eval s l
    match ← decided? op left with
    | some v => return v
    | none => combine op left (← eval s r)
  | .call f args => callValue f fun index => evalArgument s f index args index

/-- Evaluates the argument that stands `index` places further on; `wanted` counts from the first. -/
def evalArgument (s : Scope) (f : Function) (wanted : Nat) : List Expr → Nat → Except EvalError Json
  | [], _ => .error (.missingArgument f (wanted + 1))
  | x :: _, 0 => eval s x
  | _ :: rest, index + 1 => evalArgument s f wanted rest index

end

end Expr

end RuleBench
