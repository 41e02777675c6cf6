import RuleBench.Json.Basic
import RuleBench.Text.Casing

set_option autoImplicit false

/-!
# Expressions

The tree of a rule expression, the spelling of its operators and functions, and its height, which is
kept within `maxDepth` wherever trees come from text.
-/

namespace RuleBench

inductive BinaryOp where
  | or
  | and
  | equal
  | notEqual
  | less
  | lessEqual
  | greater
  | greaterEqual
  | contains
  | add
  | subtract
  | multiply
  | divide
  deriving DecidableEq

def BinaryOp.symbol : BinaryOp → String
  | .or => ".OR."
  | .and => ".AND."
  | .equal => "="
  | .notEqual => "!="
  | .less => "<"
  | .lessEqual => "<="
  | .greater => ">"
  | .greaterEqual => ">="
  | .contains => ".CONTAINS."
  | .add => "+"
  | .subtract => "-"
  | .multiply => "*"
  | .divide => "/"

inductive Function where
  /-- The second or the third argument, as the first one says. -/
  | iif
  /-- The length of a text or a list. -/
  | length
  /-- Whether a text has a part that matches a pattern. -/
  | matches
  | upper
  | lower
  deriving DecidableEq

namespace Function

def name : Function → String
  | .iif => "IIF"
  | .length => "LENGTH"
  | .matches => "MATCH"
  | .upper => "UPPER"
  | .lower => "LOWER"

def arity : Function → Nat
  | .iif => 3
  | .length => 1
  | .matches => 2
  | .upper => 1
  | .lower => 1

def all : List Function := [.iif, .length, .matches, .upper, .lower]

/-- The function of a name in any letter case. -/
def ofName? (name : List Char) : Option Function :=
  all.find? fun f => Text.sameLetters f.name.toList name

end Function

inductive Expr where
  | literal (v : Json)
  | field (name : String)
  /-- A field of the record as it was before. -/
  | last (name : String)
  | now
  | today
  | not (x : Expr)
  | negate (x : Expr)
  | binary (op : BinaryOp) (left right : Expr)
  | call (f : Function) (args : List Expr)

namespace Expr

instance : Inhabited Expr := ⟨.now⟩

/-- The greatest height of a tree, and the greatest depth of nesting in a text. -/
def maxDepth : Nat := 64

mutual

def height : Expr → Nat
  | .not x => height x + 1
  | .negate x => height x + 1
  | .binary _ l r => max (height l) (height r) + 1
  | .call _ args => heights args + 1
  | _ => 1

/-- The greatest height of several trees. -/
def heights : List Expr → Nat
  | [] => 0
  | x :: rest => max (height x) (heights rest)

end

theorem height_pos (e : Expr) : 0 < e.height := by cases e <;> simp [height]

end Expr

end RuleBench
