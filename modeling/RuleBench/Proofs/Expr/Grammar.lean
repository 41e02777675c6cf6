import Mathlib.Algebra.Group.Nat.Defs
import RuleBench.Expr.Parser

set_option autoImplicit false

/-!
# The grammar of expressions

Which trees a text stands for, with no regard to how it is read.  Every phrase has a level, which
grows by one inside parentheses, in an argument, after `.NOT.` and after a minus, and no phrase lies
deeper than `maxDepth`.
-/

namespace RuleBench

namespace Expr

/-! ## Tokens -/

def Spaces (w : List Char) : Prop := ∀ c ∈ w, isSpace c = true

/-- A token with any blanks on both sides. -/
def Spaced (token : List Char → Prop) (w : List Char) : Prop :=
  ∃ before core after, Spaces before ∧ token core ∧ Spaces after ∧ w = before ++ core ++ after

/-- A spelling, with letters in any case. -/
def Spells (spelling : String) (w : List Char) : Prop :=
  Text.sameLetters spelling.toList w = true

def Digits (w : List Char) : Prop := w ≠ [] ∧ ∀ c ∈ w, Text.asciiDigit c = true

def Name (w : List Char) : Prop :=
  ∃ c rest, w = c :: rest ∧ startsName c = true ∧ ∀ d ∈ rest, inName d = true

/-- What stands between quotes, and the text that it denotes. -/
inductive Quoted : List Char → List Char → Prop where
  | nil : Quoted [] []
  | plain {c : Char} {w t : List Char} (hq : c ≠ '"') (hb : c ≠ '\\') (h : Quoted w t) :
      Quoted (c :: w) (c :: t)
  | backslash {w t : List Char} (h : Quoted w t) : Quoted ('\\' :: '\\' :: w) ('\\' :: t)
  | quote {w t : List Char} (h : Quoted w t) : Quoted ('\\' :: '"' :: w) ('"' :: t)
  | newline {w t : List Char} (h : Quoted w t) : Quoted ('\\' :: 'n' :: w) ('\n' :: t)

/-- What stands alone and has nothing within it. -/
inductive Atom : Expr → List Char → Prop where
  | constant {spelling : String} {e : Expr} {w : List Char} (h : (spelling, e) ∈ constants)
      (hw : Spells spelling w) : Atom e w
  | integer {w : List Char} (h : Digits w) (small : digitsValue w < 2 ^ 63) :
      Atom (.literal (Json.ofNat (digitsValue w))) w
  | decimal {whole fraction : List Char} (hw : Digits whole) (hf : Digits fraction) :
      Atom (.literal (decimalValue whole fraction)) (whole ++ '.' :: fraction)
  | string {w t : List Char} (h : Quoted w t) :
      Atom (.literal (.str (String.ofList t))) ('"' :: (w ++ ['"']))
  | last {keyword gap n : List Char} (hk : Spells "LAST" keyword) (hg : Spaces gap)
      (hne : gap ≠ []) (hn : Name n) : Atom (.last (String.ofList n)) (keyword ++ (gap ++ n))
  | field {n : List Char} (hn : Name n) : Atom (.field (String.ofList n)) n

/-! ## Layers -/

inductive Layer where
  | disjunction
  | conjunction
  | negation
  | comparison
  | sum
  | product
  | unary
  | primary

namespace Layer

/-- The operators that join trees of the next layer. -/
def operators : Layer → List BinaryOp
  | .disjunction => [.or]
  | .conjunction => [.and]
  | .comparison => [.equal, .notEqual, .less, .lessEqual, .greater, .greaterEqual, .contains]
  | .sum => [.add, .subtract]
  | .product => [.multiply, .divide]
  | _ => []

def next : Layer → Layer
  | .disjunction => .conjunction
  | .conjunction => .negation
  | .negation => .comparison
  | .comparison => .sum
  | .sum => .product
  | .product => .unary
  | _ => .primary

/-- The layers of which any number of operators may follow one another. -/
def IsChain : Layer → Prop
  | .disjunction | .conjunction | .sum | .product => True
  | _ => False

end Layer

def spellings : BinaryOp → List String
  | .notEqual => ["!=", "<>"]
  | op => [op.symbol]

def Operator (layer : Layer) (op : BinaryOp) (w : List Char) : Prop :=
  op ∈ layer.operators ∧ ∃ spelling ∈ spellings op, Spaced (Spells spelling) w

inductive Phrase where
  | tree (layer : Layer) (e : Expr)
  /-- Operators of a layer, each with its right operand. -/
  | links (layer : Layer) (more : List (BinaryOp × Expr))
  | arguments (args : List Expr)
  /-- Arguments with a comma before each. -/
  | furtherArguments (args : List Expr)

/-- `Derives level phrase w`: the text `w` stands for `phrase` at this level. -/
inductive Derives : Nat → Phrase → List Char → Prop where
  | chain {level : Nat} {layer : Layer} {e : Expr} {more : List (BinaryOp × Expr)}
      {w v : List Char} (hl : layer.IsChain) (first : Derives level (.tree layer.next e) w)
      (rest : Derives level (.links layer more) v) :
      Derives level (.tree layer (foldChain e more)) (w ++ v)
  | noLink {level : Nat} {layer : Layer} : Derives level (.links layer []) []
  | link {level : Nat} {layer : Layer} {op : BinaryOp} {e : Expr}
      {more : List (BinaryOp × Expr)} {t w v : List Char} (ht : Operator layer op t)
      (operand : Derives level (.tree layer.next e) w)
      (rest : Derives level (.links layer more) v) :
      Derives level (.links layer ((op, e) :: more)) (t ++ (w ++ v))
  | not {level : Nat} {e : Expr} {t w : List Char} (room : level < maxDepth)
      (ht : Spaced (Spells ".NOT.") t) (h : Derives (level + 1) (.tree .negation e) w) :
      Derives level (.tree .negation (.not e)) (t ++ w)
  | unnegated {level : Nat} {e : Expr} {w : List Char}
      (h : Derives level (.tree .comparison e) w) : Derives level (.tree .negation e) w
  | compare {level : Nat} {op : BinaryOp} {x y : Expr} {w t v : List Char}
      (left : Derives level (.tree .sum x) w) (ht : Operator .comparison op t)
      (right : Derives level (.tree .sum y) v) :
      Derives level (.tree .comparison (.binary op x y)) (w ++ (t ++ v))
  | uncompared {level : Nat} {e : Expr} {w : List Char} (h : Derives level (.tree .sum e) w) :
      Derives level (.tree .comparison e) w
  | minus {level : Nat} {e : Expr} {t w : List Char} (room : level < maxDepth)
      (ht : Spaced (Spells "-") t) (h : Derives (level + 1) (.tree .unary e) w) :
      Derives level (.tree .unary (.negate e)) (t ++ w)
  | unsigned {level : Nat} {e : Expr} {w : List Char}
      (h : Derives level (.tree .primary e) w) : Derives level (.tree .unary e) w
  | parentheses {level : Nat} {e : Expr} {t w u : List Char} (room : level < maxDepth)
      (ht : Spaced (Spells "(") t) (h : Derives (level + 1) (.tree .disjunction e) w)
      (hu : Spaced (Spells ")") u) : Derives level (.tree .primary e) (t ++ (w ++ u))
  | atom {level : Nat} {e : Expr} {w : List Char} (h : Spaced (Atom e) w) :
      Derives level (.tree .primary e) w
  | call {level : Nat} {f : Function} {args : List Expr} {before n t w u : List Char}
      (hb : Spaces before) (hn : Spells f.name n) (ht : Spaced (Spells "(") t)
      (h : Derives level (.arguments args) w) (hu : Spaced (Spells ")") u) :
      Derives level (.tree .primary (.call f args)) (before ++ (n ++ (t ++ (w ++ u))))
  | noArguments {level : Nat} : Derives level (.arguments []) []
  | someArguments {level : Nat} {e : Expr} {args : List Expr} {w v : List Char}
      (room : level < maxDepth) (h : Derives (level + 1) (.tree .disjunction e) w)
      (rest : Derives level (.furtherArguments args) v) :
      Derives level (.arguments (e :: args)) (w ++ v)
  | noFurtherArguments {level : Nat} : Derives level (.furtherArguments []) []
  | furtherArgument {level : Nat} {e : Expr} {args : List Expr} {t w v : List Char}
      (room : level < maxDepth) (ht : Spaced (Spells ",") t)
      (h : Derives (level + 1) (.tree .disjunction e) w)
      (rest : Derives level (.furtherArguments args) v) :
      Derives level (.furtherArguments (e :: args)) (t ++ (w ++ v))

/-! ## Numbers of arguments -/

mutual

/-- Every call in a tree has as many arguments as its function takes. -/
def Fits : Expr → Prop
  | .not x => Fits x
  | .negate x => Fits x
  | .binary _ l r => Fits l ∧ Fits r
  | .call f args => args.length = f.arity ∧ AllFit args
  | _ => True

def AllFit : List Expr → Prop
  | [] => True
  | x :: rest => Fits x ∧ AllFit rest

end

theorem orElse_eq_none_iff {α : Type} {a : Option α} {b : Unit → Option α} :
    a.orElse b = none ↔ a = none ∧ b () = none := by
  cases a with
  | none => exact ⟨fun h => ⟨rfl, h⟩, And.right⟩
  | some _ => exact ⟨fun h => (Option.some_ne_none _ h).elim, fun h => h.1⟩

mutual

theorem arityError?_eq_none_iff (e : Expr) : arityError? e = none ↔ e.Fits := by
  cases e with
  | literal | field | last | now | today => simp [arityError?, Fits]
  | not x => exact arityError?_eq_none_iff x
  | negate x => exact arityError?_eq_none_iff x
  | binary op l r =>
    rw [arityError?, Fits, orElse_eq_none_iff, arityError?_eq_none_iff l,
      arityError?_eq_none_iff r]
  | call f args =>
    rw [arityError?, Fits]
    by_cases h : args.length = f.arity
    · simp only [h, ne_eq, not_true_eq_false, ↓reduceIte, true_and]
      exact arityErrors?_eq_none_iff args
    · simp [h]

theorem arityErrors?_eq_none_iff (args : List Expr) : arityErrors? args = none ↔ AllFit args := by
  cases args with
  | nil => simp [arityErrors?, AllFit]
  | cons x rest =>
    rw [arityErrors?, AllFit, orElse_eq_none_iff, arityError?_eq_none_iff x,
      arityErrors?_eq_none_iff rest]

end

end Expr

end RuleBench
