import RuleBench.Expr.Eval
import RuleBench.Expr.Parser

set_option autoImplicit false

/-!
# Expression engines

An engine reads expressions and evaluates them.  It may refuse either, and it may break down.
-/

namespace RuleBench

/-- How a call of an engine ends.  Of a breakdown nothing counts but the text it left: to throw away
whatever else came of it is taken to do nothing more, and not to break down again. -/
inductive Attempt (α : Type) where
  | done (a : α)
  | refused (message : String)
  /-- The engine broke down, and left a text or not. -/
  | broken (text : Option String)

/-- `α` is what expressions are read into.  An engine keeps no state between calls: what a call comes
to depends on what it is given and on nothing else. -/
structure Engine (α : Type) where
  parse : String → Attempt α
  evaluate : α → Scope → Attempt Json

namespace Attempt

variable {α ε : Type}

def ofExcept (message : ε → String) : Except ε α → Attempt α
  | .ok a => .done a
  | .error e => .refused (message e)

def isBroken : Attempt α → Bool
  | .broken _ => true
  | _ => false

theorem isBroken_ofExcept (message : ε → String) (x : Except ε α) :
    (ofExcept message x).isBroken = false := by cases x <;> rfl

end Attempt

namespace Engine

/-- An engine that refuses, at the worst. -/
def IsSound {α : Type} (e : Engine α) : Prop :=
  (∀ source, (e.parse source).isBroken = false) ∧ ∀ x s, (e.evaluate x s).isBroken = false

/-- The engine for the expressions of this library. -/
def basic : Engine Expr where
  parse source := .ofExcept Expr.ParseError.message (Expr.parse source)
  evaluate e s := .ofExcept Expr.EvalError.message (e.eval s)

theorem isSound_basic : basic.IsSound :=
  ⟨fun _ => Attempt.isBroken_ofExcept _ _, fun _ _ => Attempt.isBroken_ofExcept _ _⟩

end Engine

end RuleBench
