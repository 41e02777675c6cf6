import RuleBench.Expr.Parser
import RuleBench.Proofs.Expr.Comparison

set_option autoImplicit false

/-!
# Boolean operators

`.AND.`, `.OR.`, `.NOT.` and `IIF` follow the laws of boolean algebra on operands of every kind,
those that fail included.  Both sides of a law have the same value or both fail.  An operand that
fails makes both sides fail with its own error; only who refuses a value that is no boolean may
differ.
-/

namespace RuleBench

/-- The two operators that join booleans. -/
inductive Connective where
  | and
  | or

namespace Connective

def op : Connective → BinaryOp
  | .and => .and
  | .or => .or

/-- The left operand that decides the result, which is then the same. -/
def decider : Connective → Bool
  | .and => false
  | .or => true

def dual : Connective → Connective
  | .and => .or
  | .or => .and

theorem decider_dual (k : Connective) : k.dual.decider = !k.decider := by cases k <;> rfl

end Connective

namespace Expr

/-- A boolean combination of expressions, in which the operands stay apart from what combines them.
-/
inductive Formula where
  | operand (e : Expr)
  | not (f : Formula)
  | join (k : Connective) (f g : Formula)
  | choose (condition f g : Formula)

namespace Formula

def expr : Formula → Expr
  | operand e => e
  | not f => .not f.expr
  | join k f g => .binary k.op f.expr g.expr
  | choose condition f g => .call .iif [condition.expr, f.expr, g.expr]

/-- Why a formula has no value. -/
inductive Failure where
  /-- Evaluating one of its operands fails. -/
  | own (error : EvalError)
  /-- What combines the operands is given something other than a boolean. -/
  | refusal (asker : Asker) (found : Kind)

def Failure.error : Failure → EvalError
  | own error => error
  | refusal asker found => .notBoolean asker found

def ask (asker : Asker) : Json → Except Failure Bool
  | .bool b => .ok b
  | v => .error (.refusal asker (Kind.of v))

/-- Evaluation that keeps the failures of operands apart. -/
def outcome (s : Scope) : Formula → Except Failure Json
  | operand e => (e.eval s).mapError .own
  | not f => do return .bool !(← ask .negation (← f.outcome s))
  | join k f g => do
    let left ← ask (.operator k.op) (← f.outcome s)
    if left = k.decider then return .bool left
    else return .bool (← ask (.operator k.op) (← g.outcome s))
  | choose condition f g => do
    if ← ask .condition (← condition.outcome s) then f.outcome s else g.outcome s

theorem asBool_eq (asker : Asker) (v : Json) :
    asBool asker v = (ask asker v).mapError Failure.error := by
  cases v <;> rfl

theorem decided?_op (k : Connective) (v : Json) :
    decided? k.op v = (asBool (.operator k.op) v).map fun left =>
      if left = k.decider then some (.bool left) else none := by
  cases k <;> cases v with
  | bool b => cases b <;> rfl
  | _ => rfl

theorem combine_op (k : Connective) (v w : Json) :
    combine k.op v w = (asBool (.operator k.op) w).map .bool := by
  cases k <;> rfl

theorem eval_expr (s : Scope) (f : Formula) :
    f.expr.eval s = (f.outcome s).mapError Failure.error := by
  induction f with
  | operand e =>
    rw [outcome, expr]
    cases e.eval s <;> rfl
  | not f ih =>
    rw [outcome, expr, eval, ih]
    cases f.outcome s with
    | error failure => rfl
    | ok v => cases v <;> rfl
  | join k f g ihf ihg =>
    rw [outcome, expr, eval, ihf, ihg]
    -- both sides stop at the first failure, so the cases come in the order of evaluation
    cases f.outcome s with
    | error failure => rfl
    | ok v =>
      simp only [Except.mapError, bind, Except.bind, decided?_op, asBool_eq]
      cases ask (.operator k.op) v with
      | error failure => rfl
      | ok left =>
        by_cases hleft : left = k.decider
        · simp only [Except.map, if_pos hleft]
          rfl
        · simp only [Except.map, if_neg hleft]
          cases g.outcome s with
          | error failure => rfl
          | ok w =>
            simp only [combine_op, asBool_eq]
            cases ask (.operator k.op) w <;> rfl
  | choose condition f g ihc ihf ihg =>
    rw [outcome, expr, eval, callValue]
    simp only [evalArgument, ihc, ihf, ihg]
    cases condition.outcome s with
    | error failure => rfl
    | ok v =>
      cases v with
      | bool b => cases b <;> rfl
      | _ => rfl

/-! ## Laws of formulas -/

section Laws

variable {s : Scope}

/-- The boolean that a formula has as its value. -/
def truth (s : Scope) (asker : Asker) (f : Formula) : Except Failure Bool :=
  f.outcome s >>= ask asker

theorem outcome_not (f : Formula) :
    (not f).outcome s = truth s .negation f >>= fun b => .ok (.bool !b) := by
  rw [outcome, truth, bind_assoc]
  rfl

theorem outcome_join (k : Connective) (f g : Formula) :
    (join k f g).outcome s = truth s (.operator k.op) f >>= fun left =>
      if left = k.decider then .ok (.bool left)
      else truth s (.operator k.op) g >>= fun right => .ok (.bool right) := by
  rw [outcome, truth, bind_assoc]
  refine bind_congr fun v => bind_congr fun left => if_congr Iff.rfl rfl ?_
  rw [truth, bind_assoc]
  rfl

theorem outcome_choose (condition f g : Formula) :
    (choose condition f g).outcome s = truth s .condition condition >>= fun b =>
      if b then f.outcome s else g.outcome s := by
  rw [outcome, truth, bind_assoc]

theorem truth_not (asker : Asker) (f : Formula) :
    truth s asker (not f) = truth s .negation f >>= fun b => .ok !b := by
  rw [truth, outcome_not, bind_assoc]
  rfl

theorem truth_join (asker : Asker) (k : Connective) (f g : Formula) :
    truth s asker (join k f g) = truth s (.operator k.op) f >>= fun left =>
      if left = k.decider then .ok left else truth s (.operator k.op) g := by
  rw [truth, outcome_join, bind_assoc]
  refine bind_congr fun left => ?_
  split
  · rfl
  · rw [bind_assoc]
    exact bind_pure _

theorem join_assoc (k : Connective) (f g h : Formula) :
    (join k (join k f g) h).outcome s = (join k f (join k g h)).outcome s := by
  rw [outcome_join, outcome_join, truth_join, truth_join, bind_assoc]
  refine bind_congr fun left => ?_
  by_cases hleft : left = k.decider
  · rw [if_pos hleft, if_pos hleft]
    exact if_pos hleft
  · rw [if_neg hleft, if_neg hleft, bind_assoc]
    refine bind_congr fun middle => ?_
    split <;> rfl

/-- Two outcomes that are the same, but for who refuses a value that is no boolean. -/
inductive Agree {α : Type} : Except Failure α → Except Failure α → Prop where
  | same (r : Except Failure α) : Agree r r
  | refusals (asker asker' : Asker) (found : Kind) :
    Agree (.error (.refusal asker found)) (.error (.refusal asker' found))

theorem Agree.bind {α β : Type} {r r' : Except Failure α} {next next' : α → Except Failure β}
    (h : Agree r r') (hnext : ∀ a, Agree (next a) (next' a)) :
    Agree (r >>= next) (r' >>= next') := by
  cases h with
  | same r =>
    cases r with
    | error failure => exact .same _
    | ok a => exact hnext a
  | refusals asker asker' found => exact .refusals asker asker' found

theorem agree_truth (asker asker' : Asker) (f : Formula) :
    Agree (truth s asker f) (truth s asker' f) := by
  refine Agree.bind (.same _) fun v => ?_
  cases v with
  | bool b => exact .same _
  | _ => exact .refusals asker asker' _

theorem not_join (k : Connective) (f g : Formula) :
    Agree ((not (join k f g)).outcome s) ((join k.dual (not f) (not g)).outcome s) := by
  rw [outcome_not, outcome_join, truth_join, truth_not, truth_not, bind_assoc, bind_assoc]
  refine Agree.bind (agree_truth _ _ f) fun left => ?_
  change Agree _ (if (!left) = k.dual.decider then _ else _)
  by_cases hleft : left = k.decider
  · rw [if_pos hleft, if_pos (by rw [k.decider_dual, hleft])]
    exact .same _
  · have hdual : (!left) ≠ k.dual.decider := by
      rw [k.decider_dual]
      exact fun heq => hleft (Bool.not_inj heq)
    rw [if_neg hleft, if_neg hdual, bind_assoc]
    exact Agree.bind (agree_truth _ _ g) fun right => .same _

theorem choose_not (condition f g : Formula) :
    Agree ((choose condition f g).outcome s) ((choose (not condition) g f).outcome s) := by
  rw [outcome_choose, outcome_choose, truth_not, bind_assoc]
  refine Agree.bind (agree_truth _ _ condition) fun b => ?_
  cases b <;> exact .same _

end Laws

/-! ## Laws of expressions -/

/-- The formula fails because evaluating one of its operands does. -/
def OperandFails (s : Scope) (f : Formula) : Prop := ∃ error, f.outcome s = .error (.own error)

/-- Both formulas have the same value or both fail, and with the same error if an operand fails. -/
def Concur (s : Scope) (f g : Formula) : Prop :=
  (∃ v, f.expr.eval s = .ok v ∧ g.expr.eval s = .ok v) ∨
    ∃ error error', f.expr.eval s = .error error ∧ g.expr.eval s = .error error' ∧
      (f.OperandFails s ∨ g.OperandFails s → error = error')

theorem concur_of_agree {s : Scope} {f g : Formula} (h : Agree (f.outcome s) (g.outcome s)) :
    Concur s f g := by
  unfold Concur OperandFails
  rw [eval_expr, eval_expr]
  generalize f.outcome s = r at h ⊢
  generalize g.outcome s = r' at h ⊢
  cases h with
  | same =>
    cases r with
    | error failure => exact .inr ⟨_, _, rfl, rfl, fun _ => rfl⟩
    | ok v => exact .inl ⟨v, rfl, rfl⟩
  | refusals asker asker' found =>
    refine .inr ⟨_, _, rfl, rfl, ?_⟩
    rintro (⟨error, herror⟩ | ⟨error, herror⟩) <;> cases herror

end Formula

section Evaluation

variable {s : Scope}

theorem eval_join_assoc (k : Connective) (a b c : Expr) :
    (binary k.op (binary k.op a b) c).eval s = (binary k.op a (binary k.op b c)).eval s := by
  have hleft := Formula.eval_expr s (.join k (.join k (.operand a) (.operand b)) (.operand c))
  have hright := Formula.eval_expr s (.join k (.operand a) (.join k (.operand b) (.operand c)))
  rw [Formula.join_assoc, ← hright] at hleft
  exact hleft

/-- The operands of one operator, grouped to the right. -/
def chainRight (op : BinaryOp) : Expr → List Expr → Expr
  | first, [] => first
  | first, next :: rest => .binary op first (chainRight op next rest)

/-- A chain may group to the left, as it is read, or to the right. -/
theorem eval_foldChain (k : Connective) (first : Expr) (rest : List Expr) :
    (foldChain first (rest.map fun e => (k.op, e))).eval s =
      (chainRight k.op first rest).eval s := by
  induction rest generalizing first with
  | nil => rfl
  | cons next rest ih =>
    refine (ih (binary k.op first next)).trans ?_
    cases rest with
    | nil => rfl
    | cons third rest => exact eval_join_assoc k first next (chainRight k.op third rest)

/-- The right operand matters only where the left one does not decide. -/
theorem eval_join_congr {k : Connective} {a b b' : Expr}
    (h : a.eval s = .ok (.bool !k.decider) → b'.eval s = b.eval s) :
    (binary k.op a b').eval s = (binary k.op a b).eval s := by
  rw [eval, eval]
  cases ha : a.eval s with
  | error error => rfl
  | ok v =>
    cases v with
    | bool left =>
      by_cases hleft : left = k.decider
      · subst hleft
        cases k <;> rfl
      · rw [h (by rw [ha, Bool.eq_not_of_ne hleft])]
    | _ => cases k <;> rfl

theorem eval_iif (a b c : Expr) :
    (call .iif [a, b, c]).eval s = (a.eval s >>= asBool .condition) >>= fun chosen =>
      if chosen then b.eval s else c.eval s := by
  rw [eval, callValue, bind_assoc]
  rfl

/-- A branch matters only where the condition chooses it. -/
theorem eval_iif_congr {a b b' c c' : Expr}
    (hb : a.eval s = .ok (.bool true) → b'.eval s = b.eval s)
    (hc : a.eval s = .ok (.bool false) → c'.eval s = c.eval s) :
    (call .iif [a, b', c']).eval s = (call .iif [a, b, c]).eval s := by
  rw [eval_iif, eval_iif]
  cases ha : a.eval s with
  | error error => rfl
  | ok v =>
    cases v with
    | bool chosen =>
      cases chosen with
      | true => exact hb ha
      | false => exact hc ha
    | _ => rfl

end Evaluation

/-- The laws of `.AND.` and `.OR.`, each with the value that decides it, and of `.NOT.` and `IIF`: a
chain may be grouped to either side; negation changes one operator for the other, and swaps the two
branches of a condition; and an operand or a branch that is not taken does not matter. -/
theorem connectives_short_circuit (s : Scope) (a b c : Expr) :
    (∀ k : Connective,
      (binary k.op (binary k.op a b) c).eval s = (binary k.op a (binary k.op b c)).eval s) ∧
    (∀ (k : Connective) (rest : List Expr),
      (foldChain a (rest.map fun e => (k.op, e))).eval s = (chainRight k.op a rest).eval s) ∧
    (∀ k : Connective, Formula.Concur s (.not (.join k (.operand a) (.operand b)))
      (.join k.dual (.not (.operand a)) (.not (.operand b)))) ∧
    Formula.Concur s (.choose (.operand a) (.operand b) (.operand c))
      (.choose (.not (.operand a)) (.operand c) (.operand b)) ∧
    (∀ k : Connective, a.eval s ≠ .ok (.bool !k.decider) → ∀ b' : Expr,
      (binary k.op a b').eval s = (binary k.op a b).eval s) ∧
    (a.eval s ≠ .ok (.bool true) → ∀ b' : Expr,
      (call .iif [a, b', c]).eval s = (call .iif [a, b, c]).eval s) ∧
    (a.eval s ≠ .ok (.bool false) → ∀ c' : Expr,
      (call .iif [a, b, c']).eval s = (call .iif [a, b, c]).eval s) :=
  ⟨fun k => eval_join_assoc k a b c, fun k rest => eval_foldChain k a rest,
    fun k => Formula.concur_of_agree (Formula.not_join k _ _),
    Formula.concur_of_agree (Formula.choose_not _ _ _),
    fun _ h _ => eval_join_congr fun h' => absurd h' h,
    fun h _ => eval_iif_congr (fun h' => absurd h' h) fun _ => rfl,
    fun h _ => eval_iif_congr (fun _ => rfl) fun h' => absurd h' h⟩

/-- A division by zero, which fails where it is evaluated. -/
def broken : Expr := .binary .divide (.literal (.ofNat 1)) (.literal (.ofNat 0))

/-- The division does not matter behind what decides, and fails alike on both sides of a law. -/
theorem division_behind_decision_does_not_matter :
    (binary .and (.literal (.bool false)) broken).eval emptyScope = .ok (.bool false) ∧
    (call .iif [.literal (.bool false), broken, .now]).eval emptyScope =
      Expr.now.eval emptyScope ∧
    (not (binary .and (.literal (.bool true)) broken)).eval emptyScope =
      .error .divisionByZero ∧
    Formula.Concur emptyScope (.not (.join .and (.operand (.literal (.bool true)))
      (.operand broken))) (.join .or (.not (.operand (.literal (.bool true))))
      (.not (.operand broken))) := by
  have hfalse := connectives_short_circuit emptyScope (.literal (.bool false)) (.literal .null) .now
  have htrue := connectives_short_circuit emptyScope (.literal (.bool true)) broken .now
  obtain ⟨-, -, -, -, hright, hbranch, -⟩ := hfalse
  refine ⟨(hright .and nofun broken).trans rfl, (hbranch nofun broken).trans rfl, rfl,
    htrue.2.2.1 .and⟩

end Expr

end RuleBench
