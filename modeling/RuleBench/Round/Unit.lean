import RuleBench.Json.Value
import RuleBench.Round.Engine
import RuleBench.Round.Message
import RuleBench.Text.Quoted

set_option autoImplicit false

/-!
# Evaluation units

A unit answers requests, each by itself.  It reads the request, then every expression, then
evaluates what it has read in the order of the rules, where a value bound by a rule is seen by those
after it.

A strict unit ends the round at the first expression that is refused; otherwise the refusal becomes
the outcome of its rule.
-/

namespace RuleBench

/-- What ends a round early. -/
inductive Stop where
  | failure (f : Failure)
  | broken (text : Option String)

structure EvaluationUnit (α : Type) where
  engine : Engine α
  strict : Bool

/-- A request that has been read. -/
structure Round where
  current : Json
  previous : Json
  now : Calendar.Instant
  today : Calendar.Date

namespace Round

/-- The error names the first part of the request that cannot be read. -/
def ofRequest (r : Request) : Except String Round := do
  let now ← (Calendar.Instant.parse r.now.toList).mapError fun f =>
    "invalid now " ++ Text.quoted r.now ++ ": " ++ f.message
  let today ← (Calendar.Date.parse r.today.toList).mapError fun f =>
    "invalid today " ++ Text.quoted r.today ++ ": " ++ f.message
  let current ← (Json.parse r.currentData).mapError fun f => "current data: " ++ f.message
  let previous ← (Json.parse r.previousData).mapError fun f => "previous data: " ++ f.message
  return ⟨current, previous, now, today⟩

/-- What an expression of the round sees with these values bound. -/
abbrev scope (r : Round) (locals : Bindings) : Scope where
  current := r.current
  previous := r.previous
  locals := locals
  now := r.now
  today := r.today

end Round

/-- A rule with its expression as read by an engine. -/
structure ReadRule (α : Type) where
  rule : ListedRule
  expression : α

namespace EvaluationUnit

variable {α : Type}

/-- The message of a round that a rule ends. -/
def complaint (r : ListedRule) (message : String) : String := r.field ++ ": " ++ message

/-- Reads the expressions of rules; `outputs` gathers the refusals. -/
def readRules (u : EvaluationUnit α) :
    List ListedRule → Outputs → Except Stop (List (ReadRule α) × Outputs)
  | [], outputs => .ok ([], outputs)
  | r :: rest, outputs =>
    match u.engine.parse r.expression with
    | .done e => do
      let (read, outputs) ← readRules u rest outputs
      return (⟨r, e⟩ :: read, outputs)
    | .refused message =>
      if u.strict then .error (.failure (.badExpression (complaint r message)))
      else readRules u rest (Json.putMember r.id (.error message) outputs)
    | .broken text => .error (.broken text)

/-- What a rule binds when its expression has a value. -/
def bind (r : ListedRule) (v : Json) (locals : Bindings) : Bindings :=
  if r.action = .set then Json.putMember r.field v locals else locals

/-- Evaluates rules in their order. -/
def evaluateRules (u : EvaluationUnit α) (round : Round) :
    List (ReadRule α) → Outputs → Bindings → Except Stop Outcomes
  | [], outputs, locals => .ok ⟨outputs, locals⟩
  | ⟨r, e⟩ :: rest, outputs, locals =>
    match u.engine.evaluate e (round.scope locals) with
    | .done v =>
      evaluateRules u round rest (Json.putMember r.id (.value v) outputs) (bind r v locals)
    | .refused message =>
      if u.strict then .error (.failure (.failedExpression (complaint r message)))
      else evaluateRules u round rest (Json.putMember r.id (.error message) outputs) locals
    | .broken text => .error (.broken text)

def run (u : EvaluationUnit α) (request : Request) : Except Stop Outcomes := do
  let round ← (Round.ofRequest request).mapError fun e => .failure (.unreadable e)
  let (read, outputs) ← u.readRules request.rules []
  u.evaluateRules round read outputs []

/-- The reply to a request; there always is one. -/
def reply (u : EvaluationUnit α) (request : Request) : Reply :=
  match u.run request with
  | .ok o => .success o
  | .error (.failure f) => .failure f
  | .error (.broken text) => .unknown text

/-- Answers requests one after another, each under its own number. -/
def serve (u : EvaluationUnit α) (requests : List (Envelope Request)) : List (Envelope Reply) :=
  requests.map fun e => ⟨e.id, u.reply e.payload⟩

end EvaluationUnit

end RuleBench
