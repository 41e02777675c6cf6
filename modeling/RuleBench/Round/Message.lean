import RuleBench.Calendar.Instant
import RuleBench.Expr.Scope
import RuleBench.Snapshot

set_option autoImplicit false

/-!
# Messages

What is asked of an evaluation unit and what it answers.  A message goes in an envelope, whose
number stands beside the members of the message itself.
-/

namespace RuleBench

structure Envelope (α : Type) where
  id : Nat
  payload : α

/-- One round of evaluation. -/
structure Request where
  rules : List ListedRule
  currentData : String
  previousData : String
  /-- In UTC, to the millisecond. -/
  now : String
  /-- The day that the clock showed. -/
  today : String
  deriving DecidableEq

namespace Request

/-- All rules of a round see the same reading of the clock. -/
def ofSnapshot (s : Snapshot) (now : Calendar.Instant) : Request where
  rules := s.rules
  currentData := s.data
  previousData := s.previousData
  now := now.toUtc.stamp
  today := String.ofList now.date.text

def members (r : Request) : List (String × Json) :=
  [("rules", .arr (r.rules.map ListedRule.toJson)), ("currentData", .str r.currentData),
   ("previousData", .str r.previousData), ("now", .str r.now), ("today", .str r.today)]

def toJson (r : Request) : Json := .obj r.members

open Json in
def form : Form Request :=
  Form.record "struct Request"
    (.field "rules" (Form.list ListedRule.form) none <|
      .field "currentData" Form.text none <|
      .field "previousData" Form.text none <|
      .field "now" Form.text none <|
      .field "today" Form.text none .done)
    fun (rules, currentData, previousData, now, today, _) =>
      ⟨rules, currentData, previousData, now, today⟩

end Request

/-- The outcome of one rule. -/
inductive Output where
  | value (v : Json)
  | error (message : String)

namespace Output

instance : Inhabited Output := ⟨.value .null⟩

/-- Only the value `true` counts as true. -/
def isTrue : Output → Bool
  | .value (.bool b) => b
  | _ => false

def text : Output → String
  | .value v => v.compact
  | .error message => message

def toJson : Output → Json
  | .value v => .obj [("type", .str "value"), ("value", v)]
  | .error message => .obj [("type", .str "error"), ("error", .str message)]

open Json in
def form : Form Output :=
  Form.tagged "Output"
    [("value", "Value", .record (.field "value" Form.any none .done) fun (v, _) => .value v),
      ("error", "Error", .record (.field "error" Form.text none .done) fun (m, _) => .error m)]

end Output

/-- Outcomes by the ids of rules, ascending. -/
abbrev Outputs := List (String × Output)

/-- A map from names in ascending order; of entries under one name the last counts. -/
def mapForm {α : Type} (form : Json.Form α) : Json.Form (List (String × α)) :=
  (Json.Form.entries form).map Json.sortMembers

def Outputs.toJson (o : Outputs) : Json := .obj (o.map fun e => (e.1, e.2.toJson))

def Bindings.toJson (b : Bindings) : Json := .obj b

/-- The outcomes of all rules, and the values bound on the way. -/
structure Outcomes where
  values : Outputs
  updates : Bindings

namespace Outcomes

def members (o : Outcomes) : List (String × Json) :=
  [("values", o.values.toJson), ("updates", o.updates.toJson)]

def toJson (o : Outcomes) : Json := .obj o.members

open Json in
def fields : Fields (Outputs × Bindings × Unit) :=
  .field "values" (mapForm Output.form) none <|
    .field "updates" (mapForm Form.any) none .done

def ofFields : Outputs × Bindings × Unit → Outcomes := fun (values, updates, _) => ⟨values, updates⟩

def form : Json.Form Outcomes := Json.Form.record "struct Evaluated" fields ofFields

end Outcomes

/-- What ends a round before all rules have outcomes. -/
inductive Failure where
  /-- The request cannot be read. -/
  | unreadable (error : String)
  | badExpression (error : String)
  | failedExpression (error : String)
  deriving DecidableEq

open Json in
/-- A text under the name `error`. -/
def errorField : Fields (String × Unit) := .field "error" Form.text none .done

def errorMembers (tag error : String) : List (String × Json) :=
  [("type", .str tag), ("error", .str error)]

namespace Failure

def message : Failure → String
  | .unreadable error => "JSON parse error: " ++ error
  | .badExpression error => "Expression parse error: " ++ error
  | .failedExpression error => "Expression runtime error: " ++ error

def toJson : Failure → Json
  | .unreadable error => .obj (errorMembers "json_parse_error" error)
  | .badExpression error => .obj (errorMembers "expression_parse_error" error)
  | .failedExpression error => .obj (errorMembers "expression_runtime_error" error)

open Json in
def form : Form Failure :=
  Form.tagged "UnitFailure"
    [("json_parse_error", "JsonParseError", .record errorField fun (e, _) => .unreadable e),
      ("expression_parse_error", "ExpressionParseError",
        .record errorField fun (e, _) => .badExpression e),
      ("expression_runtime_error", "ExpressionRuntimeError",
        .record errorField fun (e, _) => .failedExpression e)]

end Failure

/-- The answer to a request. -/
inductive Reply where
  | success (o : Outcomes)
  | failure (f : Failure)
  /-- The engine broke down, and left a text or not. -/
  | unknown (error : Option String)

namespace Reply

def isSuccess : Reply → Bool
  | .success _ => true
  | _ => false

def members : Reply → List (String × Json)
  | .success o => ("type", .str "success") :: o.members
  | .failure (.unreadable error) => errorMembers "json_parse_error" error
  | .failure (.badExpression error) => errorMembers "expression_parse_error" error
  | .failure (.failedExpression error) => errorMembers "expression_evaluation_error" error
  | .unknown (some error) => errorMembers "unknown_error" error
  | .unknown none => [("type", .str "unknown_error")]

def toJson (r : Reply) : Json := .obj r.members

open Json in
def form : Form Reply :=
  Form.tagged "Reply"
    [("success", "Success", .record Outcomes.fields fun o => .success (.ofFields o)),
      ("json_parse_error", "JsonParseError",
        .record errorField fun (e, _) => .failure (.unreadable e)),
      ("expression_parse_error", "ExpressionParseError",
        .record errorField fun (e, _) => .failure (.badExpression e)),
      ("expression_evaluation_error", "ExpressionEvaluationError",
        .record errorField fun (e, _) => .failure (.failedExpression e)),
      ("unknown_error", "UnknownError",
        .record (.field "error" (Form.optional Form.text) (some none) .done) fun (e, _) =>
          .unknown e)]

end Reply

namespace Envelope

variable {α : Type}

def toJson (members : α → List (String × Json)) (e : Envelope α) : Json :=
  .obj (("id", .ofNat e.id) :: members e.payload)

def form (payload : Json.Form α) : Json.Form (Envelope α) :=
  Json.Form.beside "struct Envelope" "id" (Json.Form.unsigned "u64") payload Envelope.mk

end Envelope

end RuleBench
