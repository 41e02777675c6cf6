import RuleBench.Text.Blank
import RuleBench.Validation

set_option autoImplicit false

/-!
# Reports

A round of evaluation and its validation, for people and as JSON.
-/

namespace RuleBench

structure Report where
  state : EvaluationState
  /-- There is none unless the evaluation succeeded. -/
  validation : Option Validation

namespace Report

def ofState (s : Snapshot) (state : EvaluationState) : Report :=
  ⟨state, Validation.ofState? s state⟩

/-- The evaluation succeeded and no field has a message. -/
def passed (r : Report) : Bool := r.state.isSuccess && r.validation.any Validation.isClean

def toJson (r : Report) : Json :=
  .obj [("state", r.state.toJson), ("validation", (r.validation.map Validation.toJson).getD .null)]

def stateText : EvaluationState → String
  | .loading => "Loading..."
  | .success o => s!"Evaluated {o.values.length} rule(s)"
  | .failure (.unreadable error) => "JSON parse error: " ++ error
  | .failure (.badExpression error) => "Expression parse error: " ++ error
  | .failure (.failedExpression error) => "Expression evaluation error: " ++ error
  | .unknown error => error

def outputText : Output → String
  | .value v => v.compact
  | .error message => "error: " ++ message

def messageLine (field : String) (m : FieldMessage) : String :=
  "[" ++ m.level.name ++ "] " ++ field ++ ": " ++ m.text ++ "\n"

def validationText : Option Validation → String
  | none => "Evaluation failed"
  | some v =>
    let success := if v.isClean then "Validation successful!\n" else ""
    let messages := v.messages.flatMap fun e => e.2.map (messageLine e.1)
    let shown := v.shown.map fun s => s.text ++ "\n  => " ++ outputText s.outcome ++ "\n"
    String.ofList (Text.trimEnd (success ++ String.join messages ++ String.join shown).toList)

def updatesText : EvaluationState → String
  | .success o =>
    if o.updates.isEmpty then "Values set by SET actions will show up here"
    else o.updates.toJson.pretty
  | _ => "No updates found"

def text (r : Report) : String :=
  "== Evaluation ==\n" ++ stateText r.state ++ "\n\n== Validation ==\n" ++
    validationText r.validation ++ "\n\n== Updates ==\n" ++ updatesText r.state ++ "\n"

end Report

end RuleBench
