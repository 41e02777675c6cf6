import RuleBench.Round.Message

set_option autoImplicit false

/-!
# Evaluation states

What is shown of the evaluation of a snapshot: that it has not ended, or how it ended.
-/

namespace RuleBench

inductive EvaluationState where
  | loading
  | success (o : Outcomes)
  | failure (f : Failure)
  | unknown (error : String)

namespace EvaluationState

instance : Inhabited EvaluationState := ⟨.loading⟩

/-- What is shown when the engine broke down. -/
def unknownError : String := "Unknown error"

def ofReply : Reply → EvaluationState
  | .success o => .success o
  | .failure f => .failure f
  | .unknown _ => .unknown unknownError

def isLoading : EvaluationState → Bool
  | .loading => true
  | _ => false

def isSuccess : EvaluationState → Bool
  | .success _ => true
  | _ => false

/-- The text of a failure. -/
def error? : EvaluationState → Option String
  | .loading => none
  | .success _ => none
  | .failure (.unreadable error) => some error
  | .failure (.badExpression error) => some error
  | .failure (.failedExpression error) => some error
  | .unknown error => some error

theorem ofReply_ne_loading (r : Reply) : (ofReply r).isLoading = false := by cases r <;> rfl

def toJson : EvaluationState → Json
  | .loading => .obj [("type", .str "loading")]
  | .success o => .obj (Reply.success o).members
  | .failure f => .obj (Reply.failure f).members
  | .unknown error => .obj (errorMembers "unknown_error" error)

open Json in
def form : Form EvaluationState :=
  Form.tagged "EvaluationState"
    [("loading", "Loading", .plain .loading),
      ("success", "Success", .record Outcomes.fields fun o => .success (.ofFields o)),
      ("json_parse_error", "JsonParseError",
        .record errorField fun (e, _) => .failure (.unreadable e)),
      ("expression_parse_error", "ExpressionParseError",
        .record errorField fun (e, _) => .failure (.badExpression e)),
      ("expression_evaluation_error", "ExpressionEvaluationError",
        .record errorField fun (e, _) => .failure (.failedExpression e)),
      ("unknown_error", "UnknownError", .record errorField fun (e, _) => .unknown e)]

end EvaluationState

end RuleBench
