import RuleBench.Round.State

set_option autoImplicit false

/-!
# Validation

What the outcomes of rules mean for the record: messages about its fields, and outcomes that are
only shown.
-/

namespace RuleBench

inductive Level where
  | error
  | warning
  deriving DecidableEq

namespace Level

def name : Level → String
  | .error => "error"
  | .warning => "warning"

def form : Json.Form Level :=
  Json.Form.choice [(error.name, .error), (warning.name, .warning)]

end Level

structure FieldMessage where
  ruleId : String
  level : Level
  text : String
  deriving DecidableEq

namespace FieldMessage

def toJson (m : FieldMessage) : Json :=
  .obj [("ruleId", .str m.ruleId), ("level", .str m.level.name), ("text", .str m.text)]

open Json in
def form : Form FieldMessage :=
  Form.record "struct FieldMessage"
    (.field "ruleId" Form.text none <|
      .field "level" Level.form none <|
      .field "text" Form.text none .done)
    fun (ruleId, level, text, _) => ⟨ruleId, level, text⟩

end FieldMessage

/-- An outcome that is only shown. -/
structure Shown where
  ruleId : String
  text : String
  outcome : Output

namespace Shown

def toJson (s : Shown) : Json :=
  .obj [("ruleId", .str s.ruleId), ("text", .str s.text), ("outcome", s.outcome.toJson)]

open Json in
def form : Form Shown :=
  Form.record "struct EvaluationEntry"
    (.field "ruleId" Form.text none <|
      .field "text" Form.text none <|
      .field "outcome" Output.form none .done)
    fun (ruleId, text, outcome, _) => ⟨ruleId, text, outcome⟩

end Shown

structure Validation where
  /-- Messages by field, ascending; those of one field in the order of the rules. -/
  messages : List (String × List FieldMessage)
  shown : List Shown

namespace Validation

/-- No field has a message. -/
def isClean (v : Validation) : Bool := v.messages.isEmpty

def messagesFor (v : Validation) (field : String) : List FieldMessage :=
  (Json.findMember field v.messages).getD []

def toJson (v : Validation) : Json :=
  .obj [
    ("messagesByField", .obj (v.messages.map fun e => (e.1, .arr (e.2.map FieldMessage.toJson)))),
    ("evaluations", .arr (v.shown.map Shown.toJson))]

open Json in
def form : Form Validation :=
  Form.record "struct ValidationResult"
    (.field "messagesByField" (mapForm (Form.list FieldMessage.form)) none <|
      .field "evaluations" (Form.list Shown.form) none .done)
    fun (messages, shown, _) => ⟨messages, shown⟩

/-- The outcome of a rule that has none. -/
def notFound : Output := .error "Not found"

def outcome (outputs : Outputs) (r : ListedRule) : Output :=
  (Json.findMember r.id outputs).getD notFound

/-- Whether the record has no such field, or only an empty one. -/
def lacks (record : Json) (field : String) : Bool :=
  (record.member? field).all Json.isNull

/-- How a rule complains about its outcome, if it does. -/
def complaint? (record : Json) (a : Action) (field : String) (o : Output) : Option Level :=
  match a with
  | .accept => if o.isTrue then none else some .error
  | .reject => if o.isTrue then some .error else none
  | .warning => if o.isTrue then some .warning else none
  | .setRequired => if o.isTrue && lacks record field then some .error else none
  | .evaluate => none
  | .set => none

/-- Adds a message behind those of its field. -/
def addMessage (r : ListedRule) (level : Level) (messages : List (String × List FieldMessage)) :
    List (String × List FieldMessage) :=
  Json.putMember r.field
    ((Json.findMember r.field messages).getD [] ++ [⟨r.id, level, r.message⟩]) messages

/-- The messages of rules, added to those there are. -/
def gather (record : Json) (outputs : Outputs) :
    List ListedRule → List (String × List FieldMessage) → List (String × List FieldMessage)
  | [], messages => messages
  | r :: rest, messages =>
    gather record outputs rest <|
      match complaint? record r.action r.field (outcome outputs r) with
      | some level => addMessage r level messages
      | none => messages

/-- The record that a text holds; a text that is not JSON holds one without fields. -/
def recordOf (data : String) : Json :=
  match Json.parse data with
  | .ok v => v
  | .error _ => .obj []

def ofOutputs (rules : List ListedRule) (data : String) (outputs : Outputs) : Validation where
  messages := gather (recordOf data) outputs rules []
  shown := (rules.filter fun r => r.action = .evaluate).map fun r =>
    ⟨r.id, r.message, outcome outputs r⟩

/-- The validation of a snapshot by the state of its evaluation, if that has succeeded. -/
def ofState? (s : Snapshot) : EvaluationState → Option Validation
  | .success o => some (ofOutputs s.rules s.data o.values)
  | _ => none

end Validation

end RuleBench
