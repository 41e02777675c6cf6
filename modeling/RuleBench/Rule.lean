import RuleBench.Json.Form
import RuleBench.Text.Casing

set_option autoImplicit false

/-!
# Rules

A rule pairs an expression with the judgment to make about its outcome.  Rules stand in a list; the
position is what people see and change, the id is what outcomes and messages are found by.
-/

namespace RuleBench

/-- What is said of a name that is none of those allowed. -/
def unknownName : String := "Matching variant not found"

/-- The name among some that equals a text but for the case of ASCII letters. -/
def findName? {α : Type} (names : List (String × α)) (text : String) : Option α :=
  (names.find? fun n => Text.sameLetters n.1.toList text.toList).map (·.2)

inductive Action where
  /-- Show the outcome. -/
  | evaluate
  /-- Complain unless the outcome is true. -/
  | accept
  /-- Complain if the outcome is true. -/
  | reject
  /-- Warn if the outcome is true. -/
  | warning
  /-- Bind the outcome to the field for the rules that follow. -/
  | set
  /-- Complain if the outcome is true and the record lacks the field. -/
  | setRequired
  deriving DecidableEq

namespace Action

def name : Action → String
  | .evaluate => "EVALUATE"
  | .accept => "ACCEPT"
  | .reject => "REJECT"
  | .warning => "WARNING"
  | .set => "SET"
  | .setRequired => "SET_REQUIRED"

def all : List Action := [.evaluate, .accept, .reject, .warning, .set, .setRequired]

def names : List (String × Action) := all.map fun a => (a.name, a)

def ofName? (text : String) : Option Action := findName? names text

def form : Json.Form Action := Json.Form.choice names

end Action

structure Rule where
  field : String
  action : Action
  expression : String
  message : String
  deriving DecidableEq

namespace Rule

def members (r : Rule) : List (String × Json) :=
  [("FieldName", .str r.field), ("RuleAction", .str r.action.name),
   ("RuleExpression", .str r.expression), ("RuleMessage", .str r.message)]

def toJson (r : Rule) : Json := .obj r.members

open Json in
def form : Form Rule :=
  Form.record "struct Rule"
    (.field "FieldName" Form.text none <|
      .field "RuleAction" Action.form none <|
      .field "RuleExpression" Form.text none <|
      .field "RuleMessage" Form.text none .done)
    fun (field, action, expression, message, _) => ⟨field, action, expression, message⟩

end Rule

/-- A rule under its id. -/
structure ListedRule extends Rule where
  id : String
  deriving DecidableEq

namespace ListedRule

def ofRule (id : String) (r : Rule) : ListedRule := { r with id }

/-- The id stands beside the members of the rule. -/
def toJson (r : ListedRule) : Json := .obj (("id", .str r.id) :: r.toRule.members)

def form : Json.Form ListedRule :=
  Json.Form.beside "struct RuleWithId" "id" Json.Form.text Rule.form ofRule

end ListedRule

end RuleBench
