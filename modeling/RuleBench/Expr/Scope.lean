import RuleBench.Calendar.Instant
import RuleBench.Json.Basic

set_option autoImplicit false

/-!
# Scopes

What an expression sees while it is evaluated: the record, the record as it was before, the values
bound by earlier rules, and one reading of the clock.
-/

namespace RuleBench

/-- Named values, ascending by name. -/
abbrev Bindings := List (String × Json)

structure Scope where
  current : Json
  previous : Json
  locals : Bindings
  now : Calendar.Instant
  today : Calendar.Date

namespace Scope

/-- A bound value hides the field of that name; what is neither bound nor in the record is empty. -/
def field (s : Scope) (name : String) : Json :=
  ((Json.findMember name s.locals).orElse fun _ => s.current.member? name).getD .null

def previousField (s : Scope) (name : String) : Json := (s.previous.member? name).getD .null

theorem field_of_bound {s : Scope} {name : String} {v : Json}
    (h : Json.findMember name s.locals = some v) : s.field name = v := by
  simp [field, h]

end Scope

end RuleBench
