import RuleBench.Number

set_option autoImplicit false

/-!
# JSON values

An object is its members in the order they are written.  A value is *canonical* when the members of
every object ascend strictly by name; `canonical` brings a value into that form, and of members that
share a name the last one stays.
-/

namespace RuleBench

inductive Json where
  | null
  | bool (b : Bool)
  | num (n : Number)
  | str (s : String)
  | arr (items : List Json)
  | obj (members : List (String × Json))

namespace Json

instance : Inhabited Json := ⟨.null⟩

def ofNat (n : Nat) : Json := .num (.ofNat n)

section Members

variable {α : Type}

/-- Puts a member at its place by name; one of that name is replaced. -/
def putMember (name : String) (value : α) : List (String × α) → List (String × α)
  | [] => [(name, value)]
  | (n, v) :: rest =>
    if name < n then (name, value) :: (n, v) :: rest
    else if name = n then (name, value) :: rest
    else (n, v) :: putMember name value rest

def sortMembers (members : List (String × α)) : List (String × α) :=
  members.foldl (fun sorted m => putMember m.1 m.2 sorted) []

/-- The first member of that name. -/
def findMember (name : String) : List (String × α) → Option α
  | [] => none
  | (n, v) :: rest => if n = name then some v else findMember name rest

end Members

mutual

def canonical : Json → Json
  | .arr items => .arr (canonicalItems items)
  | .obj members => .obj (sortMembers (canonicalMembers members))
  | other => other

def canonicalItems : List Json → List Json
  | [] => []
  | x :: rest => canonical x :: canonicalItems rest

def canonicalMembers : List (String × Json) → List (String × Json)
  | [] => []
  | (n, v) :: rest => (n, canonical v) :: canonicalMembers rest

end

mutual

/-- Same structure throughout, numbers in the same representation. -/
def identical : Json → Json → Bool
  | .null, .null => true
  | .bool a, .bool b => a == b
  | .num a, .num b => a.identical b
  | .str a, .str b => a == b
  | .arr a, .arr b => identicalItems a b
  | .obj a, .obj b => identicalMembers a b
  | _, _ => false

def identicalItems : List Json → List Json → Bool
  | [], [] => true
  | x :: a, y :: b => identical x y && identicalItems a b
  | _, _ => false

def identicalMembers : List (String × Json) → List (String × Json) → Bool
  | [], [] => true
  | (m, x) :: a, (n, y) :: b => m == n && identical x y && identicalMembers a b
  | _, _ => false

end

/-- The member of an object; a value of another kind has none. -/
def member? (name : String) : Json → Option Json
  | .obj members => findMember name members
  | _ => none

def isNull : Json → Bool
  | .null => true
  | _ => false

theorem member?_eq_none {v : Json} (h : ∀ ms, v ≠ .obj ms) (name : String) :
    v.member? name = none := by
  cases v <;> first | rfl | exact absurd rfl (h _)

end Json

end RuleBench
