import RuleBench.Expr.Eval

set_option autoImplicit false

/-!
# What an expression mentions

The outcome of an expression, be it a value or an error, depends on no names but those that occur in
it, and of each on what the record or the record as it was before shows under it.
-/

namespace RuleBench

namespace Expr

mutual

/-- The names of the fields in an expression, those behind `LAST` apart. -/
def fieldNames : Expr → List String
  | .field name => [name]
  | .not x => fieldNames x
  | .negate x => fieldNames x
  | .binary _ l r => fieldNames l ++ fieldNames r
  | .call _ args => fieldNamesOfAll args
  | _ => []

def fieldNamesOfAll : List Expr → List String
  | [] => []
  | x :: rest => fieldNames x ++ fieldNamesOfAll rest

end

mutual

/-- The names behind `LAST` in an expression. -/
def lastNames : Expr → List String
  | .last name => [name]
  | .not x => lastNames x
  | .negate x => lastNames x
  | .binary _ l r => lastNames l ++ lastNames r
  | .call _ args => lastNamesOfAll args
  | _ => []

def lastNamesOfAll : List Expr → List String
  | [] => []
  | x :: rest => lastNames x ++ lastNamesOfAll rest

end

end Expr

/-- The same reading of the clock, and the same under each of these names: of the fields, and of
those behind `LAST`. -/
structure Scope.Alike (fields lasts : List String) (s t : Scope) : Prop where
  now : s.now = t.now
  today : s.today = t.today
  field : ∀ name ∈ fields, s.field name = t.field name
  last : ∀ name ∈ lasts, s.previousField name = t.previousField name

namespace Scope.Alike

variable {s t : Scope} {fields fields' lasts lasts' : List String}

theorem mono (h : Alike fields lasts s t) (hf : fields' ⊆ fields) (hl : lasts' ⊆ lasts) :
    Alike fields' lasts' s t where
  now := h.now
  today := h.today
  field name hname := h.field name (hf hname)
  last name hname := h.last name (hl hname)

theorem left (h : Alike (fields ++ fields') (lasts ++ lasts') s t) : Alike fields lasts s t :=
  h.mono (List.subset_append_left _ _) (List.subset_append_left _ _)

theorem right (h : Alike (fields ++ fields') (lasts ++ lasts') s t) : Alike fields' lasts' s t :=
  h.mono (List.subset_append_right _ _) (List.subset_append_right _ _)

section Parts

variable {record : Json} {locals : Bindings}

/-- Bindings count under the names of fields only. -/
theorem of_locals
    (h : ∀ name ∈ fields, Json.findMember name locals = Json.findMember name s.locals) :
    Alike fields lasts { s with locals } s where
  now := rfl
  today := rfl
  field name hname := by simp only [Scope.field, h name hname]
  last _ _ := rfl

/-- The record counts under names that are not bound only. -/
theorem of_current (h : ∀ name ∈ fields, Json.findMember name s.locals = none →
      record.member? name = s.current.member? name) :
    Alike fields lasts { s with current := record } s where
  now := rfl
  today := rfl
  field name hname := by
    cases hbound : Json.findMember name s.locals with
    | none => simp only [Scope.field, h name hname hbound]
    | some v => simp only [Scope.field, hbound, Option.orElse_some]
  last _ _ := rfl

theorem of_previous (h : ∀ name ∈ lasts, record.member? name = s.previous.member? name) :
    Alike fields lasts { s with previous := record } s where
  now := rfl
  today := rfl
  field _ _ := rfl
  last name hname := by simp only [Scope.previousField, h name hname]

end Parts

end Scope.Alike

namespace Expr

mutual

/-- Two scopes that are alike in what an expression mentions are the same to it. -/
theorem eval_congr {s t : Scope} :
    ∀ e : Expr, s.Alike e.fieldNames e.lastNames t → eval s e = eval t e
  | .literal _, _ => rfl
  | .field name, h => congrArg Except.ok (h.field name (List.mem_singleton_self name))
  | .last name, h => congrArg Except.ok (h.last name (List.mem_singleton_self name))
  | .now, h => by simp only [eval, h.now]
  | .today, h => by simp only [eval, h.today]
  | .not x, h => by simp only [eval, eval_congr x h]
  | .negate x, h => by simp only [eval, eval_congr x h]
  | .binary op l r, h => by simp only [eval, eval_congr l h.left, eval_congr r h.right]
  | .call f args, h => by
    simp only [eval]
    exact congrArg (callValue f) (funext fun index => evalArgument_congr f index args h index)

theorem evalArgument_congr {s t : Scope} (f : Function) (wanted : Nat) :
    ∀ args : List Expr, s.Alike (fieldNamesOfAll args) (lastNamesOfAll args) t →
      ∀ index, evalArgument s f wanted args index = evalArgument t f wanted args index
  | [], _, _ => rfl
  | x :: _, h, 0 => eval_congr x h.left
  | _ :: rest, h, index + 1 => evalArgument_congr f wanted rest h.right index

end

/-- The outcome of an expression, value or error, is the same in scopes that are alike in what it
mentions.  So bindings matter only under the names of its fields, and never to a former value; a
binding, were it of nothing, hides the field of its name; and a record that is no object is the same
as one without fields. -/
theorem outcome_follows_mentions :
    (∀ (e : Expr) (s t : Scope), s.Alike e.fieldNames e.lastNames t → e.eval s = e.eval t) ∧
    (∀ (e : Expr) (s : Scope) (locals : Bindings),
      (∀ name ∈ e.fieldNames, Json.findMember name locals = Json.findMember name s.locals) →
        e.eval { s with locals } = e.eval s) ∧
    (∀ (name : String) (s : Scope) (locals : Bindings),
      (last name).eval { s with locals } = (last name).eval s) ∧
    (∀ (name : String) (v : Json) (s : Scope), Json.findMember name s.locals = some v →
      (field name).eval s = .ok v) ∧
    (∀ (e : Expr) (s : Scope) (record : Json),
      (∀ name ∈ e.fieldNames, Json.findMember name s.locals = none →
        record.member? name = s.current.member? name) →
      e.eval { s with current := record } = e.eval s) ∧
    (∀ (e : Expr) (s : Scope), (∀ ms, s.current ≠ .obj ms) →
      e.eval s = e.eval { s with current := .obj [] }) ∧
    ∀ (e : Expr) (s : Scope), (∀ ms, s.previous ≠ .obj ms) →
      e.eval s = e.eval { s with previous := .obj [] } := by
  refine ⟨fun e s t h => eval_congr e h, fun e s locals h => eval_congr e (.of_locals h),
    fun name s locals => eval_congr (last name) (.of_locals nofun), fun name v s h => ?_,
    fun e s record h => eval_congr e (.of_current h), fun e s h => ?_, fun e s h => ?_⟩
  · rw [eval, Scope.field_of_bound h]
  · refine (eval_congr e (.of_current fun name _ _ => ?_)).symm
    rw [Json.member?_eq_none h]
    rfl
  · refine (eval_congr e (.of_previous fun name _ => ?_)).symm
    rw [Json.member?_eq_none h]
    rfl

/-- A call that lacks the argument which its condition chooses. -/
def unfinished : Expr :=
  .call .iif [.binary .less (.field "price") (.last "price"), .field "status"]

/-- A record with a price that has gone up. -/
def raised : Scope where
  current := .obj [("price", .ofNat 3), ("status", .str "Active"), ("town", .str "Ems")]
  previous := .obj [("price", .ofNat 2)]
  locals := []
  now := ⟨default, 0, 0, 0⟩
  today := default

/-- The same to someone who asks for the price and the status, one of them bound.  There is no
record now. -/
def raisedElsewhere : Scope where
  current := .arr []
  previous := .obj [("price", .ofNat 2), ("town", .null)]
  locals := [("price", .ofNat 3), ("status", .str "Active"), ("town", .null)]
  now := raised.now
  today := raised.today

/-- The call fails in the same way in both scopes, and a binding of nothing hides the town. -/
theorem unfinished_call_fails_alike :
    raised.Alike unfinished.fieldNames unfinished.lastNames raisedElsewhere ∧
    unfinished.eval raised = .error (.missingArgument .iif 3) ∧
    unfinished.eval raisedElsewhere = .error (.missingArgument .iif 3) ∧
    (field "town").eval raised = .ok (.str "Ems") ∧
    (field "town").eval { raised with locals := raisedElsewhere.locals } = .ok .null ∧
    (last "price").eval { raised with locals := raisedElsewhere.locals } = .ok (.ofNat 2) := by
  obtain ⟨halike, -, hlast, hbound, -⟩ := outcome_follows_mentions
  have hscopes : raised.Alike unfinished.fieldNames unfinished.lastNames raisedElsewhere :=
    ⟨rfl, rfl, List.forall_mem_cons.mpr ⟨rfl, List.forall_mem_singleton.mpr rfl⟩,
      List.forall_mem_singleton.mpr rfl⟩
  have hfails : unfinished.eval raised = .error (.missingArgument .iif 3) := rfl
  exact ⟨hscopes, hfails, (halike _ _ _ hscopes).symm.trans hfails, rfl, hbound _ _ _ rfl,
    hlast _ _ _⟩

end Expr

end RuleBench
