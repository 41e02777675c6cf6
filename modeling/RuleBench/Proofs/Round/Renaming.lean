import RuleBench.Proofs.Json.Members
import RuleBench.Round.State
import RuleBench.Round.Unit

set_option autoImplicit false

/-!
# Other ids

A unit finds outcomes by the ids of rules and makes no other use of them.  Where rules get other
ids, different ones for different ones, the state of an evaluation is the same but for the ids of
the outcomes.
-/

namespace RuleBench

open Json

def ListedRule.rename (ρ : String → String) (r : ListedRule) : ListedRule := { r with id := ρ r.id }

@[simp]
theorem ListedRule.rename_toRule (ρ : String → String) (r : ListedRule) :
    (r.rename ρ).toRule = r.toRule := rfl

@[simp]
theorem ListedRule.rename_id (ρ : String → String) (r : ListedRule) :
    (r.rename ρ).id = ρ r.id := rfl

def Request.rename (ρ : String → String) (r : Request) : Request :=
  { r with rules := r.rules.map (·.rename ρ) }

def ReadRule.rename {α : Type} (ρ : String → String) (r : ReadRule α) : ReadRule α :=
  { r with rule := r.rule.rename ρ }

def Outcomes.rename (ρ : String → String) (o : Outcomes) : Outcomes :=
  { o with values := renameKeys ρ o.values }

def EvaluationState.rename (ρ : String → String) : EvaluationState → EvaluationState
  | .success o => .success (o.rename ρ)
  | other => other

namespace EvaluationUnit

variable {α : Type} {u : EvaluationUnit α} {ρ : String → String} {ids : List String}

/-! ## The reading pass -/

theorem under_of_readRules {rules : List ListedRule} {before outputs : Outputs}
    {read : List (ReadRule α)} (h : u.readRules rules before = .ok (read, outputs))
    (hrules : ∀ r ∈ rules, r.id ∈ ids) (hbefore : Under ids before) :
    Under ids outputs ∧ ∀ q ∈ read, q.rule.id ∈ ids := by
  induction rules generalizing before outputs read with
  | nil =>
    cases h
    exact ⟨hbefore, nofun⟩
  | cons r rest ih =>
    obtain ⟨hr, hrest⟩ := List.forall_mem_cons.mp hrules
    simp only [readRules] at h
    cases hparse : u.engine.parse r.expression with
    | broken text => simp only [hparse] at h; cases h
    | refused message =>
      simp only [hparse] at h
      split at h
      · cases h
      · exact ih h hrest (hbefore.putMember hr _)
    | done e =>
      simp only [hparse] at h
      cases hread : u.readRules rest before with
      | error stop => rw [hread] at h; cases h
      | ok p =>
        rw [hread] at h
        cases h
        obtain ⟨houtputs, hmem⟩ := ih hread hrest hbefore
        exact ⟨houtputs, List.forall_mem_cons.mpr ⟨hr, hmem⟩⟩

theorem readRules_rename (apart : Set.InjOn ρ {id | id ∈ ids}) {rules : List ListedRule}
    (hrules : ∀ r ∈ rules, r.id ∈ ids) {before : Outputs} (hbefore : Under ids before) :
    u.readRules (rules.map (·.rename ρ)) (renameKeys ρ before) =
      (u.readRules rules before).map fun p => (p.1.map (·.rename ρ), renameKeys ρ p.2) := by
  -- Refusals are recorded on the way, so the induction is for all maps under the ids.
  induction rules generalizing before with
  | nil => rfl
  | cons r rest ih =>
    obtain ⟨hr, hrest⟩ := List.forall_mem_cons.mp hrules
    simp only [List.map_cons, readRules, ListedRule.rename_toRule, ListedRule.rename_id]
    cases u.engine.parse r.expression with
    | broken text => rfl
    | refused message =>
      simp only [← hbefore.renameKeys_putMember apart hr, complaint, ListedRule.rename_toRule]
      split
      · rfl
      · exact ih hrest (hbefore.putMember hr _)
    | done e =>
      simp only [ih hrest hbefore]
      cases u.readRules rest before <;> rfl

/-! ## The evaluating pass -/

theorem under_of_evaluateRules {round : Round} {read : List (ReadRule α)} {before : Outputs}
    {locals : Bindings} {o : Outcomes} (h : u.evaluateRules round read before locals = .ok o)
    (hread : ∀ q ∈ read, q.rule.id ∈ ids) (hbefore : Under ids before) : Under ids o.values := by
  induction read generalizing before locals with
  | nil =>
    cases h
    exact hbefore
  | cons q rest ih =>
    obtain ⟨r, e⟩ := q
    obtain ⟨hr, hrest⟩ := List.forall_mem_cons.mp hread
    simp only [evaluateRules] at h
    split at h
    · exact ih h hrest (hbefore.putMember hr _)
    · split at h
      · cases h
      · exact ih h hrest (hbefore.putMember hr _)
    · cases h

theorem evaluateRules_rename (apart : Set.InjOn ρ {id | id ∈ ids}) (round : Round)
    {read : List (ReadRule α)} (hread : ∀ q ∈ read, q.rule.id ∈ ids) {before : Outputs}
    (hbefore : Under ids before) (locals : Bindings) :
    u.evaluateRules round (read.map (·.rename ρ)) (renameKeys ρ before) locals =
      (u.evaluateRules round read before locals).map (·.rename ρ) := by
  induction read generalizing before locals with
  | nil => rfl
  | cons q rest ih =>
    obtain ⟨r, e⟩ := q
    obtain ⟨hr, hrest⟩ := List.forall_mem_cons.mp hread
    simp only [List.map_cons, evaluateRules, ReadRule.rename, ListedRule.rename_id,
      ← hbefore.renameKeys_putMember apart hr]
    cases u.engine.evaluate e (round.scope locals) with
    | broken text => rfl
    | refused message =>
      simp only [complaint, ListedRule.rename_toRule]
      split
      · rfl
      · exact ih hrest (hbefore.putMember hr _) locals
    | done v => exact ih hrest (hbefore.putMember hr _) _

/-! ## A round -/

variable {request : Request}

theorem under_of_run {o : Outcomes} (h : u.run request = .ok o) :
    Under (request.rules.map ListedRule.id) o.values := by
  have hrules : ∀ r ∈ request.rules, r.id ∈ request.rules.map ListedRule.id :=
    fun r hr => List.mem_map_of_mem hr
  simp only [run] at h
  cases hround : Round.ofRequest request with
  | error e => rw [hround] at h; cases h
  | ok round =>
    rw [hround] at h
    cases hread : u.readRules request.rules [] with
    | error stop => simp only [hread] at h; cases h
    | ok p =>
      simp only [hread] at h
      obtain ⟨houtputs, hmem⟩ := under_of_readRules hread hrules (.nil _)
      exact under_of_evaluateRules h hmem houtputs

theorem run_rename (apart : Set.InjOn ρ {id | id ∈ request.rules.map ListedRule.id}) :
    u.run (request.rename ρ) = (u.run request).map (·.rename ρ) := by
  have hrules : ∀ r ∈ request.rules, r.id ∈ request.rules.map ListedRule.id :=
    fun r hr => List.mem_map_of_mem hr
  have hread := readRules_rename (u := u) apart hrules (.nil _)
  have hround : Round.ofRequest (request.rename ρ) = Round.ofRequest request := rfl
  simp only [run, hround]
  cases Round.ofRequest request with
  | error e => rfl
  | ok round =>
    have hrenamed : u.readRules (request.rename ρ).rules [] = (u.readRules request.rules []).map
        fun p => (p.1.map (·.rename ρ), renameKeys ρ p.2) := hread
    simp only [hrenamed]
    cases hkept : u.readRules request.rules [] with
    | error stop => rfl
    | ok p =>
      obtain ⟨houtputs, hmem⟩ := under_of_readRules hkept hrules (.nil _)
      exact evaluateRules_rename apart round hmem houtputs []

/-- The state of an evaluation, which names its outcomes by the ids of rules. -/
def state (u : EvaluationUnit α) (request : Request) : EvaluationState :=
  .ofReply (u.reply request)

theorem state_rename (request : Request)
    (apart : Set.InjOn ρ {id | id ∈ request.rules.map ListedRule.id}) :
    u.state (request.rename ρ) = (u.state request).rename ρ := by
  simp only [state, reply, run_rename apart]
  cases u.run request with
  | ok o => rfl
  | error stop => cases stop <;> rfl

theorem under_of_state (request : Request) {o : Outcomes} (h : u.state request = .success o) :
    Under (request.rules.map ListedRule.id) o.values := by
  simp only [state, reply] at h
  split at h
  · next hrun =>
    cases h
    exact under_of_run hrun
  · cases h
  · cases h

end EvaluationUnit

end RuleBench
