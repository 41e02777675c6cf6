import RuleBench.Proofs.Round.Strictness

set_option autoImplicit false

/-!
# Rules one at a time

In a walk every rule has an outcome that depends on the rule and on what is bound before it, unless
the engine breaks down; what is bound behind it is settled by the rule and its outcome.
-/

namespace RuleBench.EvaluationUnit

variable {α : Type} {engine : Engine α} {round : Round}

/-- The outcome of a rule with these values bound, unless the engine breaks down. -/
def outcome? (engine : Engine α) (round : Round) (locals : Bindings) (r : ListedRule) :
    Option Output :=
  match engine.parse r.expression with
  | .refused message => some (.error message)
  | .broken _ => none
  | .done e =>
    match engine.evaluate e ⟨round.current, round.previous, locals, round.now, round.today⟩ with
    | .done v => some (.value v)
    | .refused message => some (.error message)
    | .broken _ => none

/-- What is bound behind a rule of this outcome. -/
def boundBehind (r : ListedRule) (o : Output) (locals : Bindings) : Bindings :=
  match o with
  | .value v => bind r v locals
  | .error _ => locals

/-! ## One rule -/

section Rule

variable {r : ListedRule} {o : Output} {locals : Bindings} {e : α} {v : Json} {message : String}

theorem outcome?_of_misread (hr : engine.parse r.expression = .refused message) :
    outcome? engine round locals r = some (.error message) := by
  simp only [outcome?, hr]

theorem outcome?_of_failed (hr : engine.parse r.expression = .done e)
    (he : engine.evaluate e (round.scope locals) = .refused message) :
    outcome? engine round locals r = some (.error message) := by
  simp only [outcome?, hr, he]

theorem outcome?_of_value (hr : engine.parse r.expression = .done e)
    (he : engine.evaluate e (round.scope locals) = .done v) :
    outcome? engine round locals r = some (.value v) := by
  simp only [outcome?, hr, he]

theorem outcome?_cases (h : outcome? engine round locals r = some o) :
    (∃ message, engine.parse r.expression = .refused message ∧ o = .error message) ∨
    ∃ e, engine.parse r.expression = .done e ∧
      ((∃ message, engine.evaluate e (round.scope locals) = .refused message ∧ o = .error message) ∨
        ∃ v, engine.evaluate e (round.scope locals) = .done v ∧ o = .value v) := by
  unfold outcome? at h
  split at h
  · next message hr => exact .inl ⟨message, hr, (Option.some.inj h).symm⟩
  · cases h
  · next e hr =>
    refine .inr ⟨e, hr, ?_⟩
    split at h
    · next v he => exact .inr ⟨v, he, (Option.some.inj h).symm⟩
    · next message he => exact .inl ⟨message, he, (Option.some.inj h).symm⟩
    · cases h

theorem boundBehind_of_ne_set (h : r.action ≠ .set) (o : Output) (locals : Bindings) :
    boundBehind r o locals = locals := by
  cases o with
  | error message => rfl
  | value v => exact if_neg h

theorem findMember_boundBehind {name : String} (h : r.action = .set → r.field ≠ name) (o : Output)
    (locals : Bindings) :
    Json.findMember name (boundBehind r o locals) = Json.findMember name locals := by
  cases o with
  | error message => rfl
  | value v =>
    by_cases hset : r.action = .set
    · simp only [boundBehind, bind, if_pos hset, Json.findMember_putMember, if_neg (h hset)]
    · rw [boundBehind_of_ne_set hset]

end Rule

/-! ## A walk -/

namespace Walk

variable {r : ListedRule} {rest earlier later : List ListedRule} {locals bound final : Bindings}
  {outputs first second : Outputs} {o : Output}

theorem cons_iff :
    Walk engine round (r :: rest) locals outputs final ↔
      ∃ o tail, outcome? engine round locals r = some o ∧
        Walk engine round rest (boundBehind r o locals) tail final ∧
        outputs = (r.id, o) :: tail := by
  constructor
  · intro h
    cases h with
    | misread hr h => exact ⟨_, _, outcome?_of_misread hr, h, rfl⟩
    | failed hr he h => exact ⟨_, _, outcome?_of_failed hr he, h, rfl⟩
    | valued hr he ha h =>
      refine ⟨_, _, outcome?_of_value hr he, ?_, rfl⟩
      rwa [boundBehind_of_ne_set ha]
    | sets hr he ha h =>
      refine ⟨_, _, outcome?_of_value hr he, ?_, rfl⟩
      simpa only [boundBehind, bind, if_pos ha] using h
  · rintro ⟨o, tail, ho, h, rfl⟩
    rcases outcome?_cases ho with ⟨message, hr, rfl⟩ | ⟨e, hr, ⟨message, he, rfl⟩ | ⟨v, he, rfl⟩⟩
    · exact .misread hr h
    · exact .failed hr he h
    · by_cases ha : r.action = .set
      · simp only [boundBehind, bind, if_pos ha] at h
        exact .sets hr he ha h
      · rw [boundBehind_of_ne_set ha] at h
        exact .valued hr he ha h

theorem cons (ho : outcome? engine round locals r = some o)
    (h : Walk engine round rest (boundBehind r o locals) outputs final) :
    Walk engine round (r :: rest) locals ((r.id, o) :: outputs) final :=
  cons_iff.mpr ⟨o, outputs, ho, h, rfl⟩

/-- An engine that does not break down gives every rule an outcome. -/
theorem exists_outcome (sound : engine.IsSound) (round : Round) (locals : Bindings)
    (r : ListedRule) : ∃ o, outcome? engine round locals r = some o := by
  obtain ⟨outputs, final, h⟩ := exists_of_isSound sound round [r] locals
  obtain ⟨o, -, ho, -⟩ := cons_iff.mp h
  exact ⟨o, ho⟩

theorem append (h : Walk engine round earlier locals first bound)
    (h' : Walk engine round later bound second final) :
    Walk engine round (earlier ++ later) locals (first ++ second) final := by
  induction h with
  | done => exact h'
  | misread hr _ ih => exact .misread hr (ih h')
  | failed hr he _ ih => exact .failed hr he (ih h')
  | valued hr he ha _ ih => exact .valued hr he ha (ih h')
  | sets hr he ha _ ih => exact .sets hr he ha (ih h')

/-- A walk up to a rule, the outcome of that rule, and the walk from there on. -/
theorem exists_at (h : Walk engine round (earlier ++ r :: later) locals outputs final) :
    ∃ first bound o second, Walk engine round earlier locals first bound ∧
      outcome? engine round bound r = some o ∧
      Walk engine round later (boundBehind r o bound) second final ∧
      outputs = first ++ (r.id, o) :: second := by
  obtain ⟨first, bound, rest, hearlier, hrest, rfl⟩ := h.split
  obtain ⟨o, second, ho, hlater, rfl⟩ := cons_iff.mp hrest
  exact ⟨first, bound, o, second, hearlier, ho, hlater, rfl⟩

theorem ascending (h : Walk engine round rest locals outputs final)
    (hlocals : Json.Ascending locals) : Json.Ascending final := by
  induction h with
  | done => exact hlocals
  | misread _ _ ih | failed _ _ _ ih | valued _ _ _ _ ih => exact ih hlocals
  | sets _ _ _ _ ih => exact ih (hlocals.putMember _ _)

theorem reply_eq_success {u : EvaluationUnit α} (lenient : u.strict = false) {request : Request}
    (hround : Round.ofRequest request = .ok round)
    (hids : (request.rules.map ListedRule.id).Nodup)
    (h : Walk u.engine round request.rules [] outputs final) :
    u.reply request = .success ⟨Json.sortMembers outputs, final⟩ := by
  simp only [reply, h.run_eq lenient hround hids]

end Walk

end RuleBench.EvaluationUnit
