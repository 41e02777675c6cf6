import RuleBench.Proofs.Json.Members
import RuleBench.Round.Unit

set_option autoImplicit false

/-!
# Rounds in one pass

A lenient unit reads all expressions before it evaluates any.  The outcomes are those of one walk
over the rules that reads and evaluates each of them at its position.
-/

namespace RuleBench.EvaluationUnit

variable {α : Type}

/-- `Walk engine round rules locals outputs final`: one pass over the rules from these bound values
has these outcomes, in the order of the rules, and leaves `final` bound. -/
inductive Walk (engine : Engine α) (round : Round) :
    List ListedRule → Bindings → Outputs → Bindings → Prop where
  | done (locals : Bindings) : Walk engine round [] locals [] locals
  | misread {r : ListedRule} {rest : List ListedRule} {locals final : Bindings} {outputs : Outputs}
      {message : String} (hr : engine.parse r.expression = .refused message)
      (h : Walk engine round rest locals outputs final) :
      Walk engine round (r :: rest) locals ((r.id, .error message) :: outputs) final
  | failed {r : ListedRule} {rest : List ListedRule} {locals final : Bindings} {outputs : Outputs}
      {e : α} {message : String} (hr : engine.parse r.expression = .done e)
      (he : engine.evaluate e ⟨round.current, round.previous, locals, round.now, round.today⟩ =
        .refused message)
      (h : Walk engine round rest locals outputs final) :
      Walk engine round (r :: rest) locals ((r.id, .error message) :: outputs) final
  | valued {r : ListedRule} {rest : List ListedRule} {locals final : Bindings} {outputs : Outputs}
      {e : α} {v : Json} (hr : engine.parse r.expression = .done e)
      (he : engine.evaluate e ⟨round.current, round.previous, locals, round.now, round.today⟩ =
        .done v)
      (ha : r.action ≠ .set)
      (h : Walk engine round rest locals outputs final) :
      Walk engine round (r :: rest) locals ((r.id, .value v) :: outputs) final
  | sets {r : ListedRule} {rest : List ListedRule} {locals final : Bindings} {outputs : Outputs}
      {e : α} {v : Json} (hr : engine.parse r.expression = .done e)
      (he : engine.evaluate e ⟨round.current, round.previous, locals, round.now, round.today⟩ =
        .done v)
      (ha : r.action = .set)
      (h : Walk engine round rest (Json.putMember r.field v locals) outputs final) :
      Walk engine round (r :: rest) locals ((r.id, .value v) :: outputs) final

/-! ## Outcomes by the pass that records them -/

def reads (engine : Engine α) (r : ListedRule) : Bool :=
  match engine.parse r.expression with
  | .done _ => true
  | _ => false

/-- The outcomes of the rules that cannot be read. -/
def refusals (engine : Engine α) (rules : List ListedRule) (outputs : Outputs) : Outputs :=
  ((rules.zip outputs).filter fun p => !reads engine p.1).map Prod.snd

/-- The outcomes of the rules that can be read. -/
def findings (engine : Engine α) (rules : List ListedRule) (outputs : Outputs) : Outputs :=
  ((rules.zip outputs).filter fun p => reads engine p.1).map Prod.snd

section Passes

variable {engine : Engine α} {r : ListedRule} {rest : List ListedRule} {o : String × Output}
  {outputs : Outputs}

theorem refusals_cons_refused {message : String} (hr : engine.parse r.expression = .refused message) :
    refusals engine (r :: rest) (o :: outputs) = o :: refusals engine rest outputs := by
  simp [refusals, reads, hr]

theorem findings_cons_refused {message : String}
    (hr : engine.parse r.expression = .refused message) :
    findings engine (r :: rest) (o :: outputs) = findings engine rest outputs := by
  simp [findings, reads, hr]

theorem refusals_cons_read {e : α} (hr : engine.parse r.expression = .done e) :
    refusals engine (r :: rest) (o :: outputs) = refusals engine rest outputs := by
  simp [refusals, reads, hr]

theorem findings_cons_read {e : α} (hr : engine.parse r.expression = .done e) :
    findings engine (r :: rest) (o :: outputs) = o :: findings engine rest outputs := by
  simp [findings, reads, hr]

end Passes

namespace Walk

variable {engine : Engine α} {round : Round} {rules : List ListedRule} {locals final : Bindings}
  {outputs : Outputs}

theorem ids (h : Walk engine round rules locals outputs final) :
    outputs.map Prod.fst = rules.map ListedRule.id := by
  induction h with
  | done => rfl
  | misread _ _ ih | failed _ _ _ ih | valued _ _ _ _ ih | sets _ _ _ _ ih =>
    simp only [List.map_cons, ih]

theorem length_outputs (h : Walk engine round rules locals outputs final) :
    outputs.length = rules.length := by
  simpa using congrArg List.length h.ids

theorem perm_outputs (h : Walk engine round rules locals outputs final) :
    (refusals engine rules outputs ++ findings engine rules outputs).Perm outputs := by
  have hzip : (rules.zip outputs).map Prod.snd = outputs :=
    List.map_snd_zip (Nat.le_of_eq h.length_outputs)
  have hp := (List.filter_append_perm (fun p => reads engine p.1) (rules.zip outputs)).map Prod.snd
  rw [List.map_append, hzip] at hp
  exact List.perm_append_comm.trans hp

theorem nodup_recorded (h : Walk engine round rules locals outputs final)
    (hids : (rules.map ListedRule.id).Nodup) :
    ((refusals engine rules outputs ++ findings engine rules outputs).map Prod.fst).Nodup := by
  rw [(h.perm_outputs.map Prod.fst).nodup_iff, h.ids]
  exact hids

/-- A walk is determined by where it starts. -/
theorem unique {final' : Bindings} {outputs' : Outputs}
    (h : Walk engine round rules locals outputs final)
    (h' : Walk engine round rules locals outputs' final') : outputs = outputs' ∧ final = final' := by
  induction h generalizing outputs' final' with
  | done =>
    cases h'
    exact ⟨rfl, rfl⟩
  | misread | failed | valued | sets => cases h' <;> grind

/-- An engine that does not break down walks over any rules. -/
theorem exists_of_isSound (sound : engine.IsSound) (round : Round) (rules : List ListedRule)
    (locals : Bindings) : ∃ outputs final, Walk engine round rules locals outputs final := by
  induction rules generalizing locals with
  | nil => exact ⟨[], locals, .done locals⟩
  | cons r rest ih =>
    have hparse := sound.1 r.expression
    cases hr : engine.parse r.expression with
    | broken text =>
      rw [hr] at hparse
      cases hparse
    | refused message =>
      obtain ⟨outputs, final, h⟩ := ih locals
      exact ⟨_, final, .misread hr h⟩
    | done e =>
      have hevaluate := sound.2 e (round.scope locals)
      cases he : engine.evaluate e (round.scope locals) with
      | broken text =>
        rw [he] at hevaluate
        cases hevaluate
      | refused message =>
        obtain ⟨outputs, final, h⟩ := ih locals
        exact ⟨_, final, .failed hr he h⟩
      | done v =>
        by_cases ha : r.action = .set
        · obtain ⟨outputs, final, h⟩ := ih (Json.putMember r.field v locals)
          exact ⟨_, final, .sets hr he ha h⟩
        · obtain ⟨outputs, final, h⟩ := ih locals
          exact ⟨_, final, .valued hr he ha h⟩

/-- The two passes of a lenient unit: reading records the rules that cannot be read, and evaluating
what was read records the others. -/
theorem two_passes {u : EvaluationUnit α} (lenient : u.strict = false)
    (h : Walk u.engine round rules locals outputs final) :
    ∃ read, (∀ before, u.readRules rules before =
        .ok (read, Json.putAll before (refusals u.engine rules outputs))) ∧
      ∀ before, u.evaluateRules round read before locals =
        .ok ⟨Json.putAll before (findings u.engine rules outputs), final⟩ := by
  induction h with
  | done locals => exact ⟨[], fun _ => rfl, fun _ => rfl⟩
  | @misread r rest locals final outputs message hr h ih =>
    obtain ⟨read, hread, hothers⟩ := ih
    refine ⟨read, ?_, ?_⟩
    · intro before
      simp only [readRules, hr, lenient, Bool.false_eq_true, ↓reduceIte, refusals_cons_refused hr]
      exact hread _
    · rwa [findings_cons_refused hr]
  | @failed r rest locals final outputs e message hr he h ih =>
    obtain ⟨read, hread, hothers⟩ := ih
    refine ⟨⟨r, e⟩ :: read, ?_, ?_⟩
    · intro before
      simp only [readRules, hr, hread, refusals_cons_read hr]
      rfl
    · intro before
      simp only [evaluateRules, he, lenient, Bool.false_eq_true, ↓reduceIte, findings_cons_read hr]
      exact hothers _
  | @valued r rest locals final outputs e v hr he ha h ih =>
    obtain ⟨read, hread, hothers⟩ := ih
    refine ⟨⟨r, e⟩ :: read, ?_, ?_⟩
    · intro before
      simp only [readRules, hr, hread, refusals_cons_read hr]
      rfl
    · intro before
      simp only [evaluateRules, he, bind, if_neg ha, findings_cons_read hr]
      exact hothers _
  | @sets r rest locals final outputs e v hr he ha h ih =>
    obtain ⟨read, hread, hothers⟩ := ih
    refine ⟨⟨r, e⟩ :: read, ?_, ?_⟩
    · intro before
      simp only [readRules, hr, hread, refusals_cons_read hr]
      rfl
    · intro before
      simp only [evaluateRules, he, bind, if_pos ha, findings_cons_read hr]
      exact hothers _

/-- Of outcomes under one id, the one that is recorded last stays. -/
theorem run_eq_recorded {u : EvaluationUnit α} (lenient : u.strict = false) {request : Request}
    (hround : Round.ofRequest request = .ok round)
    (h : Walk u.engine round request.rules [] outputs final) :
    u.run request = .ok ⟨Json.putAll [] (refusals u.engine request.rules outputs ++
      findings u.engine request.rules outputs), final⟩ := by
  obtain ⟨read, hread, hothers⟩ := h.two_passes lenient
  rw [Json.putAll_append, ← hothers]
  simp only [run, hround, hread]
  rfl

theorem run_eq {u : EvaluationUnit α} (lenient : u.strict = false) {request : Request}
    (hround : Round.ofRequest request = .ok round)
    (hids : (request.rules.map ListedRule.id).Nodup)
    (h : Walk u.engine round request.rules [] outputs final) :
    u.run request = .ok ⟨Json.sortMembers outputs, final⟩ := by
  have hsort : Json.putAll [] (refusals u.engine request.rules outputs ++
      findings u.engine request.rules outputs) = Json.sortMembers outputs :=
    Json.sortMembers_eq_of_perm (h.nodup_recorded hids) h.perm_outputs
  rw [h.run_eq_recorded lenient hround, hsort]

end Walk

/-- A lenient unit answers a request that can be read, of rules under different ids, with the
outcomes of one pass over the rules: one for each rule, and the values bound in the end. -/
theorem lenient_reply_is_walk {u : EvaluationUnit α} (sound : u.engine.IsSound)
    (lenient : u.strict = false) {request : Request} {round : Round}
    (hround : Round.ofRequest request = .ok round)
    (hids : (request.rules.map ListedRule.id).Nodup) :
    (∃ outputs final, Walk u.engine round request.rules [] outputs final) ∧
    ∀ outputs final, Walk u.engine round request.rules [] outputs final →
      ∃ values, u.reply request = .success ⟨values, final⟩ ∧ Json.Ascending values ∧
        values.Perm outputs ∧ (values.map Prod.fst).Perm (request.rules.map ListedRule.id) ∧
        ∀ id output, Json.findMember id values = some output ↔ (id, output) ∈ outputs := by
  refine ⟨Walk.exists_of_isSound sound round request.rules [], ?_⟩
  intro outputs final h
  have hkeys : (outputs.map Prod.fst).Nodup := h.ids ▸ hids
  have hp := Json.perm_sortMembers hkeys
  refine ⟨Json.sortMembers outputs, ?_, Json.ascending_sortMembers outputs, hp, ?_, ?_⟩
  · simp only [reply, h.run_eq lenient hround hids]
  · exact h.ids ▸ hp.map Prod.fst
  · intro id output
    rw [Json.findMember_sortMembers hkeys, Json.findMember_eq_some_iff hkeys]

/-- A rule that cannot be read stands between one that binds a value and one that sees it. -/
theorem bound_value_passes_misread_rule : ∃ values,
    (⟨.basic, false⟩ : EvaluationUnit Expr).reply
      ⟨[⟨⟨"total", .set, "2", ""⟩, "b"⟩, ⟨⟨"", .evaluate, "", ""⟩, "c"⟩,
        ⟨⟨"", .evaluate, "total", ""⟩, "a"⟩], "{}", "{}", "2024-01-01T00:00:00Z", "2024-01-01"⟩ =
      .success ⟨values, [("total", Json.ofNat 2)]⟩ ∧
    Json.findMember "a" values = some (.value (Json.ofNat 2)) := by
  have hround : Round.ofRequest
      ⟨[⟨⟨"total", .set, "2", ""⟩, "b"⟩, ⟨⟨"", .evaluate, "", ""⟩, "c"⟩,
        ⟨⟨"", .evaluate, "total", ""⟩, "a"⟩], "{}", "{}", "2024-01-01T00:00:00Z", "2024-01-01"⟩ =
      .ok ⟨.obj [], .obj [], ⟨⟨2024, 1, 1, by decide⟩, 0, 0, 0⟩, ⟨2024, 1, 1, by decide⟩⟩ := rfl
  have hall := lenient_reply_is_walk (u := ⟨.basic, false⟩) Engine.isSound_basic rfl hround
    (by decide)
  obtain ⟨values, hreply, -, -, -, hfind⟩ := hall.2
    [("b", .value (Json.ofNat 2)), ("c", .error "unexpected end of expression"),
      ("a", .value (Json.ofNat 2))]
    [("total", Json.ofNat 2)] (.sets rfl rfl rfl (.misread rfl (.valued rfl rfl nofun (.done _))))
  exact ⟨values, hreply, (hfind _ _).mpr (by simp)⟩

end RuleBench.EvaluationUnit
