import RuleBench.Proofs.Round.Walk

set_option autoImplicit false

/-!
# Strict and lenient units

A strict unit either gives the outcomes that a lenient one gives, or names one rule and gives the
message that the lenient one records as its outcome: the first rule that cannot be read, and if all
can be read, the first that has no value.
-/

namespace RuleBench

def Output.isError : Output → Bool
  | .value _ => false
  | .error _ => true

namespace EvaluationUnit

variable {α : Type}

/-- The first rule that cannot be read, and why.  Whether those before it have values does not
matter. -/
def FirstMisread (engine : Engine α) (rules : List ListedRule) (r : ListedRule)
    (message : String) : Prop :=
  ∃ earlier later, rules = earlier ++ r :: later ∧ (∀ x ∈ earlier, reads engine x = true) ∧
    engine.parse r.expression = .refused message

/-- The first rule that has no value, and why: those before it have values, and it is evaluated with
what they have bound. -/
def FirstFailed (engine : Engine α) (round : Round) (locals : Bindings) (rules : List ListedRule)
    (r : ListedRule) (message : String) : Prop :=
  ∃ earlier later outputs bound e, rules = earlier ++ r :: later ∧
    Walk engine round earlier locals outputs bound ∧ (∀ o ∈ outputs, o.2.isError = false) ∧
    engine.parse r.expression = .done e ∧
    engine.evaluate e ⟨round.current, round.previous, bound, round.now, round.today⟩ =
      .refused message

theorem exists_firstMisread {engine : Engine α} (sound : engine.IsSound) {rules : List ListedRule}
    (h : ¬ ∀ x ∈ rules, reads engine x = true) :
    ∃ r message, FirstMisread engine rules r message := by
  induction rules with
  | nil => exact absurd (fun _ => nofun) h
  | cons x rest ih =>
    have hsound := sound.1 x.expression
    cases hx : engine.parse x.expression with
    | broken text =>
      rw [hx] at hsound
      cases hsound
    | refused message => exact ⟨x, message, [], rest, rfl, nofun, hx⟩
    | done e =>
      have hreads : reads engine x = true := by simp [reads, hx]
      have hrest : ¬ ∀ y ∈ rest, reads engine y = true :=
        fun hall => h (List.forall_mem_cons.mpr ⟨hreads, hall⟩)
      obtain ⟨r, message, earlier, later, rfl, hearlier, hr⟩ := ih hrest
      exact ⟨r, message, x :: earlier, later, rfl, List.forall_mem_cons.mpr ⟨hreads, hearlier⟩, hr⟩

/-- A rule that has a value stands before the first one that has none. -/
theorem FirstFailed.cons {engine : Engine α} {round : Round} {locals bound : Bindings}
    {rules : List ListedRule} {x r : ListedRule} {o : String × Output} {message : String}
    (h : FirstFailed engine round bound rules r message) (ho : o.2.isError = false)
    (hx : ∀ {rules outputs final}, Walk engine round rules bound outputs final →
      Walk engine round (x :: rules) locals (o :: outputs) final) :
    FirstFailed engine round locals (x :: rules) r message := by
  obtain ⟨earlier, later, outputs, final, e, rfl, hwalk, hvalues, hfailed⟩ := h
  exact ⟨x :: earlier, later, o :: outputs, final, e, rfl, hx hwalk,
    List.forall_mem_cons.mpr ⟨ho, hvalues⟩, hfailed⟩

/-! ## Walks in parts -/

namespace Walk

variable {engine : Engine α} {round : Round} {rules earlier later : List ListedRule}
  {locals final : Bindings} {outputs : Outputs} {r : ListedRule} {message : String}

theorem split (h : Walk engine round (earlier ++ later) locals outputs final) :
    ∃ first bound second, Walk engine round earlier locals first bound ∧
      Walk engine round later bound second final ∧ outputs = first ++ second := by
  induction earlier generalizing locals outputs with
  | nil => exact ⟨[], locals, outputs, .done locals, h, rfl⟩
  | cons x earlier ih =>
    rw [List.cons_append] at h
    cases h with
    | misread hx h =>
      obtain ⟨first, bound, second, h₁, h₂, rfl⟩ := ih h
      exact ⟨_, bound, second, .misread hx h₁, h₂, rfl⟩
    | failed hx he h =>
      obtain ⟨first, bound, second, h₁, h₂, rfl⟩ := ih h
      exact ⟨_, bound, second, .failed hx he h₁, h₂, rfl⟩
    | valued hx he ha h =>
      obtain ⟨first, bound, second, h₁, h₂, rfl⟩ := ih h
      exact ⟨_, bound, second, .valued hx he ha h₁, h₂, rfl⟩
    | sets hx he ha h =>
      obtain ⟨first, bound, second, h₁, h₂, rfl⟩ := ih h
      exact ⟨_, bound, second, .sets hx he ha h₁, h₂, rfl⟩

theorem mem_of_firstMisread (h : Walk engine round rules locals outputs final)
    (hr : FirstMisread engine rules r message) : (r.id, .error message) ∈ outputs := by
  obtain ⟨earlier, later, rfl, -, hr⟩ := hr
  obtain ⟨first, bound, second, -, hrest, rfl⟩ := h.split
  refine List.mem_append_right _ ?_
  cases hrest with
  | misread hr' _ =>
    rw [hr] at hr'
    cases hr'
    exact List.mem_cons_self
  | failed hr' _ _ | valued hr' _ _ _ | sets hr' _ _ _ =>
    rw [hr] at hr'
    cases hr'

theorem mem_of_firstFailed (h : Walk engine round rules locals outputs final)
    (hr : FirstFailed engine round locals rules r message) : (r.id, .error message) ∈ outputs := by
  obtain ⟨earlier, later, first, bound, e, rfl, hfirst, -, hr, he⟩ := hr
  obtain ⟨first', bound', second, hfirst', hrest, rfl⟩ := h.split
  obtain ⟨rfl, rfl⟩ := hfirst.unique hfirst'
  refine List.mem_append_right _ ?_
  cases hrest with
  | misread hr' _ =>
    rw [hr] at hr'
    cases hr'
  | failed hr' he' _ =>
    obtain rfl := Attempt.done.inj (hr.symm.trans hr')
    obtain rfl := Attempt.refused.inj (he.symm.trans he')
    exact List.mem_cons_self
  | valued hr' he' _ _ | sets hr' he' _ _ =>
    obtain rfl := Attempt.done.inj (hr.symm.trans hr')
    rw [he] at he'
    cases he'

/-- Where all rules can be read and not all have values, there is a first one that has none. -/
theorem exists_firstFailed (h : Walk engine round rules locals outputs final)
    (hreads : ∀ x ∈ rules, reads engine x = true) (hno : ¬ ∀ o ∈ outputs, o.2.isError = false) :
    ∃ r message, FirstFailed engine round locals rules r message := by
  induction h with
  | done locals => exact absurd (List.forall_mem_nil _) hno
  | misread hr _ _ =>
    have hread := hreads _ List.mem_cons_self
    simp [reads, hr] at hread
  | failed hr he _ _ =>
    exact ⟨_, _, [], _, [], _, _, rfl, .done _, List.forall_mem_nil _, hr, he⟩
  | valued hr he ha _ ih =>
    obtain ⟨r, message, hfailed⟩ := ih (fun x hx => hreads x (List.mem_cons_of_mem _ hx))
      fun hall => hno (List.forall_mem_cons.mpr ⟨rfl, hall⟩)
    exact ⟨r, message, hfailed.cons rfl (.valued hr he ha)⟩
  | sets hr he ha _ ih =>
    obtain ⟨r, message, hfailed⟩ := ih (fun x hx => hreads x (List.mem_cons_of_mem _ hx))
      fun hall => hno (List.forall_mem_cons.mpr ⟨rfl, hall⟩)
    exact ⟨r, message, hfailed.cons rfl (.sets hr he ha)⟩

/-- Rules that have values can be read. -/
theorem reads_of_values (h : Walk engine round rules locals outputs final)
    (hvalues : ∀ o ∈ outputs, o.2.isError = false) : ∀ x ∈ rules, reads engine x = true := by
  induction h with
  | done locals => nofun
  | misread _ _ _ | failed _ _ _ _ => cases hvalues _ List.mem_cons_self
  | valued hr _ _ _ ih | sets hr _ _ _ ih =>
    refine List.forall_mem_cons.mpr ⟨by simp [reads, hr], ih fun o ho => ?_⟩
    exact hvalues o (List.mem_cons_of_mem _ ho)

end Walk

/-! ## Where a strict unit stops -/

/-- The rules that can be read, with their expressions. -/
def readable (engine : Engine α) (rules : List ListedRule) : List (ReadRule α) :=
  rules.filterMap fun r =>
    match engine.parse r.expression with
    | .done e => some ⟨r, e⟩
    | _ => none

theorem readRules_append {u : EvaluationUnit α} {earlier : List ListedRule}
    (h : ∀ x ∈ earlier, reads u.engine x = true) (later : List ListedRule) (before : Outputs) :
    u.readRules (earlier ++ later) before =
      (u.readRules later before).map fun p => (readable u.engine earlier ++ p.1, p.2) := by
  induction earlier with
  | nil => exact (congrFun Except.map_id _).symm
  | cons x earlier ih =>
    obtain ⟨hx, hrest⟩ := List.forall_mem_cons.mp h
    unfold reads at hx
    cases hparse : u.engine.parse x.expression with
    | done e =>
      simp only [List.cons_append, readRules, hparse, ih hrest, readable, List.filterMap_cons]
      cases u.readRules later before <;> rfl
    | refused _ | broken _ =>
      rw [hparse] at hx
      cases hx

theorem readRules_eq_readable {u : EvaluationUnit α} {rules : List ListedRule}
    (h : ∀ x ∈ rules, reads u.engine x = true) (before : Outputs) :
    u.readRules rules before = .ok (readable u.engine rules, before) := by
  have happend := readRules_append h [] before
  simpa [readRules, Except.map] using happend

/-- Rules that have values are gone through in the same way by every unit. -/
theorem Walk.evaluateRules_append {u : EvaluationUnit α} {round : Round} {rules : List ListedRule}
    {locals final : Bindings} {outputs : Outputs}
    (h : Walk u.engine round rules locals outputs final)
    (hvalues : ∀ o ∈ outputs, o.2.isError = false) (rest : List (ReadRule α)) (before : Outputs) :
    u.evaluateRules round (readable u.engine rules ++ rest) before locals =
      u.evaluateRules round rest (Json.putAll before outputs) final := by
  induction h generalizing before with
  | done locals => rfl
  | misread _ _ _ | failed _ _ _ _ => cases hvalues _ List.mem_cons_self
  | valued hr he ha _ ih =>
    simp only [readable, List.filterMap_cons, hr, List.cons_append, evaluateRules, he, bind,
      if_neg ha]
    exact ih (fun o ho => hvalues o (List.mem_cons_of_mem _ ho)) _
  | sets hr he ha _ ih =>
    simp only [readable, List.filterMap_cons, hr, List.cons_append, evaluateRules, he, bind,
      if_pos ha]
    exact ih (fun o ho => hvalues o (List.mem_cons_of_mem _ ho)) _

section Strict

variable {u : EvaluationUnit α} {request : Request} {round : Round} {r : ListedRule}
  {message : String} {outputs : Outputs} {final : Bindings}

/-- What a unit answers where every rule has a value. -/
theorem reply_of_values (hround : Round.ofRequest request = .ok round)
    (h : Walk u.engine round request.rules [] outputs final)
    (hvalues : ∀ o ∈ outputs, o.2.isError = false) :
    u.reply request = .success ⟨Json.sortMembers outputs, final⟩ := by
  have hread := readRules_eq_readable (h.reads_of_values hvalues) []
  have hall := h.evaluateRules_append hvalues [] []
  rw [List.append_nil] at hall
  have hrun : u.run request = .ok ⟨Json.sortMembers outputs, final⟩ := by
    simp only [run, hround, hread]
    exact hall
  simp only [reply, hrun]

theorem reply_of_firstMisread (strict : u.strict = true)
    (hround : Round.ofRequest request = .ok round)
    (h : FirstMisread u.engine request.rules r message) :
    u.reply request = .failure (.badExpression (complaint r message)) := by
  obtain ⟨earlier, later, hrules, hreads, hr⟩ := h
  have hread : u.readRules request.rules [] =
      .error (.failure (.badExpression (complaint r message))) := by
    simp only [hrules, readRules_append hreads, readRules, hr, strict, if_true]
    rfl
  have hrun : u.run request = .error (.failure (.badExpression (complaint r message))) := by
    simp only [run, hround, hread]
    rfl
  simp only [reply, hrun]

theorem reply_of_firstFailed (strict : u.strict = true)
    (hround : Round.ofRequest request = .ok round)
    (hreads : ∀ x ∈ request.rules, reads u.engine x = true)
    (h : FirstFailed u.engine round [] request.rules r message) :
    u.reply request = .failure (.failedExpression (complaint r message)) := by
  obtain ⟨earlier, later, outputs, bound, e, hrules, hwalk, hvalues, hr, he⟩ := h
  have hreadable : readable u.engine request.rules =
      readable u.engine earlier ++ ⟨r, e⟩ :: readable u.engine later := by
    simp only [hrules, readable, List.filterMap_append, List.filterMap_cons, hr]
  have hread := readRules_eq_readable hreads []
  have hall : u.evaluateRules round (readable u.engine request.rules) [] [] =
      .error (.failure (.failedExpression (complaint r message))) := by
    rw [hreadable, hwalk.evaluateRules_append hvalues]
    simp only [evaluateRules, he, strict, if_true]
  have hrun : u.run request = .error (.failure (.failedExpression (complaint r message))) := by
    simp only [run, hround, hread]
    exact hall
  simp only [reply, hrun]

end Strict

/-- Of a request that can be read, of rules under different ids: a strict unit gives the outcomes
that a lenient one gives, if none of them is an error.  Otherwise it names the first rule that
cannot be read or, if all can be read, the first that has no value, with the message that the
lenient one records for that rule. -/
theorem strict_reply_follows_lenient {engine : Engine α} (sound : engine.IsSound)
    {request : Request} {round : Round} (hround : Round.ofRequest request = .ok round)
    (hids : (request.rules.map ListedRule.id).Nodup) :
    ∃ o : Outcomes, (⟨engine, false⟩ : EvaluationUnit α).reply request = .success o ∧
      (((⟨engine, true⟩ : EvaluationUnit α).reply request).isSuccess = true ↔
        ∀ e ∈ o.values, e.2.isError = false) ∧
      ((∀ e ∈ o.values, e.2.isError = false) →
        (⟨engine, true⟩ : EvaluationUnit α).reply request = .success o) ∧
      ((¬ ∀ e ∈ o.values, e.2.isError = false) →
        (∃ r message, FirstMisread engine request.rules r message) ∨
        ((∀ r ∈ request.rules, reads engine r = true) ∧
          ∃ r message, FirstFailed engine round [] request.rules r message)) ∧
      (∀ r message, FirstMisread engine request.rules r message →
        (⟨engine, true⟩ : EvaluationUnit α).reply request =
          .failure (.badExpression (r.field ++ ": " ++ message)) ∧
        Json.findMember r.id o.values = some (.error message)) ∧
      ∀ r message, (∀ x ∈ request.rules, reads engine x = true) →
        FirstFailed engine round [] request.rules r message →
        (⟨engine, true⟩ : EvaluationUnit α).reply request =
          .failure (.failedExpression (r.field ++ ": " ++ message)) ∧
        Json.findMember r.id o.values = some (.error message) := by
  obtain ⟨outputs, final, h⟩ := Walk.exists_of_isSound sound round request.rules []
  have hkeys : (outputs.map Prod.fst).Nodup := h.ids ▸ hids
  have hlenient : (⟨engine, false⟩ : EvaluationUnit α).reply request =
      .success ⟨Json.sortMembers outputs, final⟩ := by
    simp only [reply, Walk.run_eq (u := ⟨engine, false⟩) rfl hround hids h]
  have hvalues : (∀ e ∈ Json.sortMembers outputs, e.2.isError = false) ↔
      ∀ e ∈ outputs, e.2.isError = false := by
    simp only [(Json.perm_sortMembers hkeys).mem_iff]
  have hsuccess (hall : ∀ e ∈ outputs, e.2.isError = false) :=
    reply_of_values (u := ⟨engine, true⟩) hround h hall
  have hcases (hno : ¬ ∀ e ∈ outputs, e.2.isError = false) :
      (∃ r message, FirstMisread engine request.rules r message) ∨
      ((∀ r ∈ request.rules, reads engine r = true) ∧
        ∃ r message, FirstFailed engine round [] request.rules r message) := by
    by_cases hreads : ∀ r ∈ request.rules, reads engine r = true
    · exact .inr ⟨hreads, h.exists_firstFailed hreads hno⟩
    · exact .inl (exists_firstMisread sound hreads)
  have hrecorded {r : ListedRule} {message : String} (hmem : (r.id, .error message) ∈ outputs) :
      Json.findMember r.id (Json.sortMembers outputs) = some (.error message) := by
    rw [Json.findMember_sortMembers hkeys]
    exact (Json.findMember_eq_some_iff hkeys).mpr hmem
  have hmisread {r : ListedRule} {message : String}
      (hr : FirstMisread engine request.rules r message) :=
    reply_of_firstMisread (u := ⟨engine, true⟩) rfl hround hr
  have hfailed {r : ListedRule} {message : String}
      (hreads : ∀ x ∈ request.rules, reads engine x = true)
      (hr : FirstFailed engine round [] request.rules r message) :=
    reply_of_firstFailed (u := ⟨engine, true⟩) rfl hround hreads hr
  refine ⟨⟨Json.sortMembers outputs, final⟩, hlenient, ⟨?_, ?_⟩, ?_, ?_, ?_, ?_⟩
  · intro hs
    by_contra hno
    rcases hcases (mt hvalues.mpr hno) with ⟨r, message, hr⟩ | ⟨hreads, r, message, hr⟩
    · rw [hmisread hr] at hs
      cases hs
    · rw [hfailed hreads hr] at hs
      cases hs
  · exact fun hall => congrArg Reply.isSuccess (hsuccess (hvalues.mp hall))
  · exact fun hall => hsuccess (hvalues.mp hall)
  · exact fun hno => hcases (mt hvalues.mpr hno)
  · exact fun r message hr => ⟨hmisread hr, hrecorded (h.mem_of_firstMisread hr)⟩
  · exact fun r message hreads hr =>
      ⟨hfailed hreads hr, hrecorded (h.mem_of_firstFailed hr)⟩

/-- The first rule has no value and the second cannot be read: the second is named. -/
theorem misread_rule_is_named_before_failed_rule :
    (⟨.basic, true⟩ : EvaluationUnit Expr).reply
      ⟨[⟨⟨"total", .accept, "1/0", ""⟩, "b"⟩, ⟨⟨"price", .accept, "", ""⟩, "a"⟩], "{}", "{}",
        "2024-01-01T00:00:00Z", "2024-01-01"⟩ =
      .failure (.badExpression "price: unexpected end of expression") := by
  have hround : Round.ofRequest
      ⟨[⟨⟨"total", .accept, "1/0", ""⟩, "b"⟩, ⟨⟨"price", .accept, "", ""⟩, "a"⟩], "{}", "{}",
        "2024-01-01T00:00:00Z", "2024-01-01"⟩ =
      .ok ⟨.obj [], .obj [], ⟨⟨2024, 1, 1, by decide⟩, 0, 0, 0⟩, ⟨2024, 1, 1, by decide⟩⟩ := rfl
  obtain ⟨o, -, -, -, -, hmisread, -⟩ :=
    strict_reply_follows_lenient Engine.isSound_basic hround (by decide)
  exact (hmisread ⟨⟨"price", .accept, "", ""⟩, "a"⟩ "unexpected end of expression"
    ⟨[⟨⟨"total", .accept, "1/0", ""⟩, "b"⟩], [], rfl,
      List.forall_mem_singleton.mpr rfl, rfl⟩).1

end EvaluationUnit

end RuleBench
