import RuleBench.Proofs.Report.Verdict
import RuleBench.Proofs.Round.Calls
import RuleBench.Proofs.Round.Renaming

set_option autoImplicit false

/-!
# Validation without defaults

A validation takes a text that is not JSON for a record without fields, and the lack of an outcome
for a failure.  Of what a unit answers to a snapshot it needs neither: where the round succeeds, its
record has been read from that text, and there is an outcome under the id of every rule.
-/

namespace RuleBench

/-! ## What is found, and its ids -/

/-- How the call has ended that has this outcome. -/
def Output.ending : Output → Attempt Json
  | .value v => .done v
  | .error message => .refused message

namespace EvaluationUnit

variable {α : Type} {u : EvaluationUnit α}

/-- Each rule that is gone through is either read or has an outcome, and outcomes stay. -/
theorem ids_of_readRules {rules : List ListedRule} {before outputs : Outputs}
    {read : List (ReadRule α)} (h : u.readRules rules before = .ok (read, outputs)) (id : String) :
    id ∈ outputs.map Prod.fst ∨ id ∈ read.map (fun q => q.rule.id) ↔
      id ∈ before.map Prod.fst ∨ id ∈ rules.map ListedRule.id := by
  induction rules generalizing before outputs read with
  | nil =>
    cases h
    exact Iff.rfl
  | cons r rest ih =>
    simp only [readRules] at h
    cases hparse : u.engine.parse r.expression with
    | broken text => simp only [hparse] at h; cases h
    | refused message =>
      simp only [hparse] at h
      split at h
      · cases h
      · rw [ih h, Json.mem_names_putMember, List.map_cons, List.mem_cons, or_assoc, or_left_comm]
    | done e =>
      simp only [hparse] at h
      cases hread : u.readRules rest before with
      | error stop => rw [hread] at h; cases h
      | ok p =>
        rw [hread] at h
        cases h
        rw [List.map_cons, List.mem_cons, or_left_comm, ih hread, List.map_cons, List.mem_cons,
          or_left_comm]

/-- Every rule that has been read has an outcome, found in the round's own scope; those of a round
that succeeds are put in one after another. -/
theorem found_of_evaluateRules {round : Round} {read : List (ReadRule α)} {before : Outputs}
    {locals : Bindings} {o : Outcomes} (h : u.evaluateRules round read before locals = .ok o) :
    ∃ found, o.values = Json.putAll before found ∧
      List.Forall₂ (fun q e => e.1 = q.rule.id ∧ ∃ locals, u.engine.evaluate q.expression
        ⟨round.current, round.previous, locals, round.now, round.today⟩ = e.2.ending)
        read found := by
  induction read generalizing before locals with
  | nil =>
    cases h
    exact ⟨[], rfl, .nil⟩
  | cons q rest ih =>
    obtain ⟨r, x⟩ := q
    simp only [evaluateRules] at h
    split at h
    · next v hx =>
      obtain ⟨found, hvalues, hfound⟩ := ih h
      exact ⟨(r.id, .value v) :: found, hvalues, .cons ⟨rfl, locals, hx⟩ hfound⟩
    · next message hx =>
      split at h
      · cases h
      · obtain ⟨found, hvalues, hfound⟩ := ih h
        exact ⟨(r.id, .error message) :: found, hvalues, .cons ⟨rfl, locals, hx⟩ hfound⟩
    · cases h

theorem ids_of_evaluateRules {round : Round} {read : List (ReadRule α)} {before : Outputs}
    {locals : Bindings} {o : Outcomes} (h : u.evaluateRules round read before locals = .ok o)
    (id : String) : id ∈ o.values.map Prod.fst ↔
      id ∈ before.map Prod.fst ∨ id ∈ read.map (fun q => q.rule.id) := by
  obtain ⟨found, hvalues, hfound⟩ := found_of_evaluateRules h
  have hids : found.map Prod.fst = read.map fun q => q.rule.id := by
    clear h hvalues
    induction hfound with
    | nil => rfl
    | cons hq _ ih => rw [List.map_cons, List.map_cons, hq.1, ih]
  rw [hvalues, Json.mem_names_putAll, hids]

/-- The two passes of a round that succeeds. -/
theorem run_eq_ok {request : Request} {o : Outcomes} (h : u.run request = .ok o) :
    ∃ round read refused, request.Decodes round ∧
      u.readRules request.rules [] = .ok (read, refused) ∧
      u.evaluateRules round read refused [] = .ok o := by
  simp only [run] at h
  cases hround : Round.ofRequest request with
  | error e => rw [hround] at h; cases h
  | ok round =>
    rw [hround] at h
    cases hread : u.readRules request.rules [] with
    | error stop => simp only [hread] at h; cases h
    | ok p =>
      simp only [hread] at h
      exact ⟨round, p.1, p.2, Request.decodes_iff.mpr hround, rfl, h⟩

theorem run_eq_ok_of_reply {request : Request} {o : Outcomes}
    (h : u.reply request = .success o) : u.run request = .ok o := by
  rw [u.reply_eq] at h
  cases hrun : u.run request with
  | ok o' =>
    rw [hrun] at h
    exact congrArg Except.ok (Reply.success.inj h)
  | error stop =>
    rw [hrun] at h
    cases stop <;> cases h

end EvaluationUnit

/-! ## What needs no defaults -/

namespace Validation

/-- As `gather`, but only where every rule has an outcome. -/
def gather? (record : Json) (outputs : Outputs) :
    List ListedRule → List (String × List FieldMessage) →
      Option (List (String × List FieldMessage))
  | [], messages => some messages
  | r :: rest, messages => do
    let o ← Json.findMember r.id outputs
    gather? record outputs rest <|
      match complaint? record r.action r.field o with
      | some level => addMessage r level messages
      | none => messages

def shown? (outputs : Outputs) (r : ListedRule) : Option Shown :=
  (Json.findMember r.id outputs).map fun o => ⟨r.id, r.message, o⟩

/-- The validation by what there is: none, where the text is not JSON or a rule has no outcome. -/
def ofFound? (rules : List ListedRule) (data : String) (outputs : Outputs) : Option Validation := do
  let record ← (Json.parse data).toOption
  let messages ← gather? record outputs rules []
  let shown ← (rules.filter fun r => r.action = .evaluate).mapM (shown? outputs)
  return ⟨messages, shown⟩

variable {record : Json} {data : String} {outputs : Outputs} {rules : List ListedRule}

theorem gather?_eq_some (h : ∀ r ∈ rules, r.id ∈ outputs.map Prod.fst)
    (messages : List (String × List FieldMessage)) :
    gather? record outputs rules messages = some (gather record outputs rules messages) := by
  induction rules generalizing messages with
  | nil => rfl
  | cons r rest ih =>
    obtain ⟨hr, hrest⟩ := List.forall_mem_cons.mp h
    obtain ⟨o, ho⟩ := Json.exists_findMember_iff.mpr hr
    simp only [gather?, gather, outcome, ho, Option.getD_some]
    exact ih hrest _

theorem shown?_eq_some {r : ListedRule} (h : r.id ∈ outputs.map Prod.fst) :
    shown? outputs r = some ⟨r.id, r.message, outcome outputs r⟩ := by
  obtain ⟨o, ho⟩ := Json.exists_findMember_iff.mpr h
  simp only [shown?, outcome, ho, Option.map_some, Option.getD_some]

theorem mapM_shown? (h : ∀ r ∈ rules, r.id ∈ outputs.map Prod.fst) :
    rules.mapM (shown? outputs) =
      some (rules.map fun r => ⟨r.id, r.message, outcome outputs r⟩) := by
  induction rules with
  | nil => rfl
  | cons r rest ih =>
    obtain ⟨hr, hrest⟩ := List.forall_mem_cons.mp h
    rw [List.mapM_cons, shown?_eq_some hr, ih hrest]
    rfl

/-- Where the text is JSON and every rule has an outcome, no default is used. -/
theorem ofFound?_eq_some (hdata : Json.parse data = .ok record)
    (h : ∀ r ∈ rules, r.id ∈ outputs.map Prod.fst) :
    ofFound? rules data outputs = some (ofOutputs rules data outputs) := by
  have hfiltered : ∀ r ∈ rules.filter fun r => r.action = .evaluate, r.id ∈ outputs.map Prod.fst :=
    fun r hr => h r (List.mem_of_mem_filter hr)
  have hshown := mapM_shown? hfiltered
  simp only [ofFound?, ofOutputs, recordOf, hdata, gather?_eq_some h, hshown]
  rfl

end Validation

theorem Validation.ofState?_eq_none {reply : Reply} (h : ∀ o, reply ≠ .success o) (s : Snapshot) :
    Validation.ofState? s (.ofReply reply) = none := by
  cases reply with
  | success o => exact absurd rfl (h o)
  | failure f | unknown text => rfl

theorem Report.passed_eq_false {reply : Reply} (h : ∀ o, reply ≠ .success o) (s : Snapshot) :
    (Report.ofState s (.ofReply reply)).passed = false :=
  Bool.eq_false_iff.mpr fun hpassed =>
    let ⟨o, ho, _⟩ := (Report.passed_iff s reply).mp hpassed
    h o ho

namespace EvaluationUnit

variable {α : Type}

/-- Where a unit answers a snapshot with outcomes, these are under the ids of its rules and under no
others, and the record that its engine has been shown for each of them is the one that the text of
the snapshot holds, so that the validation is the one without defaults.  Where it answers otherwise
there is no validation, and the report does not pass. -/
theorem results_need_no_defaults (u : EvaluationUnit α) (s : Snapshot) (now : Calendar.Instant) :
    (∀ o, u.reply (Request.ofSnapshot s now) = .success o →
      Json.Ascending o.values ∧
      (∀ id, id ∈ o.values.map Prod.fst ↔ id ∈ s.ids) ∧
      (∃ round read refused found, Round.ofRequest (Request.ofSnapshot s now) = .ok round ∧
        u.readRules s.rules [] = .ok (read, refused) ∧
        u.evaluateRules round read refused [] = .ok o ∧
        Json.parse s.data = .ok round.current ∧
        o.values = Json.putAll refused found ∧
        List.Forall₂ (fun q e => e.1 = q.rule.id ∧ ∃ locals, u.engine.evaluate q.expression
          ⟨round.current, round.previous, locals, round.now, round.today⟩ = e.2.ending)
          read found) ∧
      ∃ v, Validation.ofState? s (.ofReply (.success o)) = some v ∧
        Validation.ofFound? s.rules s.data o.values = some v) ∧
    ∀ reply : Reply, (∀ o, reply ≠ .success o) →
      Validation.ofState? s (.ofReply reply) = none ∧
        (Report.ofState s (.ofReply reply)).passed = false := by
  refine ⟨fun o ho => ?_, fun reply h =>
    ⟨Validation.ofState?_eq_none h s, Report.passed_eq_false h s⟩⟩
  have hrun := run_eq_ok_of_reply ho
  obtain ⟨round, read, refused, hround, hread, hevaluate⟩ := run_eq_ok hrun
  have hids : ∀ id, id ∈ o.values.map Prod.fst ↔ id ∈ s.ids := fun id => by
    rw [ids_of_evaluateRules hevaluate, ids_of_readRules hread]
    simp [Snapshot.ids, Request.ofSnapshot]
  have hdata : Json.parse s.data = .ok round.current := hround.current
  have hfound : Validation.ofFound? s.rules s.data o.values = _ :=
    Validation.ofFound?_eq_some hdata fun r hr => (hids r.id).mpr (List.mem_map_of_mem hr)
  obtain ⟨found, hvalues, hends⟩ := found_of_evaluateRules hevaluate
  exact ⟨(under_of_run hrun).ascending, hids, ⟨round, read, refused, found, hround.ofRequest_eq,
    hread, hevaluate, hdata, hvalues, hends⟩, _, rfl, hfound⟩

/-- Two rules of one id, the first of which cannot be read, and one of another id. -/
def crowded : Snapshot where
  data := "{}"
  previousData := "{}"
  rules := [⟨⟨"A", .setRequired, "(", ""⟩, "a"⟩, ⟨⟨"A", .evaluate, ".TRUE.", ""⟩, "a"⟩,
    ⟨⟨"B", .set, "2", ""⟩, "b"⟩]

/-- A lenient unit has outcomes for all of them; of a strict one the report does not pass. -/
theorem crowded_needs_no_defaults :
    (∃ o v, (⟨.basic, false⟩ : EvaluationUnit Expr).reply
        (Request.ofSnapshot crowded Command.newYear) = .success o ∧
      "a" ∈ o.values.map Prod.fst ∧ "b" ∈ o.values.map Prod.fst ∧
      Validation.ofState? crowded (.ofReply (.success o)) = some v ∧
      Validation.ofFound? crowded.rules crowded.data o.values = some v) ∧
    ∃ message, (⟨.basic, true⟩ : EvaluationUnit Expr).reply
        (Request.ofSnapshot crowded Command.newYear) = .failure (.badExpression message) ∧
      (Report.ofState crowded (.ofReply (.failure (.badExpression message)))).passed = false := by
  have hreads : (Request.ofSnapshot crowded Command.newYear).Decodes
      ⟨.obj [], .obj [], Command.newYear, Command.newYear.date⟩ := ⟨rfl, rfl, rfl, rfl⟩
  obtain ⟨o, ho⟩ := (succeeds_iff_decodes (u := ⟨.basic, false⟩) Engine.isSound_basic rfl).mpr
    ⟨_, hreads⟩
  obtain ⟨-, hids, -, v, hv, hfound⟩ := (results_need_no_defaults _ _ _).1 o ho
  obtain ⟨-, hothers⟩ :=
    results_need_no_defaults (⟨.basic, true⟩ : EvaluationUnit Expr) crowded Command.newYear
  exact ⟨⟨o, v, ho, (hids "a").mpr (by decide), (hids "b").mpr (by decide), hv, hfound⟩,
    _, rfl, (hothers (.failure (.badExpression _)) nofun).2⟩

end EvaluationUnit

end RuleBench
