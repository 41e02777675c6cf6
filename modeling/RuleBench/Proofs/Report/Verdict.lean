import RuleBench.Proofs.Command.Outcomes
import RuleBench.Proofs.Report.Messages
import RuleBench.Proofs.Round.Walk
import RuleBench.Proofs.Snapshot.Texts

set_option autoImplicit false

/-!
# What a verdict depends on

A check that has its reply in time passes if and only if both records can be read and no rule
complains about the outcome that counts for it.  Outcomes are found by the ids of rules, and a file
may hold several rules of one id: then the outcome of the last of them that can be read counts for
all.
-/

namespace RuleBench

namespace EvaluationUnit

variable {α : Type}

/-- The outcome that counts for the rules of an id: that of the last one that can be read, or, if none
can be read, that of the last one. -/
def counted (engine : Engine α) (rules : List ListedRule) (outputs : Outputs) (id : String) :
    Option Output :=
  let own := (rules.zip outputs).filter fun p => p.1.id = id
  ((own.filter fun p => reads engine p.1).getLast?.or own.getLast?).map fun p => p.2.2

namespace Walk

variable {engine : Engine α} {round : Round} {rules : List ListedRule} {locals final : Bindings}
  {outputs : Outputs}

theorem id_eq_of_mem_zip (h : Walk engine round rules locals outputs final)
    {p : ListedRule × String × Output} (hp : p ∈ rules.zip outputs) : p.2.1 = p.1.id := by
  have hids := h.ids
  obtain ⟨i, hi, rfl⟩ := List.mem_iff_getElem.mp hp
  simp only [List.length_zip, lt_inf_iff] at hi
  have := congrArg (fun l => l[i]?) hids
  simpa [hi] using this

/-- What is looked up in the end is the outcome that counts. -/
theorem findMember_recorded (h : Walk engine round rules locals outputs final) (id : String) :
    Json.findMember id (Json.putAll [] (refusals engine rules outputs ++
      findings engine rules outputs)) = counted engine rules outputs id := by
  have hown (p : ListedRule → Bool) :
      (((rules.zip outputs).filter fun q => p q.1).map Prod.snd).filter (fun e => e.1 = id) =
        (((rules.zip outputs).filter fun q => q.1.id = id).filter fun q => p q.1).map Prod.snd := by
    rw [List.filter_map, List.filter_filter, List.filter_filter]
    refine congrArg _ (List.filter_congr fun q hq => ?_)
    simp only [Function.comp_apply, h.id_eq_of_mem_zip hq, Bool.and_comm]
  rw [Json.findMember_putAll_eq_getLast?, List.filter_append, List.getLast?_append]
  simp only [refusals, findings, hown, hown fun r => !reads engine r, List.getLast?_map, counted]
  -- Findings are recorded after refusals, so a refusal stays only where there is no finding.
  generalize (rules.zip outputs).filter (fun q => q.1.id = id) = own
  cases hread : (own.filter fun q => reads engine q.1).getLast? with
  | some q => rfl
  | none =>
    have hall : (own.filter fun q => !reads engine q.1) = own := by
      refine List.filter_eq_self.mpr fun q hq => ?_
      have hno := List.filter_eq_nil_iff.mp (List.getLast?_eq_none_iff.mp hread) q hq
      simpa using hno
    rw [hall]
    cases own.getLast? <;> rfl

/-- Under different ids, what counts for a rule is its own outcome. -/
theorem counted_eq_of_nodup (h : Walk engine round rules locals outputs final)
    (hids : (rules.map ListedRule.id).Nodup) {r : ListedRule} {e : String × Output}
    (hr : (r, e) ∈ rules.zip outputs) : counted engine rules outputs r.id = some e.2 := by
  have hkeys := h.nodup_recorded hids
  have he : e = (r.id, e.2) := Prod.ext (h.id_eq_of_mem_zip hr) rfl
  rw [← h.findMember_recorded]
  refine (Json.findMember_sortMembers hkeys r.id).trans ((Json.findMember_eq_some_iff hkeys).mpr ?_)
  rw [← he]
  exact h.perm_outputs.mem_iff.mpr (List.of_mem_zip hr).2

theorem exists_mem_zip (h : Walk engine round rules locals outputs final) {r : ListedRule}
    (hr : r ∈ rules) : ∃ e, (r, e) ∈ rules.zip outputs := by
  have hzip : (rules.zip outputs).map Prod.fst = rules :=
    List.map_fst_zip (Nat.le_of_eq h.length_outputs.symm)
  rw [← hzip] at hr
  obtain ⟨p, hp, rfl⟩ := List.mem_map.mp hr
  exact ⟨p.2, hp⟩

/-- Every rule is judged by the outcome that counts for it. -/
theorem counted_eq_outcome (h : Walk engine round rules locals outputs final) {r : ListedRule}
    (hr : r ∈ rules) : counted engine rules outputs r.id = some (Validation.outcome
      (Json.putAll [] (refusals engine rules outputs ++ findings engine rules outputs)) r) := by
  unfold Validation.outcome
  rw [h.findMember_recorded]
  cases hc : counted engine rules outputs r.id with
  | some o => rfl
  | none =>
    obtain ⟨e, he⟩ := h.exists_mem_zip hr
    have hown := (Option.or_eq_none_iff.mp (Option.map_eq_none_iff.mp hc)).2
    have hno := List.filter_eq_nil_iff.mp (List.getLast?_eq_none_iff.mp hown) (r, e) he
    simp at hno

/-- Under different ids, what is asked of the outcomes that count is asked of every rule's own. -/
theorem forall_counted_iff (h : Walk engine round rules locals outputs final)
    (hids : (rules.map ListedRule.id).Nodup) (P : ListedRule → Output → Prop) :
    (∀ r ∈ rules, ∃ o, counted engine rules outputs r.id = some o ∧ P r o) ↔
      ∀ p ∈ rules.zip outputs, P p.1 p.2.2 := by
  constructor
  · rintro hall ⟨r, e⟩ hp
    obtain ⟨o, ho, hP⟩ := hall r (List.of_mem_zip hp).1
    obtain rfl : e.2 = o := Option.some.inj ((h.counted_eq_of_nodup hids hp).symm.trans ho)
    exact hP
  · intro hall r hr
    obtain ⟨e, he⟩ := h.exists_mem_zip hr
    exact ⟨e.2, h.counted_eq_of_nodup hids he, hall (r, e) he⟩

end Walk

/-- Both records of the snapshot can be read, and one pass over its rules has these outcomes. -/
def Yields (s : Snapshot) (now : Calendar.Instant) (today : Calendar.Date) (outputs : Outputs) :
    Prop :=
  ∃ current previous final, Json.parse s.data = .ok current ∧
    Json.parse s.previousData = .ok previous ∧
    Walk .basic ⟨current, previous, now, today⟩ s.rules [] outputs final

theorem Yields.unique {s : Snapshot} {now : Calendar.Instant} {today : Calendar.Date}
    {outputs outputs' : Outputs} (h : Yields s now today outputs)
    (h' : Yields s now today outputs') : outputs = outputs' := by
  obtain ⟨current, previous, final, hcurrent, hprevious, walk⟩ := h
  obtain ⟨current', previous', final', hcurrent', hprevious', walk'⟩ := h'
  obtain rfl := Except.ok.inj (hcurrent.symm.trans hcurrent')
  obtain rfl := Except.ok.inj (hprevious.symm.trans hprevious')
  exact (walk.unique walk').1

end EvaluationUnit

theorem Round.ofRequest_eq_ok_iff {request : Request} {now : Calendar.Instant} {today : Calendar.Date}
    (hnow : Calendar.Instant.parse request.now.toList = .ok now)
    (htoday : Calendar.Date.parse request.today.toList = .ok today) (round : Round) :
    Round.ofRequest request = .ok round ↔ ∃ current previous,
      Json.parse request.currentData = .ok current ∧
      Json.parse request.previousData = .ok previous ∧ round = ⟨current, previous, now, today⟩ := by
  unfold Round.ofRequest
  rw [hnow, htoday]
  cases Json.parse request.currentData <;> cases Json.parse request.previousData <;>
    simp [Except.mapError, bind, Except.bind, pure, Except.pure, eq_comm]

theorem Report.passed_iff (s : Snapshot) (reply : Reply) :
    (Report.ofState s (.ofReply reply)).passed = true ↔ ∃ o, reply = .success o ∧
      ∀ r ∈ s.rules, ¬ Validation.Triggers s.data o.values r := by
  cases reply with
  | success o =>
    simp [Report.passed, Report.ofState, Validation.ofState?, EvaluationState.ofReply,
      EvaluationState.isSuccess, Validation.isClean_iff]
  | failure f => simp [Report.passed, Report.ofState, EvaluationState.ofReply,
      EvaluationState.isSuccess]
  | unknown error => simp [Report.passed, Report.ofState, EvaluationState.ofReply,
      EvaluationState.isSuccess]

/-- What a lenient unit answers to a request of which the clock readings can be read. -/
theorem EvaluationUnit.reply_eq_success_iff {u : EvaluationUnit Expr} (basic : u.engine = .basic)
    (lenient : u.strict = false) {request : Request} {now : Calendar.Instant}
    {today : Calendar.Date} (hnow : Calendar.Instant.parse request.now.toList = .ok now)
    (htoday : Calendar.Date.parse request.today.toList = .ok today) (o : Outcomes) :
    u.reply request = .success o ↔ ∃ current previous outputs,
      Json.parse request.currentData = .ok current ∧
      Json.parse request.previousData = .ok previous ∧
      Walk .basic ⟨current, previous, now, today⟩ request.rules [] outputs o.updates ∧
      o.values = Json.putAll [] (refusals .basic request.rules outputs ++
        findings .basic request.rules outputs) := by
  have hrun : u.reply request = .success o ↔ u.run request = .ok o := by
    unfold reply
    cases u.run request with
    | ok o => simp
    | error stop => cases stop <;> simp
  rw [hrun]
  constructor
  · intro h
    cases hround : Round.ofRequest request with
    | error message => simp [run, hround, Except.mapError, Bind.bind, Except.bind] at h
    | ok round =>
      obtain ⟨current, previous, hcurrent, hprevious, rfl⟩ :=
        (Round.ofRequest_eq_ok_iff hnow htoday round).mp hround
      obtain ⟨outputs, final, walk⟩ := Walk.exists_of_isSound (basic ▸ Engine.isSound_basic)
        ⟨current, previous, now, today⟩ request.rules []
      rw [walk.run_eq_recorded lenient hround] at h
      obtain rfl := Except.ok.inj h
      rw [basic] at walk ⊢
      exact ⟨current, previous, outputs, hcurrent, hprevious, walk, rfl⟩
  · rintro ⟨current, previous, outputs, hcurrent, hprevious, walk, hvalues⟩
    have hround := (Round.ofRequest_eq_ok_iff hnow htoday _).mpr
      ⟨current, previous, hcurrent, hprevious, rfl⟩
    rw [← basic] at walk hvalues
    rw [walk.run_eq_recorded lenient hround, ← hvalues]

/-- A round passes if and only if both records can be read and no rule complains about the outcome that
counts for its id. -/
theorem EvaluationUnit.report_passed_iff {u : EvaluationUnit Expr} (basic : u.engine = .basic)
    (lenient : u.strict = false) {s : Snapshot} {clock now : Calendar.Instant}
    {today : Calendar.Date}
    (hnow : Calendar.Instant.parse (Request.ofSnapshot s clock).now.toList = .ok now)
    (htoday : Calendar.Date.parse (Request.ofSnapshot s clock).today.toList = .ok today) :
    (Report.ofState s (.ofReply (u.reply (Request.ofSnapshot s clock)))).passed = true ↔
      ∃ outputs, Yields s now today outputs ∧
        ∀ r ∈ s.rules, ∃ o, counted .basic s.rules outputs r.id = some o ∧
          ¬ Validation.Complains s.data r o := by
  rw [Report.passed_iff]
  simp only [reply_eq_success_iff basic lenient hnow htoday, Validation.triggers_iff]
  constructor
  · rintro ⟨o, ⟨current, previous, outputs, hcurrent, hprevious, walk, hvalues⟩, hclean⟩
    refine ⟨outputs, ⟨current, previous, o.updates, hcurrent, hprevious, walk⟩, fun r hr => ?_⟩
    exact ⟨_, walk.counted_eq_outcome hr, hvalues ▸ hclean r hr⟩
  · rintro ⟨outputs, ⟨current, previous, final, hcurrent, hprevious, walk⟩, hclean⟩
    refine ⟨⟨_, final⟩, ⟨current, previous, outputs, hcurrent, hprevious, walk, rfl⟩,
      fun r hr => ?_⟩
    obtain ⟨o, hcounted, hno⟩ := hclean r hr
    have hout := (walk.counted_eq_outcome hr).symm.trans hcounted
    exact (Option.some.inj hout) ▸ hno

namespace Command

open EvaluationUnit

section Check

variable {w : Surroundings} {settings : Settings} {file : String} {s : Snapshot}

theorem run_check_of_error {error : Error} (hload : w.load file = .ok s)
    (hdue : (w.host settings.thread settings.evaluation.timeout).error?
      settings.evaluation.timeout = some error) (asJson : Bool) :
    (Command.check file asJson).run w settings = .error error := by
  have hstate : w.evaluate settings s = .error error := by rw [w.evaluate_eq, hdue]
  simp only [run, hload, hstate, Bind.bind, Except.bind]

theorem run_check (hload : w.load file = .ok s)
    (hdue : (w.host settings.thread settings.evaluation.timeout).error?
      settings.evaluation.timeout = none) (asJson : Bool) :
    ∃ effect, (Command.check file asJson).run w settings = .ok effect ∧
      effect.passed = (w.report settings s).passed := by
  obtain ⟨state, hstate, hreport⟩ : ∃ state, w.evaluate settings s = .ok state ∧
      w.report settings s = .ofState s state := ⟨_, by rw [w.evaluate_eq, hdue], rfl⟩
  rw [hreport]
  exact ⟨_, Except.bind_eq_ok_iff.mpr ⟨s, hload,
    Except.bind_eq_ok_iff.mpr ⟨state, hstate, rfl⟩⟩, rfl⟩

/-- What a check on a snapshot comes to: an error if there is no reply in time, and else the verdict
of the report. -/
theorem run_check_cases (settings : Settings) (hload : w.load file = .ok s) (asJson : Bool) :
    match (w.host settings.thread settings.evaluation.timeout).error?
      settings.evaluation.timeout with
    | some error => (Command.check file asJson).run w settings = .error error
    | none => ∃ effect, (Command.check file asJson).run w settings = .ok effect ∧
        effect.passed = (w.report settings s).passed ∧
        ((Answer.ofEffect effect).exit = 0 ↔ (w.report settings s).passed = true) := by
  split
  · next error hdue => exact run_check_of_error hload hdue asJson
  · next hdue =>
    obtain ⟨effect, hrun, hpassed⟩ := run_check hload hdue asJson
    exact ⟨effect, hrun, hpassed, hpassed ▸ Answer.exit_ofEffect effect⟩

/-- A report passes if and only if both records can be read and no rule complains about the outcome
that counts for its id; under different ids, that is its own outcome.  A check ends with the verdict
of the report, or with an error if there is no reply in time. -/
theorem check_judges_counted_outcomes {text : String} {now : Calendar.Instant}
    {today : Calendar.Date} (hfile : w.find file = .text text) (hs : Snapshot.ofText text = .ok s)
    (lenient : settings.evaluation.strict = false)
    (hnow : Calendar.Instant.parse (Request.ofSnapshot s w.now).now.toList = .ok now)
    (htoday : Calendar.Date.parse (Request.ofSnapshot s w.now).today.toList = .ok today)
    (asJson : Bool) :
    ((w.report settings s).passed = true ↔ ∃ outputs, Yields s now today outputs ∧
      ∀ r ∈ s.rules, ∃ o, counted .basic s.rules outputs r.id = some o ∧
        ¬ Validation.Complains s.data r o) ∧
    (s.ids.Nodup → ((w.report settings s).passed = true ↔ ∃ outputs, Yields s now today outputs ∧
      ∀ p ∈ s.rules.zip outputs, ¬ Validation.Complains s.data p.1 p.2.2)) ∧
    match (w.host settings.thread settings.evaluation.timeout).error?
      settings.evaluation.timeout with
    | some error => (Command.check file asJson).run w settings = .error error
    | none => ∃ effect, (Command.check file asJson).run w settings = .ok effect ∧
        effect.passed = (w.report settings s).passed ∧
        ((Answer.ofEffect effect).exit = 0 ↔ (w.report settings s).passed = true) := by
  have hload : w.load file = .ok s := Surroundings.load_eq_ok_iff.mpr ⟨text, hfile, hs⟩
  have hpassed := report_passed_iff (u := ⟨.basic, _⟩) rfl lenient hnow htoday
  refine ⟨hpassed, fun hids => hpassed.trans ?_, run_check_cases settings hload asJson⟩
  refine exists_congr fun outputs => and_congr_right fun ⟨_, _, _, _, _, walk⟩ => ?_
  exact walk.forall_counted_iff hids fun r o => ¬ Validation.Complains s.data r o

end Check

/-! ### Two rules under two ids, and under one -/

/-- A rule that does not hold, and one that does. -/
def twoRules (a b : String) : Snapshot where
  data := "{}"
  previousData := "{}"
  rules := [⟨⟨"A", .accept, ".FALSE.", "no"⟩, a⟩, ⟨⟨"B", .accept, ".TRUE.", "no"⟩, b⟩]

def twoRulesText (a b : String) : String :=
  .ofList <| List.flatMap String.toList
    ["\x7b\"data\":\"\x7b\x7d\",", "\"previousData\":\"\x7b\x7d\",", "\"rules\":[",
      "\x7b\"FieldName\":\"A\",\"RuleAction\":\"ACCEPT\",",
      "\"RuleExpression\":\".FALSE.\",\"RuleMessage\":\"no\",\"id\":\"", a, "\"\x7d,",
      "\x7b\"FieldName\":\"B\",\"RuleAction\":\"ACCEPT\",",
      "\"RuleExpression\":\".TRUE.\",\"RuleMessage\":\"no\",\"id\":\"", b, "\"\x7d]\x7d"]

def newYear : Calendar.Instant := ⟨⟨2024, 1, 1, by decide⟩, 0, 0, 0⟩

theorem parse_newYear : Calendar.Instant.parse newYear.toUtc.stamp.toList = .ok newYear ∧
    Calendar.Date.parse (String.ofList newYear.date.text).toList = .ok newYear.date := ⟨rfl, rfl⟩

/-- Every file has this text. -/
def alone (text : String) : Surroundings := ⟨fun _ => .text text, fun _ => "", newYear, Host.prompt⟩

theorem find_alone (text : String) : (alone text).find "p.json" = .text text := rfl

theorem lenient_default : Settings.default.evaluation.strict = false := rfl

theorem yields_twoRules (a b : String) :
    Yields (twoRules a b) newYear newYear.date
      [(a, .value (.bool false)), (b, .value (.bool true))] := by
  have hdata : Json.parse "{}" = .ok (.obj []) := rfl
  have hfalse : Engine.basic.parse ".FALSE." = .done (.literal (.bool false)) := rfl
  have htrue : Engine.basic.parse ".TRUE." = .done (.literal (.bool true)) := rfl
  exact ⟨_, _, _, hdata, hdata, .valued hfalse rfl nofun (.valued htrue rfl nofun (.done []))⟩

/-- Under two ids, the rule that does not hold makes the check fail. -/
theorem check_fails_under_two_ids : ∃ effect,
    (Command.check "p.json" false).run (alone (twoRulesText "a" "b")) .default = .ok effect ∧
      (Answer.ofEffect effect).exit ≠ 0 := by
  have hs : Snapshot.ofText (twoRulesText "a" "b") = .ok (twoRules "a" "b") :=
    Snapshot.ofText_of_read (Json.Form.read_ofList (by decide +kernel))
  obtain ⟨-, hown, effect, hrun, -, hexit⟩ := check_judges_counted_outcomes (find_alone _) hs
    lenient_default parse_newYear.1 parse_newYear.2 false
  refine ⟨effect, hrun, fun hzero => ?_⟩
  obtain ⟨outputs, hyields, hclean⟩ := (hown (by decide)).mp (hexit.mp hzero)
  obtain rfl := hyields.unique (yields_twoRules "a" "b")
  exact hclean _ (.head _) nofun

/-- Under one id, the rule that does not hold is judged by the outcome of the one that does. -/
theorem check_passes_under_one_id :
    Snapshot.ofText (twoRulesText "a" "a") = .ok (twoRules "a" "a") ∧
    (∃ effect, (Command.check "p.json" false).run (alone (twoRulesText "a" "a")) .default =
      .ok effect ∧ (Answer.ofEffect effect).exit = 0 ∧
        ((alone (twoRulesText "a" "a")).report .default (twoRules "a" "a")).passed = true) ∧
    ¬ ∃ outputs, Yields (twoRules "a" "a") newYear newYear.date outputs ∧
      ∀ p ∈ (twoRules "a" "a").rules.zip outputs,
        ¬ Validation.Complains (twoRules "a" "a").data p.1 p.2.2 := by
  have hs : Snapshot.ofText (twoRulesText "a" "a") = .ok (twoRules "a" "a") :=
    Snapshot.ofText_of_read (Json.Form.read_ofList (by decide +kernel))
  refine ⟨hs, ?_, ?_⟩
  · have hload : (alone (twoRulesText "a" "a")).load "p.json" = .ok (twoRules "a" "a") :=
      Surroundings.load_eq_ok_iff.mpr ⟨_, find_alone _, hs⟩
    obtain ⟨effect, hrun, -, hexit⟩ := run_check_cases .default hload false
    have hpassed : ((alone (twoRulesText "a" "a")).report .default (twoRules "a" "a")).passed =
        true := by
      refine (report_passed_iff rfl lenient_default parse_newYear.1 parse_newYear.2).mpr
        ⟨_, yields_twoRules "a" "a", fun r hr => ⟨.value (.bool true), ?_⟩⟩
      obtain rfl | hr := List.mem_cons.mp hr
      · exact ⟨rfl, fun h => h rfl⟩
      · obtain rfl := List.mem_singleton.mp hr
        exact ⟨rfl, fun h => h rfl⟩
    exact ⟨effect, hrun, hexit.mpr hpassed, hpassed⟩
  · rintro ⟨outputs, hyields, hclean⟩
    obtain rfl := hyields.unique (yields_twoRules "a" "a")
    exact hclean _ (.head _) nofun

end Command

end RuleBench
