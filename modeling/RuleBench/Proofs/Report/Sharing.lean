import RuleBench.Proofs.Command.Outcomes
import RuleBench.Proofs.Round.Renaming
import RuleBench.Proofs.Snapshot.Texts

set_option autoImplicit false

/-!
# Sharing

The form for sharing leaves the ids of rules out, and whoever reads it gives new ones.  Nothing but
the ids is different then: what is reported on the snapshot that was shared and on the one that was
read are the same up to the ids, and show the same text.
-/

namespace RuleBench

open Json

def FieldMessage.rename (ρ : String → String) (m : FieldMessage) : FieldMessage :=
  { m with ruleId := ρ m.ruleId }

def Shown.rename (ρ : String → String) (s : Shown) : Shown := { s with ruleId := ρ s.ruleId }

def Validation.rename (ρ : String → String) (v : Validation) : Validation where
  messages := v.messages.map fun e => (e.1, e.2.map (·.rename ρ))
  shown := v.shown.map (·.rename ρ)

def Report.rename (ρ : String → String) (r : Report) : Report :=
  ⟨r.state.rename ρ, r.validation.map (·.rename ρ)⟩

def Snapshot.rename (ρ : String → String) (s : Snapshot) : Snapshot :=
  { s with rules := s.rules.map (·.rename ρ) }

variable {ρ : String → String}

/-! ## Validation under other ids -/

namespace Validation

variable {ids : List String} {outputs : Outputs} {rules : List ListedRule}

theorem outcome_rename (apart : Set.InjOn ρ {id | id ∈ ids}) (houtputs : Under ids outputs)
    {r : ListedRule} (hr : r.id ∈ ids) :
    outcome (renameKeys ρ outputs) (r.rename ρ) = outcome outputs r := by
  rw [outcome, ListedRule.rename_id, houtputs.findMember_renameKeys apart hr, outcome]

theorem addMessage_rename (r : ListedRule) (level : Level)
    (messages : List (String × List FieldMessage)) :
    addMessage (r.rename ρ) level (messages.map fun e => (e.1, e.2.map (·.rename ρ))) =
      (addMessage r level messages).map fun e => (e.1, e.2.map (·.rename ρ)) := by
  simp only [addMessage, map_putMember, findMember_map, ListedRule.rename_toRule,
    ListedRule.rename_id]
  cases findMember r.field messages <;> simp [FieldMessage.rename]

theorem gather_rename (apart : Set.InjOn ρ {id | id ∈ ids}) (houtputs : Under ids outputs)
    (hrules : ∀ r ∈ rules, r.id ∈ ids) (record : Json)
    (messages : List (String × List FieldMessage)) :
    gather record (renameKeys ρ outputs) (rules.map (·.rename ρ))
        (messages.map fun e => (e.1, e.2.map (·.rename ρ))) =
      (gather record outputs rules messages).map fun e => (e.1, e.2.map (·.rename ρ)) := by
  induction rules generalizing messages with
  | nil => rfl
  | cons r rest ih =>
    obtain ⟨hr, hrest⟩ := List.forall_mem_cons.mp hrules
    simp only [List.map_cons, gather, outcome_rename apart houtputs hr, ListedRule.rename_toRule]
    cases complaint? record r.action r.field (outcome outputs r) with
    | none => exact ih hrest messages
    | some level =>
      simp only [addMessage_rename]
      exact ih hrest _

theorem shown_rename (apart : Set.InjOn ρ {id | id ∈ ids}) (houtputs : Under ids outputs)
    (hrules : ∀ r ∈ rules, r.id ∈ ids) (data : String) :
    (ofOutputs (rules.map (·.rename ρ)) data (renameKeys ρ outputs)).shown =
      (ofOutputs rules data outputs).shown.map (·.rename ρ) := by
  simp only [ofOutputs, List.filter_map, List.map_map]
  refine List.map_congr_left fun r hr => ?_
  have hout := outcome_rename apart houtputs (hrules r (List.mem_of_mem_filter hr))
  simp only [Function.comp_apply, hout, Shown.rename, ListedRule.rename_toRule,
    ListedRule.rename_id]

theorem ofOutputs_rename (apart : Set.InjOn ρ {id | id ∈ ids}) (houtputs : Under ids outputs)
    (hrules : ∀ r ∈ rules, r.id ∈ ids) (data : String) :
    ofOutputs (rules.map (·.rename ρ)) data (renameKeys ρ outputs) =
      (ofOutputs rules data outputs).rename ρ := by
  have hmessages := gather_rename apart houtputs hrules (recordOf data) []
  have hshown := shown_rename apart houtputs hrules data
  rw [rename, ← hshown]
  exact congrArg (Validation.mk · _) hmessages

theorem ofState?_rename {s : Snapshot} (apart : Set.InjOn ρ {id | id ∈ s.ids})
    {state : EvaluationState} (hstate : ∀ o, state = .success o → Under s.ids o.values) :
    ofState? (s.rename ρ) (state.rename ρ) = (ofState? s state).map (·.rename ρ) := by
  cases state with
  | loading | failure _ | unknown _ => rfl
  | success o =>
    have hrules : ∀ r ∈ s.rules, r.id ∈ s.ids := fun r hr => List.mem_map_of_mem hr
    exact congrArg some (ofOutputs_rename apart (hstate o rfl) hrules s.data)

end Validation

/-! ## Reports under other ids -/

namespace Report

theorem passed_rename (r : Report) : (r.rename ρ).passed = r.passed := by
  obtain ⟨state, validation⟩ := r
  have hstate : (state.rename ρ).isSuccess = state.isSuccess := by cases state <;> rfl
  have hclean : (validation.map (·.rename ρ)).any Validation.isClean =
      validation.any Validation.isClean := by
    cases validation <;> simp [Validation.isClean, Validation.rename]
  rw [passed, passed, rename, hstate, hclean]

theorem validationText_rename (v : Option Validation) :
    validationText (v.map (·.rename ρ)) = validationText v := by
  cases v with
  | none => rfl
  | some v =>
    have hclean : (v.rename ρ).isClean = v.isClean := by
      simp [Validation.isClean, Validation.rename]
    have hmessages : (v.rename ρ).messages.flatMap (fun e => e.2.map (messageLine e.1)) =
        v.messages.flatMap fun e => e.2.map (messageLine e.1) := by
      simp only [Validation.rename, List.flatMap_map, List.map_map]
      rfl
    have hshown : (v.rename ρ).shown.map
        (fun s => s.text ++ "\n  => " ++ outputText s.outcome ++ "\n") =
          v.shown.map fun s => s.text ++ "\n  => " ++ outputText s.outcome ++ "\n" := by
      simp only [Validation.rename, List.map_map]
      rfl
    simp only [validationText, Option.map_some, hclean, hmessages, hshown]

theorem stateText_success (o : Outcomes) :
    stateText (.success o) = s!"Evaluated {o.values.length} rule(s)" := rfl

theorem updatesText_rename (state : EvaluationState) :
    updatesText (state.rename ρ) = updatesText state := by
  cases state <;> simp only [EvaluationState.rename, updatesText, Outcomes.rename]

theorem stateText_rename {ids : List String} (apart : Set.InjOn ρ {id | id ∈ ids})
    {state : EvaluationState} (hstate : ∀ o, state = .success o → Under ids o.values) :
    stateText (state.rename ρ) = stateText state := by
  cases state with
  | loading | failure _ | unknown _ => rfl
  | success o =>
    rw [EvaluationState.rename, stateText_success, stateText_success, Outcomes.rename,
      (hstate o rfl).length_renameKeys apart]

theorem text_rename {ids : List String} (apart : Set.InjOn ρ {id | id ∈ ids}) {r : Report}
    (hstate : ∀ o, r.state = .success o → Under ids o.values) : (r.rename ρ).text = r.text := by
  have hcount : stateText (r.rename ρ).state = stateText r.state := stateText_rename apart hstate
  have hvalidation : validationText (r.rename ρ).validation = validationText r.validation :=
    validationText_rename r.validation
  have hupdates : updatesText (r.rename ρ).state = updatesText r.state := updatesText_rename r.state
  unfold text
  rw [hcount, hvalidation, hupdates]

end Report

/-- The report on a snapshot after a round of evaluation. -/
def EvaluationUnit.report {α : Type} (u : EvaluationUnit α) (s : Snapshot)
    (now : Calendar.Instant) : Report :=
  .ofState s (u.state (.ofSnapshot s now))

/-- What a check reports. -/
theorem Surroundings.report_eq (w : Surroundings) (settings : Settings) (s : Snapshot) :
    w.report settings s =
      (⟨.basic, settings.evaluation.strict⟩ : EvaluationUnit Expr).report s w.now := rfl

theorem EvaluationUnit.under_of_report {α : Type} {u : EvaluationUnit α} {s : Snapshot}
    {now : Calendar.Instant} {o : Outcomes} (h : (u.report s now).state = .success o) :
    Under s.ids o.values := by
  simp only [report, Report.ofState] at h
  exact under_of_state (.ofSnapshot s now) h

theorem EvaluationUnit.report_rename {α : Type} (u : EvaluationUnit α) {s : Snapshot}
    (apart : Set.InjOn ρ {id | id ∈ s.ids}) (now : Calendar.Instant) :
    u.report (s.rename ρ) now = (u.report s now).rename ρ := by
  have hrequest : Request.ofSnapshot (s.rename ρ) now = (Request.ofSnapshot s now).rename ρ := rfl
  have hstate : u.state (.ofSnapshot (s.rename ρ) now) =
      (u.state (.ofSnapshot s now)).rename ρ := by
    rw [hrequest]
    exact state_rename (.ofSnapshot s now) apart
  have hvalidation := Validation.ofState?_rename apart fun _ =>
    under_of_state (u := u) (.ofSnapshot s now)
  simp only [report, Report.ofState, hstate, hvalidation, Report.rename]

/-! ## New ids for old -/

namespace Snapshot

theorem list_eq_rename (fresh : Nat → String) (rules : List ListedRule) (n : Nat)
    (hids : (rules.map ListedRule.id).Nodup) :
    list fresh n (rules.map ListedRule.toRule) =
      rules.map (·.rename fun id => fresh (n + (rules.map ListedRule.id).idxOf id)) := by
  induction rules generalizing n with
  | nil => rfl
  | cons r rest ih =>
    obtain ⟨hr, hrest⟩ := List.nodup_cons.mp hids
    simp only [List.map_cons, list, ih (n + 1) hrest]
    congr 1
    · simp [ListedRule.ofRule, ListedRule.rename]
    · refine List.map_congr_left fun q hq => ?_
      have hne : r.id ≠ q.id := fun h => hr (h ▸ List.mem_map_of_mem hq)
      simp only [ListedRule.rename, List.idxOf_cons_ne _ hne, Nat.add_right_comm n 1, Nat.add_assoc,
        Nat.succ_eq_add_one]

theorem ids_list (fresh : Nat → String) (n : Nat) (rules : List Rule) :
    (list fresh n rules).map ListedRule.id = (List.range' n rules.length).map fresh := by
  induction rules generalizing n with
  | nil => rfl
  | cons r rest ih => simp [list, ListedRule.ofRule, ih, List.range'_succ]

section Fresh

variable {fresh : Nat → String} {s : Snapshot}

theorem injOn_fresh (hfresh : ((List.range s.rules.length).map fresh).Nodup) :
    Set.InjOn (fun id => fresh (s.ids.idxOf id)) {id | id ∈ s.ids} := by
  intro a ha b hb hab
  have hlength : s.ids.length = s.rules.length := List.length_map _
  have hposition {id : String} (hid : id ∈ s.ids) : s.ids.idxOf id ∈ List.range s.rules.length :=
    List.mem_range.mpr (hlength ▸ List.idxOf_lt_length_of_mem hid)
  have hidx := List.inj_on_of_nodup_map hfresh (hposition ha) (hposition hb) hab
  exact (List.idxOf_inj ha).mp hidx

theorem ofShared_toShared (hids : s.ids.Nodup) :
    ofShared fresh s.toShared = s.rename fun id => fresh (s.ids.idxOf id) := by
  have hlist := list_eq_rename fresh s.rules 0 hids
  simp only [Nat.zero_add] at hlist
  exact congrArg (Snapshot.mk s.data s.previousData) hlist

end Fresh

/-- Who reads a shared snapshot sees the reports of who has shared it, but for the ids, and the
same texts. -/
theorem sharing_keeps_reports (fresh : Nat → String) (s : Snapshot) (hids : s.ids.Nodup)
    (hfresh : ((List.range s.rules.length).map fresh).Nodup) :
    ∃ s' ρ, ofSharedText fresh s.toSharedText = .ok s' ∧ ofSharedText fresh s.toText = .ok s' ∧
      s'.data = s.data ∧ s'.previousData = s.previousData ∧
      s'.rules.map ListedRule.toRule = s.rules.map ListedRule.toRule ∧
      s'.ids = (List.range s.rules.length).map fresh ∧ s'.ids = s.ids.map ρ ∧
      ∀ (α : Type) (u : EvaluationUnit α) (now : Calendar.Instant),
        u.report s' now = (u.report s now).rename ρ ∧
        (u.report s' now).passed = (u.report s now).passed ∧
        (u.report s' now).text = (u.report s now).text := by
  have apart := injOn_fresh hfresh
  have hshared : ofShared fresh s.toShared = s.rename _ := ofShared_toShared hids
  refine ⟨ofShared fresh s.toShared, fun id => fresh (s.ids.idxOf id),
    ofSharedText_toSharedText fresh s, ofSharedText_toText fresh s, rfl, rfl, ?_, ?_, ?_,
    fun α u now => ?_⟩
  · exact congrArg SharedSnapshot.rules (toShared_ofShared fresh s.toShared)
  · have hrange := ids_list fresh 0 s.toShared.rules
    rwa [toShared, List.length_map, ← List.range_eq_range'] at hrange
  · rw [hshared, ids, rename, List.map_map, ids, List.map_map]
    rfl
  · rw [hshared, u.report_rename apart now]
    exact ⟨rfl, Report.passed_rename _,
      Report.text_rename apart fun _ => EvaluationUnit.under_of_report⟩

private def numerals (n : Nat) : String := String.ofList (List.replicate n 'i')

private def pair : Snapshot where
  data := "{}"
  previousData := "null"
  rules :=
    [.ofRule "z" ⟨"Beds", .accept, "Beds > 0", "No beds"⟩,
      .ofRule "y" ⟨"Total", .evaluate, "1 + 1", "Total"⟩]

theorem shared_pair_keeps_reports : pair.ids.Nodup ∧ ((List.range 2).map numerals).Nodup ∧
    ∃ s', ofSharedText numerals pair.toSharedText = .ok s' ∧ s'.ids = ["", "i"] ∧
      ∀ (w : Surroundings) settings,
        (w.report settings s').passed = (w.report settings pair).passed ∧
        (w.report settings s').text = (w.report settings pair).text := by
  have hids : pair.ids.Nodup := by decide
  have hfresh : ((List.range 2).map numerals).Nodup := by decide
  obtain ⟨s', _, hread, -, -, -, -, hnew, -, hreports⟩ :=
    sharing_keeps_reports numerals pair hids hfresh
  refine ⟨hids, hfresh, s', hread, hnew, fun w settings => ?_⟩
  rw [w.report_eq, w.report_eq]
  exact (hreports Expr ⟨.basic, settings.evaluation.strict⟩ w.now).2

end Snapshot

end RuleBench
