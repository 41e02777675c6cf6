import RuleBench.Proofs.Json.Members
import RuleBench.Validation

set_option autoImplicit false

/-!
# Messages by field

A validation is gathered rule by rule into a map of lists.  What is gathered for a field are the
messages of the rules of that field that complain, in the order of the rules, and there is no entry
for any other field.
-/

namespace RuleBench.Validation

/-! ## When a rule complains -/

/-- What counts as the outcome of a rule; not to have one counts as a failure. -/
inductive HasOutcome (outputs : Outputs) (r : ListedRule) : Output → Prop where
  | found {o : Output} (h : Json.findMember r.id outputs = some o) : HasOutcome outputs r o
  | missing (h : Json.findMember r.id outputs = none) : HasOutcome outputs r (.error "Not found")

/-- The text is that of an object with a member of this name, which is not null. -/
def Holds (data field : String) : Prop :=
  ∃ members v, Json.parse data = .ok (.obj members) ∧
    Json.findMember field members = some v ∧ v ≠ .null

def Complains (data : String) (r : ListedRule) (o : Output) : Prop :=
  match r.action with
  | .accept => o ≠ .value (.bool true)
  | .reject => o = .value (.bool true)
  | .warning => o = .value (.bool true)
  | .setRequired => o = .value (.bool true) ∧ ¬ Holds data r.field
  | .evaluate => False
  | .set => False

def Triggers (data : String) (outputs : Outputs) (r : ListedRule) : Prop :=
  ∃ o, HasOutcome outputs r o ∧ Complains data r o

def messageOf (r : ListedRule) : FieldMessage where
  ruleId := r.id
  level := if r.action = .warning then .warning else .error
  text := r.message

theorem hasOutcome_iff {outputs : Outputs} {r : ListedRule} {o : Output} :
    HasOutcome outputs r o ↔ o = outcome outputs r := by
  unfold outcome
  cases h : Json.findMember r.id outputs with
  | none =>
    constructor
    · rintro (hf | -)
      · rw [h] at hf
        cases hf
      · rfl
    · rintro rfl
      exact .missing h
  | some found =>
    constructor
    · rintro (hf | hf)
      · exact Option.some.inj (hf.symm.trans h)
      · rw [h] at hf
        cases hf
    · rintro rfl
      exact .found h

theorem isTrue_iff (o : Output) : o.isTrue = true ↔ o = .value (.bool true) := by
  cases o with
  | error message => simp [Output.isTrue]
  | value v => cases v <;> simp [Output.isTrue]

theorem lacks_recordOf (data field : String) :
    lacks (recordOf data) field = true ↔ ¬ Holds data field := by
  have hnull (v : Json) : v.isNull = true ↔ v = .null := by cases v <;> simp [Json.isNull]
  unfold lacks recordOf Holds
  cases Json.parse data with
  | error f => simp [Json.member?, Json.findMember]
  | ok v =>
    cases v with
    | obj members =>
      simp only [Json.member?]
      cases h : Json.findMember field members <;> simp [h, hnull]
    | null | bool _ | num _ | str _ | arr _ => simp [Json.member?]

theorem complaint?_eq (data : String) (r : ListedRule) (o : Output) :
    (Complains data r o → complaint? (recordOf data) r.action r.field o =
      some (messageOf r).level) ∧
    (¬ Complains data r o → complaint? (recordOf data) r.action r.field o = none) := by
  have htrue := isTrue_iff o
  have hlacks := lacks_recordOf data r.field
  unfold Complains complaint? messageOf
  cases r.action <;> grind

theorem triggers_iff {data : String} {outputs : Outputs} {r : ListedRule} :
    Triggers data outputs r ↔ Complains data r (outcome outputs r) := by
  simp only [Triggers, hasOutcome_iff, exists_eq_left]

instance (data : String) (outputs : Outputs) (r : ListedRule) :
    Decidable (Triggers data outputs r) :=
  decidable_of_iff ((complaint? (recordOf data) r.action r.field (outcome outputs r)).isSome = true)
    (by
      have h := complaint?_eq data r (outcome outputs r)
      by_cases ht : Complains data r (outcome outputs r)
      · simp [triggers_iff, ht, h.1 ht]
      · simp [triggers_iff, ht, h.2 ht])

/-! ## What is gathered -/

/-- What a rule adds to the messages of a field. -/
def added (data : String) (outputs : Outputs) (field : String) (rules : List ListedRule) :
    List FieldMessage :=
  (rules.filter fun r => r.field = field ∧ Triggers data outputs r).map messageOf

theorem findMember_addMessage (r : ListedRule) (level : Level) (field : String)
    (messages : List (String × List FieldMessage)) :
    Json.findMember field (addMessage r level messages) =
      if r.field = field then
        some ((Json.findMember field messages).getD [] ++ [⟨r.id, level, r.message⟩])
      else Json.findMember field messages := by
  unfold addMessage
  rw [Json.findMember_putMember]
  split
  · rename_i h
    rw [h]
  · rfl

/-- A rule adds its message if it complains. -/
theorem gather_cons (data : String) (outputs : Outputs) (r : ListedRule) (rest : List ListedRule)
    (messages : List (String × List FieldMessage)) :
    gather (recordOf data) outputs (r :: rest) messages =
      gather (recordOf data) outputs rest
        (if Triggers data outputs r then addMessage r (messageOf r).level messages
          else messages) := by
  have h := complaint?_eq data r (outcome outputs r)
  rw [← triggers_iff] at h
  rw [gather]
  by_cases ht : Triggers data outputs r
  · rw [h.1 ht, if_pos ht]
  · rw [h.2 ht, if_neg ht]

theorem findMember_gather (data : String) (outputs : Outputs) (field : String)
    (rules : List ListedRule) (messages : List (String × List FieldMessage)) :
    Json.findMember field (gather (recordOf data) outputs rules messages) =
      if added data outputs field rules = [] then Json.findMember field messages
      else some ((Json.findMember field messages).getD [] ++ added data outputs field rules) := by
  induction rules generalizing messages with
  | nil => rfl
  | cons r rest ih =>
    have hput : Json.findMember field
        (if Triggers data outputs r then addMessage r (messageOf r).level messages else messages) =
          if r.field = field ∧ Triggers data outputs r then
            some ((Json.findMember field messages).getD [] ++ [messageOf r])
          else Json.findMember field messages := by
      by_cases ht : Triggers data outputs r
      · simp only [ht, if_true, and_true]
        exact findMember_addMessage r (messageOf r).level field messages
      · simp only [ht, and_false, if_false]
    rw [gather_cons, ih, hput]
    by_cases h : r.field = field ∧ Triggers data outputs r
    · have hadded : added data outputs field (r :: rest) =
          messageOf r :: added data outputs field rest := by simp [added, h]
      rw [hadded, if_pos h]
      by_cases hrest : added data outputs field rest = [] <;> simp [hrest]
    · have hadded : added data outputs field (r :: rest) = added data outputs field rest := by
        simp only [added, List.filter_cons, decide_eq_true_eq, if_neg h]
      rw [hadded, if_neg h]

theorem ascending_gather (record : Json) (outputs : Outputs) (rules : List ListedRule)
    {messages : List (String × List FieldMessage)} (h : Json.Ascending messages) :
    Json.Ascending (gather record outputs rules messages) := by
  induction rules generalizing messages with
  | nil => exact h
  | cons r rest ih =>
    refine ih ?_
    split
    · exact h.putMember _ _
    · exact h

section Specification

variable (rules : List ListedRule) (data : String) (outputs : Outputs)

theorem ascending_messages : Json.Ascending (ofOutputs rules data outputs).messages :=
  ascending_gather _ _ _ List.Pairwise.nil

theorem findMember_messages (field : String) :
    Json.findMember field (ofOutputs rules data outputs).messages =
      if added data outputs field rules = [] then none
      else some (added data outputs field rules) :=
  findMember_gather data outputs field rules []

theorem messagesFor_eq (field : String) :
    (ofOutputs rules data outputs).messagesFor field = added data outputs field rules := by
  unfold messagesFor
  rw [findMember_messages]
  split
  · rename_i h
    exact h.symm
  · rfl

theorem mem_messages_iff (field : String) (messages : List FieldMessage) :
    (field, messages) ∈ (ofOutputs rules data outputs).messages ↔
      messages ≠ [] ∧ messages = added data outputs field rules := by
  rw [← Json.findMember_eq_some_iff (ascending_messages rules data outputs).nodup,
    findMember_messages]
  split
  · rename_i h
    rw [h]
    exact ⟨nofun, fun hm => absurd hm.2 hm.1⟩
  · rename_i h
    constructor
    · intro hm
      rw [← Option.some.inj hm]
      exact ⟨h, rfl⟩
    · intro hm
      rw [hm.2]

theorem mem_fields_iff (field : String) :
    field ∈ (ofOutputs rules data outputs).messages.map Prod.fst ↔
      ∃ r ∈ rules, r.field = field ∧ Triggers data outputs r := by
  have hadded : added data outputs field rules ≠ [] ↔
      ∃ r ∈ rules, r.field = field ∧ Triggers data outputs r := by simp [added]
  rw [← hadded]
  constructor
  · intro h
    obtain ⟨e, he, rfl⟩ := List.mem_map.mp h
    obtain ⟨hne, heq⟩ := (mem_messages_iff rules data outputs e.1 e.2).mp he
    exact heq ▸ hne
  · intro h
    exact List.mem_map.mpr ⟨_, (mem_messages_iff rules data outputs field _).mpr ⟨h, rfl⟩, rfl⟩

theorem isClean_iff :
    (ofOutputs rules data outputs).isClean = true ↔ ∀ r ∈ rules, ¬ Triggers data outputs r := by
  rw [isClean, List.isEmpty_iff, ← List.map_eq_nil_iff (f := Prod.fst),
    List.eq_nil_iff_forall_not_mem]
  constructor
  · intro h r hr ht
    exact h r.field ((mem_fields_iff rules data outputs r.field).mpr ⟨r, hr, rfl, ht⟩)
  · intro h field hmem
    obtain ⟨r, hr, -, ht⟩ := (mem_fields_iff rules data outputs field).mp hmem
    exact h r hr ht

/-- The messages of a field are those of its rules that complain, in the order of the rules; there is
an entry for a field if and only if it has any, and the validation is clean if and only if no rule
complains; what is shown are the outcomes of the rules that only show them. -/
theorem validation_lists_complaints :
    (∀ field, (ofOutputs rules data outputs).messagesFor field =
      (rules.filter fun r => r.field = field ∧ Triggers data outputs r).map messageOf) ∧
    Json.Ascending (ofOutputs rules data outputs).messages ∧
    (∀ field, field ∈ (ofOutputs rules data outputs).messages.map Prod.fst ↔
      ∃ r ∈ rules, r.field = field ∧ Triggers data outputs r) ∧
    (∀ e ∈ (ofOutputs rules data outputs).messages, e.2 ≠ []) ∧
    ((ofOutputs rules data outputs).isClean = true ↔ ∀ r ∈ rules, ¬ Triggers data outputs r) ∧
    List.Forall₂ (fun r s => s.ruleId = r.id ∧ s.text = r.message ∧ HasOutcome outputs r s.outcome)
      (rules.filter fun r => r.action = .evaluate) (ofOutputs rules data outputs).shown := by
  refine ⟨messagesFor_eq rules data outputs, ascending_messages rules data outputs,
    mem_fields_iff rules data outputs, ?_, isClean_iff rules data outputs, ?_⟩
  · intro e he
    exact ((mem_messages_iff rules data outputs e.1 e.2).mp he).1
  · refine List.forall₂_map_right_iff.mpr (List.forall₂_same.mpr ?_)
    intro r _
    exact ⟨rfl, rfl, hasOutcome_iff.mpr rfl⟩

end Specification

end RuleBench.Validation
