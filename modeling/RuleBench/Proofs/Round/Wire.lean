import RuleBench.Proofs.Json.Records
import RuleBench.Validation

set_option autoImplicit false

/-!
# Messages read back

Requests, replies and what is made of them come back from their texts, with the number of their
envelope and without.
-/

namespace RuleBench

open Json (Ascending Fields Form)
open Json.Form (Variant restores_text restores_any restores_choice restores_list restores_beside
  restores_optional restores_tagged)

/-- What may stand before the members of a message: numbers and names under `id`. -/
def Labels (before : List (String × Json)) : Prop := ∀ m ∈ before, m.1 = "id" ∧ m.2.Skipped

theorem labels_nil : Labels [] := List.forall_mem_nil _

theorem labels_id {v : Json} (h : v.Skipped) : Labels [("id", v)] :=
  List.forall_mem_singleton.mpr ⟨rfl, h⟩

theorem Labels.ne {before : List (String × Json)} (h : Labels before) {name : String}
    (hne : "id" ≠ name) : ∀ m ∈ before, m.1 ≠ name :=
  fun m hm => (h m hm).1 ▸ hne

theorem Labels.others {α : Type} {fs : Fields α} {before : List (String × Json)}
    (h : Labels before) (hid : "id" ∉ fs.names) : ∀ m ∈ before, m.1 ∉ fs.names ∧ m.2.Skipped :=
  fun m hm => ⟨(h m hm).1 ▸ hid, (h m hm).2⟩

theorem restores_mapForm {α : Type} {form : Form α} (toJson : α → Json)
    {es : List (String × α)} (h : ∀ e ∈ es, form.Restores (toJson e.2) e.2) (hes : Ascending es) :
    (mapForm form).Restores (.obj (es.map fun e => (e.1, toJson e.2))) es := by
  have hentries : (Form.entries form).Restores (.obj (es.map fun e => (e.1, toJson e.2))) es := by
    refine Form.restores_entries (List.forall₂_map_left_iff.mpr ?_)
    exact List.forall₂_same.mpr fun e he => ⟨rfl, h e he⟩
  have hmap := hentries.map Json.sortMembers
  rwa [Json.sortMembers_eq_self hes] at hmap

theorem restores_listOf {α : Type} {form : Form α} {toJson : α → Json} {items : List α}
    (h : ∀ a ∈ items, form.Restores (toJson a) a) :
    (Form.list form).Restores (.arr (items.map toJson)) items :=
  restores_list (List.forall₂_map_left_iff.mpr (List.forall₂_same.mpr h))

/-! ## Rules and requests -/

theorem Action.restores (a : Action) : form.Restores (.str a.name) a :=
  restores_choice (by cases a <;> rfl)

theorem Rule.restores {before : List (String × Json)} (h : Labels before) (r : Rule) :
    form.Restores (.obj (before ++ r.members)) r := by
  refine Fields.Holds.restores before (a := (r.field, r.action, r.expression, r.message, ())) ?_
    (by decide) (h.others (by decide)) _ _
  exact .field (restores_text _) (.field (Action.restores _) (.field (restores_text _)
    (.field (restores_text _) .done)))

theorem ListedRule.restores (r : ListedRule) : form.Restores r.toJson r := by
  have hrule := (Rule.restores labels_nil r.toRule).load .buffered
  refine restores_beside (restores_text r.id) hrule ?_
  simp [Rule.members]

theorem Request.restores {before : List (String × Json)} (h : Labels before) (r : Request) :
    form.Restores (.obj (before ++ r.members)) r := by
  refine Fields.Holds.restores before
    (a := (r.rules, r.currentData, r.previousData, r.now, r.today, ())) ?_ (by decide)
    (h.others (by decide)) _ _
  exact .field (restores_listOf fun r _ => r.restores) (.field (restores_text _)
    (.field (restores_text _) (.field (restores_text _) (.field (restores_text _) .done))))

/-! ## Outcomes and replies -/

/-- An alternative whose members are those of a record. -/
theorem restores_alternative {α β : Type} {name tag title : String}
    {variants : List (String × String × Variant β)} {fs : Fields α} {make : α → β}
    (before : List (String × Json)) {ms : List (String × Json)} {a : α} {b : β}
    (htag : Json.findMember tag (Form.tagTable name variants) = some (Variant.record fs make title))
    (hnames : ("id" :: Form.tagName :: fs.names).Nodup) (hbefore : Labels before)
    (h : fs.Holds ms a) (hmake : make a = b) :
    (Form.tagged name variants).Restores (.obj (before ++ (Form.tagName, .str tag) :: ms)) b := by
  obtain ⟨hid, hnames⟩ := List.nodup_cons.mp hnames
  obtain ⟨htype, hnames⟩ := List.nodup_cons.mp hnames
  have hothers := hbefore.others fun hmem => hid (List.mem_cons_of_mem _ hmem)
  have hload := congrArg (Except.map make) (h.load hnames hothers .buffered title)
  refine restores_tagged before ms htag (hload.trans (congrArg Except.ok hmake))
    (hbefore.ne (by decide)) ?_
  exact fun m hm heq => htype (heq ▸ h.mem_names m hm)

def Output.InOrder : Output → Prop
  | .value v => v.InOrder
  | .error _ => True

theorem Output.restores {o : Output} (h : o.InOrder) : form.Restores o.toJson o := by
  cases o with
  | value v =>
    exact restores_alternative [] (a := (v, ())) rfl (by decide) labels_nil
      (.field (restores_any h) .done) rfl
  | error m =>
    exact restores_alternative [] (a := (m, ())) rfl (by decide) labels_nil
      (.field (restores_text m) .done) rfl

structure Outcomes.InOrder (o : Outcomes) : Prop where
  values : Ascending o.values
  updates : Ascending o.updates
  outputs : ∀ e ∈ o.values, e.2.InOrder
  bindings : ∀ e ∈ o.updates, e.2.InOrder

theorem Outcomes.holds {o : Outcomes} (h : o.InOrder) :
    fields.Holds o.members (o.values, o.updates, ()) := by
  have hvalues := restores_mapForm Output.toJson
    (fun e he => Output.restores (h.outputs e he)) h.values
  have hupdates := restores_mapForm id (fun e he => restores_any (h.bindings e he)) h.updates
  rw [show (o.updates.map fun e => (e.1, id e.2)) = o.updates from List.map_id _] at hupdates
  exact .field hvalues (.field hupdates .done)

def Reply.InOrder : Reply → Prop
  | .success o => o.InOrder
  | _ => True

theorem errorField_holds (m : String) : errorField.Holds [("error", .str m)] (m, ()) :=
  .field (restores_text m) .done

theorem Reply.restores {before : List (String × Json)} (hbefore : Labels before) {r : Reply}
    (h : r.InOrder) : form.Restores (.obj (before ++ r.members)) r := by
  cases r with
  | success o =>
    exact restores_alternative before (a := (o.values, o.updates, ())) rfl (by decide) hbefore
      (Outcomes.holds h) rfl
  | failure f =>
    cases f with
    | unreadable m | badExpression m | failedExpression m =>
      exact restores_alternative before (a := (m, ())) rfl (by decide) hbefore
        (errorField_holds m) rfl
  | unknown error =>
    cases error with
    | none =>
      exact restores_alternative before (a := (none, ())) rfl (by decide) hbefore
        (.missing rfl .done) rfl
    | some m =>
      exact restores_alternative before (a := (some m, ())) rfl (by decide) hbefore
        (.field (restores_optional (restores_text m)) .done) rfl

theorem Reply.ne_id (r : Reply) : ∀ m ∈ r.members, m.1 ≠ "id" := by
  cases r with
  | success o => simp [members, Outcomes.members]
  | failure f => cases f <;> simp [members, errorMembers]
  | unknown error => cases error <;> simp [members, errorMembers]

def EvaluationState.InOrder : EvaluationState → Prop
  | .success o => o.InOrder
  | _ => True

theorem EvaluationState.restores {s : EvaluationState} (h : s.InOrder) :
    form.Restores s.toJson s := by
  cases s with
  | loading =>
    exact restores_tagged [] [] rfl rfl (List.forall_mem_nil _) (List.forall_mem_nil _)
  | success o =>
    exact restores_alternative [] (a := (o.values, o.updates, ())) rfl (by decide) labels_nil
      (Outcomes.holds h) rfl
  | failure f =>
    cases f with
    | unreadable m | badExpression m | failedExpression m =>
      exact restores_alternative [] (a := (m, ())) rfl (by decide) labels_nil
        (errorField_holds m) rfl
  | unknown m =>
    exact restores_alternative [] (a := (m, ())) rfl (by decide) labels_nil
      (errorField_holds m) rfl

/-! ## Validations -/

theorem Level.restores (l : Level) : form.Restores (.str l.name) l :=
  restores_choice (by cases l <;> rfl)

theorem FieldMessage.restores (m : FieldMessage) : form.Restores m.toJson m := by
  refine Fields.Holds.restores [] (a := (m.ruleId, m.level, m.text, ())) ?_ (by decide)
    (List.forall_mem_nil _) _ _
  exact .field (restores_text _) (.field (Level.restores _) (.field (restores_text _) .done))

theorem Shown.restores {s : Shown} (h : s.outcome.InOrder) : form.Restores s.toJson s := by
  refine Fields.Holds.restores [] (a := (s.ruleId, s.text, s.outcome, ())) ?_ (by decide)
    (List.forall_mem_nil _) _ _
  exact .field (restores_text _) (.field (restores_text _) (.field (Output.restores h) .done))

structure Validation.InOrder (v : Validation) : Prop where
  messages : Ascending v.messages
  shown : ∀ s ∈ v.shown, s.outcome.InOrder

theorem Validation.restores {v : Validation} (h : v.InOrder) : form.Restores v.toJson v := by
  have hmessages := restores_mapForm
    (fun ms : List FieldMessage => .arr (ms.map FieldMessage.toJson))
    (fun e _ => restores_listOf fun m _ => m.restores) h.messages
  refine Fields.Holds.restores [] (a := (v.messages, v.shown, ())) ?_ (by decide)
    (List.forall_mem_nil _) _ _
  exact .field hmessages
    (.field (restores_listOf fun s hs => Shown.restores (h.shown s hs)) .done)

/-! ## Envelopes -/

theorem Envelope.restores {α : Type} {payload : Form α} (members : α → List (String × Json))
    {e : Envelope α} (hid : e.id < 2 ^ 64)
    (h : payload.Restores (.obj (members e.payload)) e.payload)
    (hnames : ∀ m ∈ members e.payload, m.1 ≠ "id") :
    (Envelope.form payload).Restores (e.toJson members) e :=
  restores_beside (Form.restores_unsigned "u64" hid) (h.load .buffered) hnames

/-- What is read at all: the text nests no deeper than is read, and its doubles are read back. -/
structure Json.Readable (v : Json) : Prop where
  nesting : v.nesting < Json.depthLimit
  legible : v.Legible

theorem Json.Readable.read {α : Type} {form : Form α} {v : Json} {a : α} (h : v.Readable)
    (hform : form.Restores v a) : form.read v.compact = .ok a :=
  hform.read h.nesting h.legible

/-- The value nests no deeper than that and has no doubles that are not read back. -/
def Json.Shallow (n : Nat) (v : Json) : Prop := v.nesting ≤ n ∧ v.Legible

namespace Json.Shallow

theorem str (n : Nat) (s : String) : Shallow n (.str s) :=
  ⟨Nat.zero_le n, fun _ hx => absurd hx List.not_mem_nil⟩

theorem ofNat (n : Nat) {i : Nat} (h : i < 2 ^ 64) : Shallow n (.ofNat i) := by
  obtain ⟨w, -, heq⟩ := Form.ofNat_eq h
  rw [heq]
  exact ⟨Nat.zero_le n, fun _ hx => absurd hx List.not_mem_nil⟩

theorem arr {n : Nat} {items : List Json} (h : ∀ v ∈ items, Shallow n v) :
    Shallow (n + 1) (.arr items) :=
  ⟨Nat.succ_le_succ (Json.nestingItems_le_iff.mpr fun v hv => (h v hv).1),
    Json.legible_arr_iff.mpr fun v hv => (h v hv).2⟩

theorem obj {n : Nat} {members : List (String × Json)} (h : ∀ m ∈ members, Shallow n m.2) :
    Shallow (n + 1) (.obj members) :=
  ⟨Nat.succ_le_succ (Json.nestingMembers_le_iff.mpr fun m hm => (h m hm).1),
    Json.legible_obj_iff.mpr fun m hm => (h m hm).2⟩

theorem readable {n : Nat} {v : Json} (h : Shallow n v) (hn : n < depthLimit) : v.Readable :=
  ⟨h.1.trans_lt hn, h.2⟩

end Json.Shallow

theorem ListedRule.shallow (r : ListedRule) : r.toJson.Shallow 1 :=
  .obj (by simp [Rule.members, Json.Shallow.str])

theorem Request.shallow {id : Nat} (hid : id < 2 ^ 64) (r : Request) :
    (Envelope.toJson Request.members ⟨id, r⟩).Shallow 3 := by
  have hrules : (Json.arr (r.rules.map ListedRule.toJson)).Shallow 2 :=
    .arr (List.forall_mem_map.mpr fun rule _ => rule.shallow)
  exact .obj (by simp [Request.members, Json.Shallow.str, Json.Shallow.ofNat 2 hid, hrules])

/-- A reply that can be sent and read. -/
structure Envelope.Sendable (e : Envelope Reply) : Prop where
  id_lt : e.id < 2 ^ 64
  inOrder : e.payload.InOrder
  readable : (e.toJson Reply.members).Readable

/-- Whatever is written is read back: a message in its envelope, and by itself from the same text,
where the number of the envelope is passed over; a rule under its id, and by itself; and the
outcomes and states that messages are made of.  So no two replies have the same text. -/
theorem messages_read_back :
    (∀ e : Envelope Request, e.id < 2 ^ 64 →
      (Envelope.form Request.form).read (e.toJson Request.members).compact = .ok e ∧
      Request.form.read (e.toJson Request.members).compact = .ok e.payload) ∧
    (∀ e : Envelope Reply, e.Sendable →
      (Envelope.form Reply.form).read (e.toJson Reply.members).compact = .ok e ∧
      Reply.form.read (e.toJson Reply.members).compact = .ok e.payload) ∧
    (∀ r : ListedRule, ListedRule.form.read r.toJson.compact = .ok r ∧
      Rule.form.read r.toJson.compact = .ok r.toRule) ∧
    (∀ o : Output, o.InOrder → o.toJson.Readable → Output.form.read o.toJson.compact = .ok o) ∧
    (∀ s : EvaluationState, s.InOrder → s.toJson.Readable →
      EvaluationState.form.read s.toJson.compact = .ok s) ∧
    (∀ v : Validation, v.InOrder → v.toJson.Readable →
      Validation.form.read v.toJson.compact = .ok v) ∧
    ∀ e e' : Envelope Reply, e.Sendable → e'.Sendable →
      (e.toJson Reply.members).compact = (e'.toJson Reply.members).compact → e = e' := by
  have hreply (e : Envelope Reply) (h : e.Sendable) :
      (Envelope.form Reply.form).read (e.toJson Reply.members).compact = .ok e := by
    have henvelope := Envelope.restores Reply.members h.id_lt
      (Reply.restores labels_nil h.inOrder) e.payload.ne_id
    exact h.readable.read henvelope
  refine ⟨fun e hid => ?_, fun e h => ⟨hreply e h, ?_⟩, fun r => ?_, fun o horder hread => ?_,
    fun s horder hread => ?_, fun v horder hread => ?_, fun e e' h h' htext => ?_⟩
  · have hread := (Request.shallow hid e.payload).readable (by decide)
    have hbare := Request.restores (labels_id (Json.skipped_ofNat hid)) e.payload
    have henvelope := Envelope.restores Request.members hid
      (Request.restores labels_nil e.payload) (by simp [Request.members])
    exact ⟨hread.read henvelope, hread.read hbare⟩
  · have hbare := Reply.restores (labels_id (Json.skipped_ofNat h.id_lt)) h.inOrder
    exact h.readable.read hbare
  · have hread := r.shallow.readable (by decide)
    have hbare := Rule.restores (labels_id (Json.skipped_str r.id)) r.toRule
    exact ⟨hread.read r.restores, hread.read hbare⟩
  · exact hread.read (Output.restores horder)
  · exact hread.read (EvaluationState.restores horder)
  · exact hread.read (Validation.restores horder)
  · have hsame := (hreply e h).symm.trans ((congrArg _ htext).trans (hreply e' h'))
    exact Except.ok.inj hsame

def oneAndAHalf : Binary64 := ⟨false, 0x18000000000000, -52, by decide⟩

/-- A value that has the members of an outcome and of an envelope. -/
def mimic : Json :=
  .obj [("error", .num (.real oneAndAHalf)), ("id", .ofNat 3),
    ("type", .arr [.str "\"error\"\n"])]

theorem mimic_inOrder : mimic.InOrder := by
  have hmembers : Ascending [("error", Json.num (.real oneAndAHalf)), ("id", .ofNat 3),
      ("type", .arr [.str "\"error\"\n"])] := by
    simp only [Ascending]
    decide
  exact ⟨hmembers, trivial, trivial, ⟨trivial, trivial⟩, trivial⟩

theorem mimic_sendable :
    Envelope.Sendable ⟨7, .success ⟨[("a", .value mimic)], [("b", mimic)]⟩⟩ where
  id_lt := by decide
  inOrder := ⟨List.pairwise_singleton _ _, List.pairwise_singleton _ _,
    List.forall_mem_singleton.mpr mimic_inOrder, List.forall_mem_singleton.mpr mimic_inOrder⟩
  readable := by
    refine ⟨by decide, fun x hx => ?_⟩
    have hreal : Json.ReadsBack oneAndAHalf := rfl
    have hx : x ∈ [oneAndAHalf, oneAndAHalf] := hx
    simp only [List.mem_cons, List.not_mem_nil, or_false, or_self] at hx
    exact hx ▸ hreal

theorem unknown_sendable (error : Option String) : Envelope.Sendable ⟨7, .unknown error⟩ where
  id_lt := show 7 < 2 ^ 64 by decide
  inOrder := trivial
  readable := by
    have hshallow : (Envelope.toJson Reply.members ⟨7, .unknown error⟩).Shallow 1 := by
      refine .obj (List.forall_mem_cons.mpr ⟨.ofNat 0 (show 7 < 2 ^ 64 by decide), ?_⟩)
      cases error <;> simp [Reply.members, errorMembers, Json.Shallow.str]
    exact hshallow.readable (by decide)

theorem mimics_and_messages_are_told_apart :
    (Envelope.form Reply.form).read (Envelope.toJson Reply.members
        ⟨7, .success ⟨[("a", .value mimic)], [("b", mimic)]⟩⟩).compact =
      .ok ⟨7, .success ⟨[("a", .value mimic)], [("b", mimic)]⟩⟩ ∧
    Reply.form.read (Envelope.toJson Reply.members ⟨7, .unknown none⟩).compact =
      .ok (.unknown none) ∧
    Reply.form.read (Envelope.toJson Reply.members ⟨7, .unknown (some "")⟩).compact =
      .ok (.unknown (some "")) :=
  ⟨(messages_read_back.2.1 _ mimic_sendable).1, (messages_read_back.2.1 _ (unknown_sendable _)).2,
    (messages_read_back.2.1 _ (unknown_sendable _)).2⟩

end RuleBench
