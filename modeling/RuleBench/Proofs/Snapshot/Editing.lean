import Mathlib.Data.List.Induction
import Mathlib.Data.List.Nodup
import RuleBench.Snapshot

set_option autoImplicit false

/-!
# Editing

A snapshot is edited step by step.  Where its ids differ, they go on to differ, and the list of its
rules serves as a map from ids: what is found under an id is the rule last given to it, as long as
it has not been removed since.  An edit fails if and only if it is about an id that is not there.
-/

namespace RuleBench

inductive Edit where
  /-- Puts a rule at the end, under an id minted for it. -/
  | add (id : String) (r : Rule)
  | set (id : String) (r : Rule)
  | move (id : String) (d : Direction)
  | remove (id : String)
  | setData (data : String)
  | setPreviousData (previousData : String)
  deriving DecidableEq

namespace Edit

def apply (s : Snapshot) : Edit → Except SnapshotError Snapshot
  | .add id r => .ok (s.addRule id r)
  | .set id r => s.setRule id r
  | .move id d => (s.moveRule id d).map Prod.fst
  | .remove id => (s.removeRule id).map Prod.fst
  | .setData data => .ok (s.setData data)
  | .setPreviousData previousData => .ok (s.setPreviousData previousData)

/-- The id of a rule that must be there. -/
def target? : Edit → Option String
  | .set id _ => some id
  | .move id _ => some id
  | .remove id => some id
  | _ => none

/-- The id of a new rule. -/
def minted? : Edit → Option String
  | .add id _ => some id
  | _ => none

def IsOnData : Edit → Prop
  | .setData _ => True
  | .setPreviousData _ => True
  | _ => False

/-- The rule that an edit gives to an id. -/
def given? (id : String) : Edit → Option Rule
  | .add id' r => if id' = id then some r else none
  | .set id' r => if id' = id then some r else none
  | _ => none

/-- What the rule found under an id becomes. -/
def onFound (id : String) (found : Option ListedRule) : Edit → Option ListedRule
  | .add id' r => if id' = id then some (.ofRule id r) else found
  | .set id' r => if id' = id then found.map fun _ => .ofRule id r else found
  | .remove id' => if id' = id then none else found
  | _ => found

end Edit

namespace Snapshot

/-- The snapshot after an edit; one that fails changes nothing. -/
def edit (s : Snapshot) (e : Edit) : Snapshot :=
  match e.apply s with
  | .ok t => t
  | .error _ => s

def edits (s : Snapshot) (es : List Edit) : Snapshot := es.foldl edit s

/-- Every id is new when it is minted. -/
def MintsNew : Snapshot → List Edit → Prop
  | _, [] => True
  | s, e :: es => (∀ id ∈ e.minted?, id ∉ s.ids) ∧ MintsNew (s.edit e) es

instance decidableMintsNew : (s : Snapshot) → (es : List Edit) → Decidable (s.MintsNew es)
  | _, [] => .isTrue trivial
  | s, e :: es =>
    have := decidableMintsNew (s.edit e) es
    inferInstanceAs (Decidable ((∀ id ∈ e.minted?, id ∉ s.ids) ∧ MintsNew (s.edit e) es))

/-- The id is there from the start or has been added, and has not been removed since. -/
def Keeps (s : Snapshot) (es : List Edit) (id : String) : Prop :=
  (id ∈ s.ids ∧ .remove id ∉ es) ∨
    ∃ before r after, es = before ++ .add id r :: after ∧ .remove id ∉ after

/-- The rule given to the id last, or else the one it has from the start. -/
def lastGiven? (s : Snapshot) (es : List Edit) (id : String) : Option Rule :=
  (es.filterMap (Edit.given? id)).getLast?.or ((s.rule? id).map ListedRule.toRule)

/-! ## The first rule of an id -/

/-- The first rule of an id, and those on both sides of it. -/
structure Split (s : Snapshot) (id : String) (before : List ListedRule) (r : ListedRule)
    (after : List ListedRule) : Prop where
  rules : s.rules = before ++ r :: after
  id_eq : r.id = id
  first : ∀ q ∈ before, q.id ≠ id

theorem mem_ids_iff {s : Snapshot} {id : String} : id ∈ s.ids ↔ ∃ r ∈ s.rules, r.id = id :=
  List.mem_map

theorem exists_split {s : Snapshot} {id : String} (h : id ∈ s.ids) :
    ∃ before r after, s.Split id before r after := by
  obtain ⟨r, hfound⟩ : ∃ r, s.rule? id = some r := by
    obtain ⟨r, hr, hid⟩ := mem_ids_iff.mp h
    exact Option.isSome_iff_exists.mp (List.find?_isSome.mpr ⟨r, hr, decide_eq_true hid⟩)
  obtain ⟨hid, before, after, hrules, hfirst⟩ := List.find?_eq_some_iff_append.mp hfound
  exact ⟨before, r, after, hrules, of_decide_eq_true hid, fun q hq => by simpa using hfirst q hq⟩

theorem position_of_not_mem {s : Snapshot} {id : String} (h : id ∉ s.ids) :
    s.position id = .error (.ruleNotFound id) := by
  have hnone : s.rules.findIdx? (·.id = id) = none :=
    List.findIdx?_eq_none_iff.mpr fun r hr =>
      decide_eq_false fun hid => h (mem_ids_iff.mpr ⟨r, hr, hid⟩)
  rw [position, hnone]

theorem rule?_of_not_mem {s : Snapshot} {id : String} (h : id ∉ s.ids) : s.rule? id = none :=
  List.find?_eq_none.mpr fun r hr hid => h (mem_ids_iff.mpr ⟨r, hr, of_decide_eq_true hid⟩)

/-- The rule of an id has no place to move to. -/
def AtEnd (s : Snapshot) (id : String) : Direction → Prop
  | .up => ∃ r after, s.Split id [] r after
  | .down => ∃ before r, s.Split id before r []

theorem swapWithNext_append {α : Type} (before : List α) (a b : α) (after : List α) :
    swapWithNext before.length (before ++ a :: b :: after) = before ++ b :: a :: after := by
  induction before with
  | nil => rfl
  | cons c before ih => exact congrArg (c :: ·) ih

namespace Split

variable {s : Snapshot} {id : String} {before after : List ListedRule} {q r : ListedRule}

theorem mem_ids (h : s.Split id before r after) : id ∈ s.ids :=
  mem_ids_iff.mpr ⟨r, h.rules ▸ List.mem_append_cons_self, h.id_eq⟩

theorem position (h : s.Split id before r after) : s.position id = .ok before.length := by
  have hnone : before.findIdx? (·.id = id) = none :=
    List.findIdx?_eq_none_iff.mpr fun q hq => decide_eq_false (h.first q hq)
  have hfound : s.rules.findIdx? (·.id = id) = some before.length := by
    simp [h.rules, List.findIdx?_append, hnone, List.findIdx?_cons, h.id_eq]
  rw [Snapshot.position, hfound]

theorem rule? (h : s.Split id before r after) : s.rule? id = some r :=
  List.find?_eq_some_iff_append.mpr
    ⟨decide_eq_true h.id_eq, before, after, h.rules, fun q hq => by simpa using h.first q hq⟩

theorem setRule (h : s.Split id before r after) (body : Rule) :
    s.setRule id body = .ok { s with rules := before ++ .ofRule id body :: after } := by
  rw [Snapshot.setRule, h.position, h.rules]
  simp [bind, Except.bind, pure, Except.pure]

theorem removeRule (h : s.Split id before r after) :
    s.removeRule id = .ok ({ s with rules := before ++ after }, r) := by
  simp [Snapshot.removeRule, h.rule?, h.position, h.rules, bind, Except.bind, pure, Except.pure,
    List.eraseIdx_append_of_length_le]

theorem moveRule_first (h : s.Split id [] r after) : s.moveRule id .up = .ok (s, false) := by
  rw [Snapshot.moveRule, h.position]
  rfl

theorem moveRule_up (h : s.Split id (before ++ [q]) r after) :
    s.moveRule id .up = .ok ({ s with rules := before ++ r :: q :: after }, true) := by
  have hrules : s.rules = before ++ q :: r :: after := by
    rw [h.rules, List.append_assoc, List.singleton_append]
  simp [Snapshot.moveRule, h.position, hrules, swapWithNext_append, bind, Except.bind, pure,
    Except.pure]

theorem moveRule_last (h : s.Split id before r []) : s.moveRule id .down = .ok (s, false) := by
  simp [Snapshot.moveRule, h.position, h.rules, bind, Except.bind, pure, Except.pure]

theorem moveRule_down (h : s.Split id before r (q :: after)) :
    s.moveRule id .down = .ok ({ s with rules := before ++ q :: r :: after }, true) := by
  simp [Snapshot.moveRule, h.position, h.rules, swapWithNext_append, bind, Except.bind, pure,
    Except.pure]

end Split

theorem moveRule_of_not_mem {s : Snapshot} {id : String} (h : id ∉ s.ids) (d : Direction) :
    s.moveRule id d = .error (.ruleNotFound id) := by
  rw [moveRule, position_of_not_mem h]
  rfl

namespace AtEnd

variable {s : Snapshot} {id : String} {d : Direction}

theorem mem_ids (h : s.AtEnd id d) : id ∈ s.ids := by
  cases d with
  | up =>
    obtain ⟨r, after, h⟩ := h
    exact h.mem_ids
  | down =>
    obtain ⟨before, r, h⟩ := h
    exact h.mem_ids

theorem moveRule (h : s.AtEnd id d) : s.moveRule id d = .ok (s, false) := by
  cases d with
  | up =>
    obtain ⟨r, after, h⟩ := h
    exact h.moveRule_first
  | down =>
    obtain ⟨before, r, h⟩ := h
    exact h.moveRule_last

end AtEnd

/-! ## One edit -/

/-- `Becomes s e t`: the edit succeeds on `s` and makes it `t`. -/
inductive Becomes (s : Snapshot) : Edit → Snapshot → Prop where
  | add (id : String) (body : Rule) :
    Becomes s (.add id body) { s with rules := s.rules ++ [.ofRule id body] }
  | set {id : String} {before after : List ListedRule} {r : ListedRule} (body : Rule)
    (h : s.Split id before r after) :
    Becomes s (.set id body) { s with rules := before ++ .ofRule id body :: after }
  | stays {id : String} {d : Direction} (h : s.AtEnd id d) : Becomes s (.move id d) s
  | up {id : String} {before after : List ListedRule} {q r : ListedRule}
    (h : s.Split id (before ++ [q]) r after) :
    Becomes s (.move id .up) { s with rules := before ++ r :: q :: after }
  | down {id : String} {before after : List ListedRule} {q r : ListedRule}
    (h : s.Split id before r (q :: after)) :
    Becomes s (.move id .down) { s with rules := before ++ q :: r :: after }
  | remove {id : String} {before after : List ListedRule} {r : ListedRule}
    (h : s.Split id before r after) : Becomes s (.remove id) { s with rules := before ++ after }
  | setData (data : String) : Becomes s (.setData data) { s with data }
  | setPreviousData (previousData : String) :
    Becomes s (.setPreviousData previousData) { s with previousData }

theorem moveRule_cases {s : Snapshot} {id : String} (hid : id ∈ s.ids) (d : Direction) :
    s.AtEnd id d ∨ ∃ t, s.moveRule id d = .ok (t, true) ∧ Becomes s (.move id d) t := by
  obtain ⟨before, r, after, h⟩ := exists_split hid
  cases d with
  | up =>
    obtain rfl | ⟨before, q, rfl⟩ := List.eq_nil_or_concat' before
    · exact .inl ⟨r, after, h⟩
    · exact .inr ⟨_, h.moveRule_up, .up h⟩
  | down =>
    cases after with
    | nil => exact .inl ⟨before, r, h⟩
    | cons q after => exact .inr ⟨_, h.moveRule_down, .down h⟩

theorem moveRule_eq_false_iff {s t : Snapshot} {id : String} {d : Direction} :
    s.moveRule id d = .ok (t, false) ↔ s.AtEnd id d ∧ t = s := by
  refine ⟨fun hmove => ?_, fun ⟨hend, ht⟩ => ht ▸ hend.moveRule⟩
  by_cases hid : id ∈ s.ids
  · obtain hend | ⟨u, hmoved, -⟩ := moveRule_cases hid d
    · rw [hend.moveRule] at hmove
      cases hmove
      exact ⟨hend, rfl⟩
    · rw [hmoved] at hmove
      cases hmove
  · rw [moveRule_of_not_mem hid] at hmove
    cases hmove

/-- An edit either succeeds, or it is about an id that is not there. -/
theorem apply_cases (s : Snapshot) (e : Edit) :
    (∃ t, e.apply s = .ok t ∧ Becomes s e t) ∨
    ∃ id, e.target? = some id ∧ id ∉ s.ids ∧ e.apply s = .error (.ruleNotFound id) := by
  cases e with
  | add id body => exact .inl ⟨_, rfl, .add id body⟩
  | setData data => exact .inl ⟨_, rfl, .setData data⟩
  | setPreviousData previousData => exact .inl ⟨_, rfl, .setPreviousData previousData⟩
  | set id body =>
    by_cases hid : id ∈ s.ids
    · obtain ⟨before, r, after, h⟩ := exists_split hid
      exact .inl ⟨_, h.setRule body, .set body h⟩
    · refine .inr ⟨id, rfl, hid, ?_⟩
      rw [Edit.apply, setRule, position_of_not_mem hid]
      rfl
  | remove id =>
    by_cases hid : id ∈ s.ids
    · obtain ⟨before, r, after, h⟩ := exists_split hid
      exact .inl ⟨_, congrArg (Except.map Prod.fst) h.removeRule, .remove h⟩
    · refine .inr ⟨id, rfl, hid, ?_⟩
      rw [Edit.apply, removeRule, rule?_of_not_mem hid]
      rfl
  | move id d =>
    by_cases hid : id ∈ s.ids
    · obtain hend | ⟨t, hmoved, hbecomes⟩ := moveRule_cases hid d
      · exact .inl ⟨s, congrArg (Except.map Prod.fst) hend.moveRule, .stays hend⟩
      · exact .inl ⟨t, congrArg (Except.map Prod.fst) hmoved, hbecomes⟩
    · refine .inr ⟨id, rfl, hid, ?_⟩
      rw [Edit.apply, moveRule_of_not_mem hid]
      rfl

theorem edit_cases (s : Snapshot) (e : Edit) :
    Becomes s e (s.edit e) ∨ ∃ id, e.target? = some id ∧ id ∉ s.ids ∧ s.edit e = s := by
  rcases apply_cases s e with ⟨t, happly, hbecomes⟩ | ⟨id, htarget, hid, happly⟩
  · rw [edit, happly]
    exact .inl hbecomes
  · rw [edit, happly]
    exact .inr ⟨id, htarget, hid, rfl⟩

theorem apply_eq_ruleNotFound_iff {s : Snapshot} {e : Edit} {id : String} :
    e.apply s = .error (.ruleNotFound id) ↔ e.target? = some id ∧ id ∉ s.ids := by
  rcases apply_cases s e with ⟨t, happly, hbecomes⟩ | ⟨id', htarget, hid, happly⟩
  · rw [happly]
    refine ⟨nofun, fun ⟨htarget, hid⟩ => ?_⟩
    cases hbecomes with
    | set _ h | stays h | up h | down h | remove h =>
      cases htarget
      exact absurd h.mem_ids hid
    | add | setData | setPreviousData => cases htarget
  · rw [happly, htarget]
    constructor
    · intro h
      cases h
      exact ⟨rfl, hid⟩
    · rintro ⟨h, -⟩
      cases h
      rfl

namespace Becomes

variable {s t : Snapshot} {e : Edit}

theorem ids_set {id : String} {body : Rule} (h : Becomes s (.set id body) t) : t.ids = s.ids := by
  obtain - | ⟨_, h⟩ := h
  simp [ids, h.rules, ListedRule.ofRule, h.id_eq]

theorem perm_move {id : String} {d : Direction} (h : Becomes s (.move id d) t) :
    t.rules.Perm s.rules := by
  cases h with
  | stays _ => exact .refl _
  | @up _ before after q r h =>
    rw [h.rules, List.append_assoc]
    exact (List.Perm.swap q r after).append_left before
  | @down _ before after q r h =>
    rw [h.rules]
    exact (List.Perm.swap r q after).append_left before

theorem data_eq (h : Becomes s e t) (he : ¬ e.IsOnData) :
    t.data = s.data ∧ t.previousData = s.previousData := by
  cases h with
  | setData _ | setPreviousData _ => exact absurd trivial he
  | _ => exact ⟨rfl, rfl⟩

theorem rules_eq (h : Becomes s e t) (he : e.IsOnData) : t.rules = s.rules := by
  cases h with
  | setData _ | setPreviousData _ => rfl
  | _ => cases he

theorem nodup_ids (h : Becomes s e t) (hids : s.ids.Nodup)
    (hnew : ∀ id ∈ e.minted?, id ∉ s.ids) : t.ids.Nodup := by
  cases h with
  | add id body =>
    have hid := hnew id rfl
    rw [ids, List.map_append, List.map_singleton]
    exact List.nodup_append'.mpr ⟨hids, List.nodup_singleton _, List.disjoint_singleton.mpr hid⟩
  | set body h => exact (ids_set (.set body h)).symm ▸ hids
  | stays _ | setData _ | setPreviousData _ => exact hids
  | up h => exact ((perm_move (.up h)).map ListedRule.id).nodup_iff.mpr hids
  | down h => exact ((perm_move (.down h)).map ListedRule.id).nodup_iff.mpr hids
  | @remove id before after r h =>
    have hsub : (before ++ after).Sublist s.rules := by
      rw [h.rules]
      exact (List.sublist_cons_self r after).append_left before
    exact hids.sublist (hsub.map ListedRule.id)

end Becomes

/-! ## The map from ids to rules -/

theorem rule?_eq_some_iff {s : Snapshot} (hids : s.ids.Nodup) {id : String} {r : ListedRule} :
    s.rule? id = some r ↔ r ∈ s.rules ∧ r.id = id := by
  constructor
  · intro h
    exact ⟨List.mem_of_find?_eq_some h, by simpa using List.find?_some h⟩
  · rintro ⟨hr, hid⟩
    obtain ⟨before, q, after, h⟩ := exists_split (mem_ids_iff.mpr ⟨r, hr, hid⟩)
    have hq : q ∈ s.rules := h.rules ▸ List.mem_append_cons_self
    rw [h.rule?, List.inj_on_of_nodup_map hids hq hr (h.id_eq.trans hid.symm)]

theorem isSome_rule?_iff {s : Snapshot} {id : String} : (s.rule? id).isSome ↔ id ∈ s.ids := by
  simp [rule?, List.find?_isSome, mem_ids_iff]

theorem rule?_congr_of_perm {s t : Snapshot} (hids : s.ids.Nodup) (h : t.rules.Perm s.rules)
    (id : String) : t.rule? id = s.rule? id := by
  have hids' : t.ids.Nodup := (h.map ListedRule.id).nodup_iff.mpr hids
  ext r
  rw [rule?_eq_some_iff hids', rule?_eq_some_iff hids, h.mem_iff]

theorem find?_append_cons_of_ne {before after : List ListedRule} {r : ListedRule} {id : String}
    (h : r.id ≠ id) : (before ++ r :: after).find? (·.id = id) =
      (before ++ after).find? (·.id = id) := by
  rw [List.find?_append, List.find?_append, List.find?_cons_of_neg (by simpa using h)]

theorem Split.not_mem_of_nodup {s : Snapshot} {id : String} {before after : List ListedRule}
    {r : ListedRule} (h : s.Split id before r after) (hids : s.ids.Nodup) :
    id ∉ (before ++ after).map ListedRule.id := by
  have hids : (r.id :: (before ++ after).map ListedRule.id).Nodup := by
    rw [← List.map_cons, ← List.perm_middle.map ListedRule.id |>.nodup_iff, ← h.rules]
    exact hids
  exact h.id_eq ▸ (List.nodup_cons.mp hids).1

theorem Becomes.rule?_eq {s t : Snapshot} {e : Edit} (h : Becomes s e t) (hids : s.ids.Nodup)
    (hnew : ∀ id ∈ e.minted?, id ∉ s.ids) (id : String) :
    t.rule? id = e.onFound id (s.rule? id) := by
  cases h with
  | stays _ | setData _ | setPreviousData _ => rfl
  | up h => exact rule?_congr_of_perm hids (Becomes.up h).perm_move id
  | down h => exact rule?_congr_of_perm hids (Becomes.down h).perm_move id
  | add id' body =>
    rw [Edit.onFound, rule?, List.find?_append]
    by_cases hid : id' = id
    · have hnone : s.rules.find? (·.id = id) = none :=
        rule?_of_not_mem (hid ▸ hnew id' rfl)
      simp [hnone, hid, ListedRule.ofRule]
    · simp [hid, rule?, ListedRule.ofRule]
  | @set id' before after r body h =>
    rw [Edit.onFound, rule?]
    split_ifs with hid
    · subst hid
      rw [h.rule?, Option.map_some]
      exact List.find?_eq_some_iff_append.mpr
        ⟨decide_eq_true rfl, before, after, rfl, fun q hq => by simpa using h.first q hq⟩
    · rw [find?_append_cons_of_ne hid, rule?, h.rules,
        find?_append_cons_of_ne fun hr => hid (h.id_eq.symm.trans hr)]
  | @remove id' before after r h =>
    rw [Edit.onFound]
    split_ifs with hid
    · exact rule?_of_not_mem (hid ▸ h.not_mem_of_nodup hids)
    · rw [rule?, rule?, h.rules, find?_append_cons_of_ne fun hr => hid (h.id_eq.symm.trans hr)]

theorem rule?_edit {s : Snapshot} {e : Edit} (hids : s.ids.Nodup)
    (hnew : ∀ id ∈ e.minted?, id ∉ s.ids) (id : String) :
    (s.edit e).rule? id = e.onFound id (s.rule? id) := by
  rcases edit_cases s e with h | ⟨id', htarget, hid', hkept⟩
  · exact h.rule?_eq hids hnew id
  · rw [hkept]
    have hnone (h : id' = id) : s.rule? id = none := rule?_of_not_mem (h ▸ hid')
    cases e with
    | add _ _ | setData _ | setPreviousData _ => cases htarget
    | move _ _ => rfl
    | set _ _ | remove _ =>
      cases htarget
      rw [Edit.onFound]
      split_ifs with h
      · simp [hnone h]
      · rfl

theorem nodup_ids_edit {s : Snapshot} {e : Edit} (hids : s.ids.Nodup)
    (hnew : ∀ id ∈ e.minted?, id ∉ s.ids) : (s.edit e).ids.Nodup := by
  rcases edit_cases s e with h | ⟨_, _, _, hkept⟩
  · exact h.nodup_ids hids hnew
  · exact hkept.symm ▸ hids

/-! ## One edit after another -/

section Run

variable {s : Snapshot} {es : List Edit} {e : Edit} {id : String}

theorem edits_append (s : Snapshot) (es fs : List Edit) :
    s.edits (es ++ fs) = (s.edits es).edits fs :=
  List.foldl_append

theorem edits_snoc (s : Snapshot) (es : List Edit) (e : Edit) :
    s.edits (es ++ [e]) = (s.edits es).edit e :=
  edits_append s es [e]

theorem mintsNew_snoc : s.MintsNew (es ++ [e]) ↔
    s.MintsNew es ∧ ∀ id ∈ e.minted?, id ∉ (s.edits es).ids := by
  induction es generalizing s with
  | nil => simp [MintsNew, edits]
  | cons f es ih => simp [MintsNew, ih, edits, and_assoc]

theorem keeps_snoc : s.Keeps (es ++ [e]) id ↔
    (∃ r, e = .add id r) ∨ s.Keeps es id ∧ e ≠ .remove id := by
  constructor
  · rintro (⟨hid, hkept⟩ | ⟨before, r, after, hes, hkept⟩)
    · rw [List.mem_append, List.mem_singleton, not_or] at hkept
      exact .inr ⟨.inl ⟨hid, hkept.1⟩, Ne.symm hkept.2⟩
    · obtain rfl | ⟨after, f, rfl⟩ := List.eq_nil_or_concat' after
      · exact .inl ⟨r, (List.append_inj_right' hes rfl |> List.cons.inj).1⟩
      · rw [← List.cons_append, ← List.append_assoc] at hes
        obtain ⟨rfl, hef⟩ := List.append_inj' hes rfl
        obtain rfl : e = f := (List.cons.inj hef).1
        rw [List.mem_append, List.mem_singleton, not_or] at hkept
        exact .inr ⟨.inr ⟨before, r, after, rfl, hkept.1⟩, Ne.symm hkept.2⟩
  · rintro (⟨r, rfl⟩ | ⟨⟨hid, hkept⟩ | ⟨before, r, after, rfl, hkept⟩, he⟩)
    · exact .inr ⟨es, r, [], rfl, List.not_mem_nil⟩
    · exact .inl ⟨hid, by simp [hkept, Ne.symm he]⟩
    · exact .inr ⟨before, r, after ++ [e], by simp, by simp [hkept, Ne.symm he]⟩

theorem lastGiven?_snoc :
    s.lastGiven? (es ++ [e]) id = (e.given? id).or (s.lastGiven? es id) := by
  cases hgiven : e.given? id <;> simp [lastGiven?, List.filterMap_append, hgiven]

theorem nodup_ids_edits (hids : s.ids.Nodup) (hnew : s.MintsNew es) : (s.edits es).ids.Nodup := by
  induction es using List.reverseRecOn with
  | nil => exact hids
  | append_singleton es e ih =>
    obtain ⟨hnew, hadd⟩ := mintsNew_snoc.mp hnew
    rw [edits_snoc]
    exact nodup_ids_edit (ih hnew) hadd

theorem rule?_edits_snoc (hids : s.ids.Nodup) (hnew : s.MintsNew (es ++ [e])) (id : String) :
    (s.edits (es ++ [e])).rule? id = e.onFound id ((s.edits es).rule? id) := by
  obtain ⟨hnew, hadd⟩ := mintsNew_snoc.mp hnew
  rw [edits_snoc]
  exact rule?_edit (nodup_ids_edits hids hnew) hadd id

theorem isSome_rule?_edits_iff (hids : s.ids.Nodup) (hnew : s.MintsNew es) (id : String) :
    ((s.edits es).rule? id).isSome ↔ s.Keeps es id := by
  -- From the end: the last edit decides, unless it is about another id.
  induction es using List.reverseRecOn with
  | nil => simp [edits, Keeps, isSome_rule?_iff]
  | append_singleton es e ih =>
    rw [rule?_edits_snoc hids hnew, keeps_snoc, ← ih (mintsNew_snoc.mp hnew).1]
    cases e with
    | add id' _ | set id' _ | remove id' => by_cases h : id' = id <;> simp [Edit.onFound, h]
    | move _ _ | setData _ | setPreviousData _ => simp [Edit.onFound]

theorem rule?_edits_eq_some (hids : s.ids.Nodup) (hnew : s.MintsNew es) {r : ListedRule}
    (hr : (s.edits es).rule? id = some r) : s.lastGiven? es id = some r.toRule := by
  induction es using List.reverseRecOn generalizing r with
  | nil =>
    have hr : s.rule? id = some r := hr
    simp [lastGiven?, hr]
  | append_singleton es e ih =>
    rw [rule?_edits_snoc hids hnew] at hr
    have ih {q} := @ih (mintsNew_snoc.mp hnew).1 q
    rw [lastGiven?_snoc]
    -- Either the edit gives a rule to the id, and this one is found, or what was found stays.
    cases e with
    | add id' body | set id' body =>
      by_cases h : id' = id <;>
        simp only [Edit.onFound, h, if_true, if_false, Option.map_eq_some_iff] at hr <;>
        grind [Edit.given?, ListedRule.ofRule]
    | remove id' =>
      by_cases h : id' = id <;> simp only [Edit.onFound, h, if_true, if_false] at hr
      · cases hr
      · exact ih hr
    | move _ _ | setData _ | setPreviousData _ => exact ih hr

end Run

/-- Editing keeps the ids apart, and a lookup finds the rule that was given to an id last, as long
as it has not been removed.  What an edit is not about stays as it is, and so does everything where
the edit is about an id that is not there. -/
theorem edits_keep_rules_by_id (s : Snapshot) (es : List Edit) (hids : s.ids.Nodup)
    (hnew : s.MintsNew es) :
    (s.edits es).ids.Nodup ∧
      (∀ id, ((s.edits es).rule? id).isSome ↔ s.Keeps es id) ∧
      (∀ id r, (s.edits es).rule? id = some r →
        r.id = id ∧ s.lastGiven? es id = some r.toRule) ∧
      (∀ (t : Snapshot) id body, (t.edit (.set id body)).ids = t.ids) ∧
      (∀ (t : Snapshot) id d, (t.edit (.move id d)).ids.Perm t.ids) ∧
      (∀ (t : Snapshot) e, e.IsOnData → (t.edit e).rules = t.rules) ∧
      (∀ (t : Snapshot) e, ¬ e.IsOnData →
        (t.edit e).data = t.data ∧ (t.edit e).previousData = t.previousData) ∧
      ∀ (t : Snapshot) e,
        (∀ id, e.apply t = .error (.ruleNotFound id) ↔ e.target? = some id ∧ id ∉ t.ids) ∧
        ∀ f, e.apply t = .error f → (∃ id, f = .ruleNotFound id) ∧ t.edit e = t := by
  have hframe (t : Snapshot) (e : Edit) : Becomes t e (t.edit e) ∨ t.edit e = t :=
    (edit_cases t e).imp_right fun ⟨_, _, _, hkept⟩ => hkept
  refine ⟨nodup_ids_edits hids hnew, isSome_rule?_edits_iff hids hnew, fun id r hr => ⟨?_, ?_⟩,
    fun t id body => ?_, fun t id d => ?_, fun t e he => ?_, fun t e he => ?_, fun t e => ⟨fun id =>
      apply_eq_ruleNotFound_iff, fun f hf => ⟨?_, ?_⟩⟩⟩
  · exact ((rule?_eq_some_iff (nodup_ids_edits hids hnew)).mp hr).2
  · exact rule?_edits_eq_some hids hnew hr
  · rcases hframe t (.set id body) with h | h
    · exact h.ids_set
    · rw [h]
  · rcases hframe t (.move id d) with h | h
    · exact h.perm_move.map ListedRule.id
    · rw [h]
  · rcases hframe t e with h | h
    · exact h.rules_eq he
    · rw [h]
  · rcases hframe t e with h | h
    · exact h.data_eq he
    · exact ⟨congrArg data h, congrArg previousData h⟩
  · rcases apply_cases t e with ⟨u, happly, _⟩ | ⟨id, _, _, happly⟩ <;> rw [happly] at hf
    · cases hf
    · exact ⟨id, (Except.error.inj hf).symm⟩
  · rw [edit, hf]

private def draft : Snapshot where
  data := "\x7b\x7d"
  previousData := "null"
  rules :=
    [.ofRule "price" ⟨"ListPrice", .accept, "ListPrice > 0", "A price is needed"⟩,
      .ofRule "beds" ⟨"Beds", .warning, "Beds = 0", "No beds"⟩]

private def fewBeds : Rule := ⟨"Beds", .warning, "Beds < 2", "Few beds"⟩

/-- Rules come, go and come back; `beds` is set once while it is not there. -/
private def session : List Edit :=
  [.add "status" ⟨"MlsStatus", .reject, "MlsStatus = .EMPTY.", "A status is needed"⟩,
    .move "status" .up, .remove "beds", .set "beds" fewBeds, .setData "null", .add "beds" fewBeds,
    .remove "price"]

theorem session_keeps_rules_by_id :
    draft.ids.Nodup ∧ draft.MintsNew session ∧ (draft.edits session).ids = ["status", "beds"] ∧
      draft.Keeps session "beds" ∧ ¬ draft.Keeps session "price" ∧
      draft.lastGiven? session "beds" = some fewBeds := by
  have hids : draft.ids.Nodup := by decide
  have hnew : draft.MintsNew session := by decide
  obtain ⟨-, hkeeps, hlast, -⟩ := edits_keep_rules_by_id draft session hids hnew
  refine ⟨hids, hnew, by decide, (hkeeps "beds").mp (by decide), fun h => ?_, ?_⟩
  · exact absurd ((hkeeps "price").mpr h) (by decide)
  · exact (hlast "beds" (.ofRule "beds" fewBeds) (by decide)).2

end Snapshot

end RuleBench
