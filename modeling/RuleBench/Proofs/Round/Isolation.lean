import RuleBench.Proofs.Round.Turns
import RuleBench.Proofs.Snapshot.Editing

set_option autoImplicit false

/-!
# What an edit of one rule changes

A rule that binds nothing may be removed or replaced by another such rule: the outcomes of all
other rules stay as they are, and so do the values bound.  A rule that is put at the end changes no
outcome of those before it, and binds nothing but its own field.
-/

namespace RuleBench

namespace Request

/-- The snapshot that a request is about. -/
def snapshot (r : Request) : Snapshot := ⟨r.currentData, r.previousData, r.rules⟩

/-- The same round of other rules. -/
def withRules (r : Request) (rules : List ListedRule) : Request := { r with rules }

/-- Under different ids, every position is that of the rule of its id. -/
theorem split_snapshot {r : Request} (hids : (r.rules.map ListedRule.id).Nodup)
    {before after : List ListedRule} {q : ListedRule} (hrules : r.rules = before ++ q :: after) :
    r.snapshot.Split q.id before q after where
  rules := hrules
  id_eq := rfl
  first p hp heq := by
    rw [hrules, List.map_append, List.map_cons] at hids
    exact (List.nodup_append.mp hids).2.2 p.id (List.mem_map_of_mem hp) q.id List.mem_cons_self heq

end Request

/-- The outcomes of all rules but that of this id, and the values bound, are the same. -/
structure Outcomes.SameBut (id : String) (o o' : Outcomes) : Prop where
  values : ∀ other, other ≠ id → Json.findMember other o'.values = Json.findMember other o.values
  updates : o'.updates = o.updates

namespace EvaluationUnit

variable {α : Type} {engine : Engine α} {round : Round}

namespace Walk

variable {rules before after : List ListedRule} {r : ListedRule} {locals final : Bindings}
  {outputs : Outputs}

/-- A rule that binds nothing may be left out of a walk, or another such rule put in its place. -/
theorem exchange (sound : engine.IsSound)
    (h : Walk engine round (before ++ r :: after) locals outputs final) (hr : r.action ≠ .set) :
    ∃ first o second, outputs = first ++ (r.id, o) :: second ∧
      Walk engine round (before ++ after) locals (first ++ second) final ∧
      ∀ q : ListedRule, q.action ≠ .set → ∃ o',
        Walk engine round (before ++ q :: after) locals (first ++ (q.id, o') :: second) final := by
  obtain ⟨first, bound, o, second, hbefore, -, hafter, rfl⟩ := h.exists_at
  rw [boundBehind_of_ne_set hr] at hafter
  refine ⟨first, o, second, rfl, hbefore.append hafter, fun q hq => ?_⟩
  obtain ⟨o', ho'⟩ := exists_outcome sound round bound q
  exact ⟨o', hbefore.append (.cons ho' ((boundBehind_of_ne_set hq o' bound).symm ▸ hafter))⟩

/-- A rule at the end of a walk leaves what comes before it. -/
theorem extend (sound : engine.IsSound) (h : Walk engine round rules locals outputs final)
    (q : ListedRule) : ∃ o, Walk engine round (rules ++ [q]) locals (outputs ++ [(q.id, o)])
      (boundBehind q o final) := by
  obtain ⟨o, ho⟩ := exists_outcome sound round final q
  exact ⟨o, h.append (.cons ho (.done _))⟩

theorem reply_withRules {u : EvaluationUnit α} (lenient : u.strict = false) {request : Request}
    (hround : Round.ofRequest request = .ok round) (hids : (rules.map ListedRule.id).Nodup)
    (h : Walk u.engine round rules [] outputs final) :
    u.reply (request.withRules rules) = .success ⟨Json.sortMembers outputs, final⟩ := by
  have hround' : Round.ofRequest (request.withRules rules) = .ok round := hround
  exact reply_eq_success lenient hround' hids h

theorem findMember_sorted (h : Walk engine round rules locals outputs final)
    (hids : (rules.map ListedRule.id).Nodup) (id : String) :
    Json.findMember id (Json.sortMembers outputs) = Json.findMember id outputs :=
  Json.findMember_sortMembers (h.ids ▸ hids) id

end Walk

/-- A rule that binds nothing may be removed, or replaced by one that binds nothing, and no other
outcome and no bound value changes.  A rule added at the end changes no outcome of the others, and
no bound value but that of its field if it binds one. -/
theorem edits_stay_apart {u : EvaluationUnit α} (sound : u.engine.IsSound)
    (lenient : u.strict = false) {request : Request} {round : Round}
    (hround : Round.ofRequest request = .ok round)
    (hids : (request.rules.map ListedRule.id).Nodup) :
    ∃ o, u.reply request = .success o ∧
      (∀ before r after, request.rules = before ++ r :: after → r.action ≠ .set →
        (∃ t o', request.snapshot.removeRule r.id = .ok (t, r) ∧ t.rules = before ++ after ∧
          u.reply (request.withRules t.rules) = .success o' ∧ o.SameBut r.id o') ∧
        ∀ body : Rule, body.action ≠ .set →
          ∃ t o', request.snapshot.setRule r.id body = .ok t ∧
            t.rules = before ++ .ofRule r.id body :: after ∧
            u.reply (request.withRules t.rules) = .success o' ∧ o.SameBut r.id o') ∧
      ∀ id body, id ∉ request.snapshot.ids →
        ∃ o', u.reply (request.withRules (request.snapshot.addRule id body).rules) = .success o' ∧
          (∀ other, other ≠ id →
            Json.findMember other o'.values = Json.findMember other o.values) ∧
          (body.action ≠ .set → o'.updates = o.updates) ∧
          ∀ name, name ≠ body.field →
            Json.findMember name o'.updates = Json.findMember name o.updates := by
  obtain ⟨outputs, final, walk⟩ := Walk.exists_of_isSound sound round request.rules []
  refine ⟨⟨Json.sortMembers outputs, final⟩, walk.reply_withRules lenient hround hids, ?_, ?_⟩
  · intro before r after hrules hr
    have hsplit := Request.split_snapshot hids hrules
    have hnodup : ((before ++ r :: after).map ListedRule.id).Nodup := hrules ▸ hids
    rw [hrules] at walk
    obtain ⟨first, o, second, rfl, hwithout, hwith⟩ := walk.exchange sound hr
    refine ⟨?_, fun body hbody => ?_⟩
    · have hrest : ((before ++ after).map ListedRule.id).Nodup :=
        (Snapshot.Becomes.remove hsplit).nodup_ids hids nofun
      refine ⟨_, _, hsplit.removeRule, rfl, hwithout.reply_withRules lenient hround hrest,
        fun other hother => ?_, rfl⟩
      rw [hwithout.findMember_sorted hrest, walk.findMember_sorted hnodup,
        Json.findMember_append_cons_of_ne hother]
    · obtain ⟨o', hset⟩ := hwith (.ofRule r.id body) hbody
      have hsame : ((before ++ .ofRule r.id body :: after).map ListedRule.id).Nodup :=
        (Snapshot.Becomes.set body hsplit).nodup_ids hids nofun
      refine ⟨_, _, hsplit.setRule body, rfl, hset.reply_withRules lenient hround hsame,
        fun other hother => ?_, rfl⟩
      rw [hset.findMember_sorted hsame, walk.findMember_sorted hnodup,
        Json.findMember_append_cons_of_ne hother]
      exact Json.findMember_append_cons_of_ne hother first o' second
  · intro id body hid
    obtain ⟨o, hmore⟩ := walk.extend sound (ListedRule.ofRule id body)
    have hnodup : ((request.rules ++ [ListedRule.ofRule id body]).map ListedRule.id).Nodup :=
      (Snapshot.Becomes.add (s := request.snapshot) id body).nodup_ids hids
        fun _ hminted => Option.some.inj hminted ▸ hid
    refine ⟨_, hmore.reply_withRules lenient hround hnodup, fun other hother => ?_,
      fun hbody => boundBehind_of_ne_set hbody o final,
      fun name hname => findMember_boundBehind (fun _ => hname.symm) o final⟩
    rw [hmore.findMember_sorted hnodup, walk.findMember_sorted hids]
    exact (Json.findMember_append_cons_of_ne hother outputs o []).trans
      (congrArg (Json.findMember other) (List.append_nil outputs))

/-- A rule that binds a value, one that checks it and one that shows it. -/
def tally : Request where
  rules := [⟨⟨"total", .set, "2", ""⟩, "a"⟩, ⟨⟨"total", .accept, "total = 2", ""⟩, "b"⟩,
    ⟨⟨"", .evaluate, "total", ""⟩, "c"⟩]
  currentData := "{}"
  previousData := "{}"
  now := "2024-01-01T00:00:00Z"
  today := "2024-01-01"

theorem round_tally : Round.ofRequest tally =
    .ok ⟨.obj [], .obj [], ⟨⟨2024, 1, 1, by decide⟩, 0, 0, 0⟩, ⟨2024, 1, 1, by decide⟩⟩ := rfl

/-- The rule that checks is removed, or gets an expression that cannot be read; another rule binds
the same field once more. -/
theorem neighbours_of_edited_rule_stay : ∃ o,
    (⟨.basic, false⟩ : EvaluationUnit Expr).reply tally = .success o ∧
    (∃ t o', tally.snapshot.removeRule "b" = .ok (t, ⟨⟨"total", .accept, "total = 2", ""⟩, "b"⟩) ∧
      (⟨.basic, false⟩ : EvaluationUnit Expr).reply (tally.withRules t.rules) = .success o' ∧
      o.SameBut "b" o') ∧
    (∃ t o', tally.snapshot.setRule "b" ⟨"", .reject, "(", ""⟩ = .ok t ∧
      (⟨.basic, false⟩ : EvaluationUnit Expr).reply (tally.withRules t.rules) = .success o' ∧
      o.SameBut "b" o') ∧
    ∃ o', (⟨.basic, false⟩ : EvaluationUnit Expr).reply
        (tally.withRules (tally.snapshot.addRule "d" ⟨"total", .set, "3", ""⟩).rules) =
        .success o' ∧
      Json.findMember "c" o'.values = Json.findMember "c" o.values := by
  obtain ⟨o, hreply, hedited, hadded⟩ := edits_stay_apart (u := ⟨.basic, false⟩)
    Engine.isSound_basic rfl round_tally (by decide)
  obtain ⟨⟨t, removed, hremove, -, hwithout, hsame⟩, hset⟩ :=
    hedited [_] _ [_] rfl (by decide)
  obtain ⟨t', replaced, hsetRule, -, hwith, hsame'⟩ := hset ⟨"", .reject, "(", ""⟩ (by decide)
  obtain ⟨more, hmore, hothers, -, -⟩ := hadded "d" ⟨"total", .set, "3", ""⟩ (by decide)
  exact ⟨o, hreply, ⟨t, removed, hremove, hwithout, hsame⟩,
    ⟨t', replaced, hsetRule, hwith, hsame'⟩, more, hmore, hothers "c" (by decide)⟩

end EvaluationUnit

end RuleBench
