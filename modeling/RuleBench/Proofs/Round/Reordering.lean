import RuleBench.Proofs.Expr.Mention
import RuleBench.Proofs.Round.Isolation

set_option autoImplicit false

/-!
# The order of rules

Rules see each other only through the values that they bind.  Two neighbours may change places where
neither mentions a field that the other binds, and they do not bind the same field.
-/

namespace RuleBench

/-- What the first rule binds is mentioned by the second.  A rule that cannot be read binds nothing
and mentions nothing. -/
def ListedRule.Feeds (p q : ListedRule) : Prop :=
  p.action = .set ∧ ∃ e x, Expr.parse p.expression = .ok e ∧ Expr.parse q.expression = .ok x ∧
    p.field ∈ x.fieldNames

structure ListedRule.Independent (p q : ListedRule) : Prop where
  feeds : ¬ p.Feeds q
  fed : ¬ q.Feeds p
  apart : p.action = .set → q.action = .set → p.field ≠ q.field

theorem Engine.basic_parse_eq_done_iff {source : String} {e : Expr} :
    basic.parse source = .done e ↔ Expr.parse source = .ok e := by
  simp only [basic]
  cases Expr.parse source with
  | error f => exact ⟨nofun, nofun⟩
  | ok x => exact ⟨fun h => congrArg Except.ok (Attempt.done.inj h),
      fun h => congrArg Attempt.done (Except.ok.inj h)⟩

namespace EvaluationUnit

variable {round : Round} {p q r : ListedRule} {locals locals' : Bindings} {o o' : Output}

/-- A rule has the same outcome where its fields are bound to the same. -/
theorem outcome?_congr (h : ∀ x, Expr.parse r.expression = .ok x → ∀ name ∈ x.fieldNames,
      Json.findMember name locals = Json.findMember name locals') :
    outcome? .basic round locals r = outcome? .basic round locals' r := by
  unfold outcome?
  cases hr : Engine.basic.parse r.expression with
  | refused message | broken text => rfl
  | done e =>
    have hsame := h e (Engine.basic_parse_eq_done_iff.mp hr)
    have halike : (round.scope locals).Alike e.fieldNames e.lastNames (round.scope locals') :=
      .of_locals (s := round.scope locals') hsame
    simp only [Engine.basic, Expr.eval_congr e halike]

/-- A rule that does not feed another does not change its outcome. -/
theorem outcome?_behind (ho : outcome? .basic round locals p = some o) (h : ¬ p.Feeds q) :
    outcome? .basic round (boundBehind p o locals) q = outcome? .basic round locals q := by
  cases o with
  | error message => rfl
  | value v =>
    obtain ⟨message, -, hno⟩ | ⟨e, hr, -⟩ := outcome?_cases ho
    · cases hno
    refine outcome?_congr fun x hx name hname => findMember_boundBehind (fun hset heq => ?_) _ _
    exact h ⟨hset, e, x, Engine.basic_parse_eq_done_iff.mp hr, hx, heq ▸ hname⟩

theorem boundBehind_comm (hlocals : Json.Ascending locals)
    (h : p.action = .set → q.action = .set → p.field ≠ q.field) :
    boundBehind q o' (boundBehind p o locals) = boundBehind p o (boundBehind q o' locals) := by
  cases o with
  | error message => rfl
  | value v =>
    cases o' with
    | error message => rfl
    | value v' =>
      by_cases hp : p.action = .set
      · by_cases hq : q.action = .set
        · simp only [boundBehind, bind, if_pos hp, if_pos hq]
          exact hlocals.putMember_comm (h hp hq) v v'
        · rw [boundBehind_of_ne_set hq, boundBehind_of_ne_set hq]
      · rw [boundBehind_of_ne_set hp, boundBehind_of_ne_set hp]

/-- Neighbours that are independent may be walked over in either order. -/
theorem Walk.swap {before after : List ListedRule} {outputs : Outputs} {final : Bindings}
    (h : Walk .basic round (before ++ p :: q :: after) locals outputs final)
    (hlocals : Json.Ascending locals) (hpq : p.Independent q) :
    ∃ first o o' second, outputs = first ++ (p.id, o) :: (q.id, o') :: second ∧
      Walk .basic round (before ++ q :: p :: after) locals
        (first ++ (q.id, o') :: (p.id, o) :: second) final := by
  obtain ⟨first, bound, o, rest, hbefore, ho, hrest, rfl⟩ := h.exists_at
  obtain ⟨o', second, ho', hafter, rfl⟩ := Walk.cons_iff.mp hrest
  rw [outcome?_behind ho hpq.feeds] at ho'
  rw [boundBehind_comm (hbefore.ascending hlocals) hpq.apart] at hafter
  refine ⟨first, o, o', second, rfl, hbefore.append (.cons ho' (.cons ?_ hafter))⟩
  rwa [outcome?_behind ho' hpq.fed]

/-- Independent neighbours may change places, as a move of either does, and the round comes to the
same outcomes and the same bound values. -/
theorem independent_neighbours_swap {request : Request} {round : Round}
    (hround : Round.ofRequest request = .ok round)
    (hids : (request.rules.map ListedRule.id).Nodup) {before after : List ListedRule}
    {p q : ListedRule} (hrules : request.rules = before ++ p :: q :: after)
    (hpq : p.Independent q) :
    ∃ t, request.snapshot.moveRule p.id .down = .ok (t, true) ∧
      request.snapshot.moveRule q.id .up = .ok (t, true) ∧
      t.rules = before ++ q :: p :: after ∧
      ∃ o, (⟨.basic, false⟩ : EvaluationUnit Expr).reply request = .success o ∧
        (⟨.basic, false⟩ : EvaluationUnit Expr).reply (request.withRules t.rules) = .success o := by
  have hp := Request.split_snapshot hids hrules
  have hq : request.snapshot.Split q.id (before ++ [p]) q after :=
    Request.split_snapshot hids (by simp [hrules])
  have hnodup : ((before ++ q :: p :: after).map ListedRule.id).Nodup :=
    (Snapshot.Becomes.down hp).nodup_ids hids nofun
  obtain ⟨outputs, final, walk⟩ :=
    Walk.exists_of_isSound Engine.isSound_basic round request.rules []
  have hreply := walk.reply_withRules (u := ⟨.basic, false⟩) rfl hround hids
  have hkeys : (outputs.map Prod.fst).Nodup := walk.ids ▸ hids
  rw [hrules] at walk
  obtain ⟨first, o, o', second, rfl, hswapped⟩ := walk.swap List.Pairwise.nil hpq
  have hsame : Json.sortMembers (first ++ (p.id, o) :: (q.id, o') :: second) =
      Json.sortMembers (first ++ (q.id, o') :: (p.id, o) :: second) :=
    Json.sortMembers_eq_of_perm hkeys (.append_left first (.swap _ _ second))
  refine ⟨_, hp.moveRule_down, hq.moveRule_up, rfl, _, hreply, ?_⟩
  rw [hsame]
  exact hswapped.reply_withRules (u := ⟨.basic, false⟩) rfl hround hnodup

/-- A rule that binds a field, one that mentions the field only as it was before, and one that sees
what has been bound. -/
def shift : Request where
  rules := [⟨⟨"total", .set, "2", ""⟩, "a"⟩, ⟨⟨"old", .set, "LAST total", ""⟩, "b"⟩,
    ⟨⟨"", .evaluate, "total", ""⟩, "c"⟩]
  currentData := "{}"
  previousData := "{}"
  now := "2024-01-01T00:00:00Z"
  today := "2024-01-01"

theorem binding_swaps_with_last_value : ∃ t,
    shift.snapshot.moveRule "a" .down = .ok (t, true) ∧
    shift.snapshot.moveRule "b" .up = .ok (t, true) ∧
    t.rules = [⟨⟨"old", .set, "LAST total", ""⟩, "b"⟩, ⟨⟨"total", .set, "2", ""⟩, "a"⟩,
      ⟨⟨"", .evaluate, "total", ""⟩, "c"⟩] ∧
    ∃ o, (⟨.basic, false⟩ : EvaluationUnit Expr).reply shift = .success o ∧
      (⟨.basic, false⟩ : EvaluationUnit Expr).reply (shift.withRules t.rules) = .success o := by
  have hround : Round.ofRequest shift = .ok ⟨.obj [], .obj [],
      ⟨⟨2024, 1, 1, by decide⟩, 0, 0, 0⟩, ⟨2024, 1, 1, by decide⟩⟩ := rfl
  have hlast : Expr.parse "LAST total" = .ok (.last "total") := rfl
  have hwhole : Expr.parse "2" = .ok (.literal (Json.ofNat 2)) := rfl
  have hrules : shift.rules = [] ++ ⟨⟨"total", .set, "2", ""⟩, "a"⟩ ::
      ⟨⟨"old", .set, "LAST total", ""⟩, "b"⟩ :: [⟨⟨"", .evaluate, "total", ""⟩, "c"⟩] := rfl
  refine independent_neighbours_swap hround (by decide) hrules ⟨?_, ?_, ?_⟩
  · rintro ⟨-, e, x, -, hx, hmem⟩
    obtain rfl := Except.ok.inj (hx.symm.trans hlast)
    cases hmem
  · rintro ⟨-, e, x, -, hx, hmem⟩
    obtain rfl := Except.ok.inj (hx.symm.trans hwhole)
    cases hmem
  · exact fun _ _ => by decide

end EvaluationUnit

end RuleBench
