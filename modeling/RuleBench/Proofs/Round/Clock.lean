import RuleBench.Proofs.Calendar.Texts
import RuleBench.Proofs.Round.Calls

set_option autoImplicit false

/-!
# One instant in a round

A request carries two texts of one reading of the clock.  The unit reads the instant and the day
back from them, and shows both to every rule as the texts that they were read from.
-/

namespace RuleBench

open Calendar (Instant Date)

namespace Expr

mutual

/-- The same expression with these texts in the place of `.NOW.` and `.TODAY.`. -/
def dated (now today : String) : Expr → Expr
  | .literal v => .literal v
  | .field name => .field name
  | .last name => .last name
  | .now => .literal (.str now)
  | .today => .literal (.str today)
  | .not x => .not (dated now today x)
  | .negate x => .negate (dated now today x)
  | .binary op l r => .binary op (dated now today l) (dated now today r)
  | .call f args => .call f (datedAll now today args)

def datedAll (now today : String) : List Expr → List Expr
  | [] => []
  | x :: rest => dated now today x :: datedAll now today rest

end

/-- The scope shows the clock in these texts. -/
structure Shows (s : Scope) (now today : String) : Prop where
  now : Expr.now.eval s = .ok (.str now)
  today : Expr.today.eval s = .ok (.str today)

mutual

theorem eval_dated {s : Scope} {now today : String} (h : Shows s now today) :
    ∀ e : Expr, (dated now today e).eval s = e.eval s
  | .literal _ => rfl
  | .field _ => rfl
  | .last _ => rfl
  | .now => h.now.symm
  | .today => h.today.symm
  | .not x => by simp only [dated, eval, eval_dated h x]
  | .negate x => by simp only [dated, eval, eval_dated h x]
  | .binary op l r => by simp only [dated, eval, eval_dated h l, eval_dated h r]
  | .call f args => by
    simp only [dated, eval]
    exact congrArg (callValue f) (funext fun index => evalArgument_dated h f index args index)

theorem evalArgument_dated {s : Scope} {now today : String} (h : Shows s now today)
    (f : Function) (wanted : Nat) : ∀ (args : List Expr) (index : Nat),
      evalArgument s f wanted (datedAll now today args) index =
        evalArgument s f wanted args index
  | [], _ => rfl
  | x :: _, 0 => eval_dated h x
  | _ :: rest, index + 1 => evalArgument_dated h f wanted rest index

end

end Expr

/-- The engine for expressions, with these texts in the place of `.NOW.` and `.TODAY.`. -/
def Engine.dated (now today : String) : Engine Expr where
  parse := basic.parse
  evaluate e s := basic.evaluate (e.dated now today) s

namespace EvaluationUnit

variable {α : Type} {engine engine' : Engine α} {strict : Bool} {request : Request}

theorem readRules_congr (hparse : engine.parse = engine'.parse) (rules : List ListedRule)
    (outputs : Outputs) :
    readRules ⟨engine, strict⟩ rules outputs = readRules ⟨engine', strict⟩ rules outputs := by
  induction rules generalizing outputs with
  | nil => rfl
  | cons r rest ih => simp only [readRules, hparse, ih]

theorem evaluateRules_congr {round : Round} (heval : ∀ x locals,
      engine.evaluate x (round.scope locals) = engine'.evaluate x (round.scope locals))
    (read : List (ReadRule α)) (outputs : Outputs) (locals : Bindings) :
    evaluateRules ⟨engine, strict⟩ round read outputs locals =
      evaluateRules ⟨engine', strict⟩ round read outputs locals := by
  induction read generalizing outputs locals with
  | nil => rfl
  | cons q rest ih => simp only [evaluateRules, heval, ih]

/-- Engines that read alike, and evaluate alike in the scopes of a round, make the same reply. -/
theorem reply_congr (hparse : engine.parse = engine'.parse)
    (heval : ∀ round, request.Decodes round → ∀ x locals,
      engine.evaluate x (round.scope locals) = engine'.evaluate x (round.scope locals)) :
    reply ⟨engine, strict⟩ request = reply ⟨engine', strict⟩ request := by
  have hrun : run ⟨engine, strict⟩ request = run ⟨engine', strict⟩ request := by
    rcases request.decodes_or_unreadable with ⟨round, h⟩ | ⟨message, h⟩
    · simp only [run, h.ofRequest_eq, readRules_congr hparse, Except.mapError, Bind.bind,
        Except.bind,
        evaluateRules_congr (heval round h)]
    · simp only [run, h.ofRequest_eq]
      rfl
  simp only [reply, hrun]

end EvaluationUnit

namespace Request

/-- For a reading of the clock in years of four digits, a unit reads the instant and the day back
from a request, so that only the data can keep it from being read; and each rule of the round is
shown the texts of the request, as if they stood in its expression. -/
theorem clock_is_read_once (snapshot : Snapshot) {t : Instant} (ht : t.IsReading)
    (hyear : 0 ≤ t.date.year ∧ t.date.year ≤ 9999)
    (hutc : 0 ≤ t.toUtc.date.year ∧ t.toUtc.date.year ≤ 9999) :
    (∃ now, Instant.parse (ofSnapshot snapshot t).now.toList = .ok now ∧ now.offset = 0 ∧
      now = t.toUtc.inMilliseconds ∧ now.elapsed = t.elapsed - t.elapsed % 1000000) ∧
    Date.parse (ofSnapshot snapshot t).today.toList = .ok t.date ∧
    (∀ (α : Type) (u : EvaluationUnit α) (message : String),
      u.reply (ofSnapshot snapshot t) = .failure (.unreadable message) →
        (∃ f, Json.parse snapshot.data = .error f ∧ message = "current data: " ++ f.message) ∨
        ∃ f, Json.parse snapshot.previousData = .error f ∧
          message = "previous data: " ++ f.message) ∧
    (∀ round, (ofSnapshot snapshot t).Decodes round → ∀ locals,
      Expr.now.eval ⟨round.current, round.previous, locals, round.now, round.today⟩ =
        .ok (.str (ofSnapshot snapshot t).now) ∧
      Expr.today.eval ⟨round.current, round.previous, locals, round.now, round.today⟩ =
        .ok (.str (ofSnapshot snapshot t).today)) ∧
    ∀ strict, (⟨.basic, strict⟩ : EvaluationUnit Expr).reply (ofSnapshot snapshot t) =
      (⟨.dated (ofSnapshot snapshot t).now (ofSnapshot snapshot t).today, strict⟩ :
        EvaluationUnit Expr).reply (ofSnapshot snapshot t) := by
  obtain ⟨hreading, helapsed⟩ := ht.toUtc ⟨by omega, by omega⟩
  have hoffset := t.toUtc_offset
  have hnow : Instant.parse (ofSnapshot snapshot t).now.toList = .ok t.toUtc.inMilliseconds := by
    rw [ofSnapshot, Instant.stamp, String.toList_ofList, Instant.parse_text hreading hoffset hutc]
  have htoday : Date.parse (ofSnapshot snapshot t).today.toList = .ok t.date := by
    rw [ofSnapshot, String.toList_ofList, Date.parse_text hyear]
  have hshows : ∀ round, (ofSnapshot snapshot t).Decodes round → ∀ locals,
      Expr.Shows (round.scope locals) (ofSnapshot snapshot t).now
        (ofSnapshot snapshot t).today := by
    intro round h locals
    have hround : t.toUtc.inMilliseconds = round.now := Except.ok.inj (hnow.symm.trans h.now)
    have hday : t.date = round.today := Except.ok.inj (htoday.symm.trans h.today)
    constructor
    · change Except.ok (Json.str round.now.stamp) = _
      rw [← hround, Instant.stamp_inMilliseconds hreading hoffset]
      rfl
    · change Except.ok (Json.str (String.ofList round.today.text)) = _
      rw [← hday]
      rfl
  refine ⟨⟨_, hnow, ?_, rfl, ?_⟩, htoday, ?_, ?_, ?_⟩
  · exact Instant.inMilliseconds_offset.trans hoffset
  · rw [Instant.elapsed_inMilliseconds, helapsed]
  · intro α u message hreply
    cases (u.reply_eq_unreadable_iff message).mp hreply with
    | now h => cases hnow.symm.trans h
    | today _ h => cases htoday.symm.trans h
    | current _ _ h => exact .inl ⟨_, h, rfl⟩
    | previous _ _ _ h => exact .inr ⟨_, h, rfl⟩
  · exact fun round h locals => ⟨(hshows round h locals).now, (hshows round h locals).today⟩
  · intro strict
    refine EvaluationUnit.reply_congr rfl fun round h x locals => ?_
    change Engine.basic.evaluate x _ = Engine.basic.evaluate (x.dated _ _) _
    simp only [Engine.basic, Expr.eval_dated (hshows round h locals)]

/-- Half a second into the second that was counted twice at the end of 2016, an hour ahead of
UTC. -/
def turnOfYear : Instant := ⟨⟨2017, 1, 1, by decide⟩, 3599, 1500250000, 3600⟩

/-- One rule that binds the time and one that looks at the day. -/
def datedRules : Snapshot where
  data := "{}"
  previousData := "null"
  rules := [⟨⟨"at", .set, ".NOW.", ""⟩, "a"⟩,
    ⟨⟨"day", .accept, ".TODAY.", ""⟩, "b"⟩]

/-- The day is that of the new year, and the time still one of the old year. -/
theorem new_year_begins_before_utc :
    turnOfYear.IsReading ∧ (ofSnapshot datedRules turnOfYear).now = "2016-12-31T23:59:60.500Z" ∧
    (ofSnapshot datedRules turnOfYear).today = "2017-01-01" ∧
    (∃ now, Instant.parse "2016-12-31T23:59:60.500Z".toList = .ok now ∧
      now.elapsed = turnOfYear.elapsed - 250000) ∧
    (⟨.basic, true⟩ : EvaluationUnit Expr).reply (ofSnapshot datedRules turnOfYear) =
      .success ⟨[("a", .value (.str "2016-12-31T23:59:60.500Z")),
        ("b", .value (.str "2017-01-01"))], [("at", .str "2016-12-31T23:59:60.500Z")]⟩ := by
  have hreading : turnOfYear.IsReading := ⟨by decide, by decide, by decide⟩
  have hnow : (ofSnapshot datedRules turnOfYear).now = "2016-12-31T23:59:60.500Z" := rfl
  have htoday : (ofSnapshot datedRules turnOfYear).today = "2017-01-01" := rfl
  obtain ⟨⟨now, hparse, -, -, helapsed⟩, -, -, -, hreply⟩ :=
    clock_is_read_once datedRules hreading (by decide) (by decide)
  rw [hnow] at hparse
  rw [hnow, htoday] at hreply
  exact ⟨hreading, hnow, htoday, ⟨now, hparse, helapsed⟩, (hreply true).trans rfl⟩

end Request

end RuleBench
