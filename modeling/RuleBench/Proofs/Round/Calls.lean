import RuleBench.Proofs.Round.Strictness
import RuleBench.Proofs.Round.Worker

set_option autoImplicit false

/-!
# The calls of a round

A round calls the engine for one rule after the other, first to read all expressions and then to
evaluate those that it has read.  The first call that ends the round decides the reply, and no call
is made after it; where the request cannot be read, none is made at all.
-/

namespace RuleBench

/-! ## Reading a request -/

structure Request.Decodes (r : Request) (round : Round) : Prop where
  now : Calendar.Instant.parse r.now.toList = .ok round.now
  today : Calendar.Date.parse r.today.toList = .ok round.today
  current : Json.parse r.currentData = .ok round.current
  previous : Json.parse r.previousData = .ok round.previous

/-- The first part of a request that cannot be read, and why. -/
inductive Request.Unreadable (r : Request) : String → Prop where
  | now {f : Calendar.Fault} (h : Calendar.Instant.parse r.now.toList = .error f) :
    Unreadable r ("invalid now " ++ Text.quoted r.now ++ ": " ++ f.message)
  | today {now : Calendar.Instant} {f : Calendar.Fault}
    (hnow : Calendar.Instant.parse r.now.toList = .ok now)
    (h : Calendar.Date.parse r.today.toList = .error f) :
    Unreadable r ("invalid today " ++ Text.quoted r.today ++ ": " ++ f.message)
  | current {now : Calendar.Instant} {today : Calendar.Date} {f : Json.Fault}
    (hnow : Calendar.Instant.parse r.now.toList = .ok now)
    (htoday : Calendar.Date.parse r.today.toList = .ok today)
    (h : Json.parse r.currentData = .error f) : Unreadable r ("current data: " ++ f.message)
  | previous {now : Calendar.Instant} {today : Calendar.Date} {current : Json} {f : Json.Fault}
    (hnow : Calendar.Instant.parse r.now.toList = .ok now)
    (htoday : Calendar.Date.parse r.today.toList = .ok today)
    (hcurrent : Json.parse r.currentData = .ok current)
    (h : Json.parse r.previousData = .error f) : Unreadable r ("previous data: " ++ f.message)

namespace Request

variable {r : Request} {round : Round} {message : String}

theorem Decodes.ofRequest_eq (h : r.Decodes round) : Round.ofRequest r = .ok round := by
  simp only [Round.ofRequest, h.now, h.today, h.current, h.previous]
  rfl

theorem Unreadable.ofRequest_eq (h : r.Unreadable message) :
    Round.ofRequest r = .error message := by
  unfold Round.ofRequest
  cases h with
  | now h =>
    rw [h]
    rfl
  | today hnow h =>
    rw [hnow, h]
    rfl
  | current hnow htoday h =>
    rw [hnow, htoday, h]
    rfl
  | previous hnow htoday hcurrent h =>
    rw [hnow, htoday, hcurrent, h]
    rfl

theorem decodes_or_unreadable (r : Request) :
    (∃ round, r.Decodes round) ∨ ∃ message, r.Unreadable message := by
  cases hnow : Calendar.Instant.parse r.now.toList with
  | error f => exact .inr ⟨_, .now hnow⟩
  | ok now =>
    cases htoday : Calendar.Date.parse r.today.toList with
    | error f => exact .inr ⟨_, .today hnow htoday⟩
    | ok today =>
      cases hcurrent : Json.parse r.currentData with
      | error f => exact .inr ⟨_, .current hnow htoday hcurrent⟩
      | ok current =>
        cases hprevious : Json.parse r.previousData with
        | error f => exact .inr ⟨_, .previous hnow htoday hcurrent hprevious⟩
        | ok previous =>
          exact .inl ⟨⟨current, previous, now, today⟩, hnow, htoday, hcurrent, hprevious⟩

theorem exists_unreadable_iff : (∃ message, r.Unreadable message) ↔ ¬ ∃ round, r.Decodes round := by
  refine ⟨?_, fun hno => r.decodes_or_unreadable.resolve_left hno⟩
  rintro ⟨message, hno⟩ ⟨round, h⟩
  cases h.ofRequest_eq.symm.trans hno.ofRequest_eq

theorem decodes_iff : r.Decodes round ↔ Round.ofRequest r = .ok round := by
  refine ⟨Decodes.ofRequest_eq, fun hround => ?_⟩
  rcases r.decodes_or_unreadable with ⟨round', h⟩ | ⟨message, h⟩
  · exact Except.ok.inj (h.ofRequest_eq.symm.trans hround) ▸ h
  · cases h.ofRequest_eq.symm.trans hround

end Request

/-! ## Calls -/

/-- A call of an engine and how it ends. -/
inductive Engine.Call (α : Type) where
  | parse (r : ListedRule) (ending : Attempt α)
  | evaluate (r : ListedRule) (e : α) (locals : Bindings) (ending : Attempt Json)

namespace Engine

variable {α : Type}

namespace Call

/-- The reply with which a call ends its round, if it does. -/
def reply? (strict : Bool) : Call α → Option Reply
  | .parse _ (.broken text) => some (.unknown text)
  | .parse r (.refused message) =>
    if strict then some (.failure (.badExpression (r.field ++ ": " ++ message))) else none
  | .parse _ (.done _) => none
  | .evaluate _ _ _ (.broken text) => some (.unknown text)
  | .evaluate r _ _ (.refused message) =>
    if strict then some (.failure (.failedExpression (r.field ++ ": " ++ message))) else none
  | .evaluate _ _ _ (.done _) => none

def isBroken : Call α → Bool
  | .parse _ ending => ending.isBroken
  | .evaluate _ _ _ ending => ending.isBroken

variable {strict : Bool} {c : Call α}

theorem isBroken_of_reply? {text : Option String} (h : c.reply? strict = some (.unknown text)) :
    c.isBroken = true := by
  cases c with
  | parse _ ending | evaluate _ _ _ ending =>
    cases ending with
    | done _ => cases h
    | refused _ => cases strict <;> cases h
    | broken _ => rfl

theorem reply?_ne_unreadable (message : String) :
    c.reply? strict ≠ some (.failure (.unreadable message)) := by
  intro h
  cases c with
  | parse _ ending | evaluate _ _ _ ending =>
    cases ending with
    | done _ | broken _ => cases h
    | refused _ => cases strict <;> cases h

theorem reply?_lenient (h : c.isBroken = false) : c.reply? false = none := by
  cases c with
  | parse _ ending | evaluate _ _ _ ending =>
    cases ending with
    | done _ | refused _ => rfl
    | broken _ => cases h

end Call

/-- What is bound behind a rule that has been evaluated. -/
def boundAfter (r : ListedRule) (ending : Attempt Json) (locals : Bindings) : Bindings :=
  match ending with
  | .done v => EvaluationUnit.bind r v locals
  | _ => locals

/-- The calls that evaluate rules, each with what is bound by those before it. -/
def evaluations (engine : Engine α) (round : Round) : List (ReadRule α) → Bindings → List (Call α)
  | [], _ => []
  | ⟨r, e⟩ :: rest, locals =>
    let ending :=
      engine.evaluate e ⟨round.current, round.previous, locals, round.now, round.today⟩
    .evaluate r e locals ending :: evaluations engine round rest (boundAfter r ending locals)

/-- The calls of a round that goes through all of them, whatever they come to. -/
def calls (engine : Engine α) (round : Round) (rules : List ListedRule) : List (Call α) :=
  (rules.map fun r => .parse r (engine.parse r.expression)) ++
    evaluations engine round (EvaluationUnit.readable engine rules) []

theorem isBroken_of_mem_evaluations {engine : Engine α} (sound : engine.IsSound) {round : Round}
    {read : List (ReadRule α)} {locals : Bindings} {c : Call α}
    (h : c ∈ evaluations engine round read locals) : c.isBroken = false := by
  induction read generalizing locals with
  | nil => cases h
  | cons q rest ih =>
    cases h with
    | head => exact sound.2 _ _
    | tail _ h => exact ih h

theorem isBroken_of_mem_calls {engine : Engine α} (sound : engine.IsSound) {round : Round}
    {rules : List ListedRule} {c : Call α} (h : c ∈ engine.calls round rules) :
    c.isBroken = false := by
  rcases List.mem_append.mp h with h | h
  · obtain ⟨r, -, rfl⟩ := List.mem_map.mp h
    exact sound.1 r.expression
  · exact isBroken_of_mem_evaluations sound h

/-- `Verdict strict calls made reply`: of these calls those up to the first that ends the round are
made, and the reply is its reply; where none ends the round, all are made. -/
inductive Verdict (strict : Bool) : List (Call α) → List (Call α) → Reply → Prop where
  | success (o : Outcomes) : Verdict strict [] [] (.success o)
  | ends {c : Call α} {reply : Reply} (h : c.reply? strict = some reply) (rest : List (Call α)) :
    Verdict strict (c :: rest) [c] reply
  | goesOn {c : Call α} {rest made : List (Call α)} {reply : Reply} (h : c.reply? strict = none)
    (hrest : Verdict strict rest made reply) : Verdict strict (c :: rest) (c :: made) reply

namespace Verdict

variable {strict : Bool} {calls made before after : List (Call α)} {c : Call α}
  {reply reply' : Reply}

theorem of_first (h : Verdict strict (before ++ c :: after) made reply)
    (hbefore : ∀ d ∈ before, d.reply? strict = none) (hc : c.reply? strict = some reply') :
    made = before ++ [c] ∧ reply = reply' := by
  induction before generalizing made with
  | nil =>
    cases h with
    | ends hc' => exact ⟨rfl, Option.some.inj (hc'.symm.trans hc)⟩
    | goesOn hno _ => cases hno.symm.trans hc
  | cons d before ih =>
    obtain ⟨hd, hbefore⟩ := List.forall_mem_cons.mp hbefore
    cases h with
    | ends hd' => cases hd.symm.trans hd'
    | goesOn _ hrest =>
      obtain ⟨rfl, rfl⟩ := ih hrest hbefore
      exact ⟨rfl, rfl⟩

theorem of_none (h : Verdict strict calls made reply)
    (hnone : ∀ c ∈ calls, c.reply? strict = none) : made = calls ∧ ∃ o, reply = .success o := by
  induction h with
  | success o => exact ⟨rfl, o, rfl⟩
  | ends hc => cases (hnone _ List.mem_cons_self).symm.trans hc
  | goesOn _ _ ih =>
    obtain ⟨rfl, o, rfl⟩ := ih fun d hd => hnone d (List.mem_cons_of_mem _ hd)
    exact ⟨rfl, o, rfl⟩

theorem success_or_ends (h : Verdict strict calls made reply) :
    (∃ o, reply = .success o) ∨ ∃ c ∈ made, c.reply? strict = some reply := by
  induction h with
  | success o => exact .inl ⟨o, rfl⟩
  | ends hc _ => exact .inr ⟨_, List.mem_singleton_self _, hc⟩
  | goesOn _ _ ih =>
    exact ih.imp_right fun ⟨c, hc, hends⟩ => ⟨c, List.mem_cons_of_mem _ hc, hends⟩

end Verdict

end Engine

/-! ## The calls that a round makes -/

namespace Stage

open Engine (Call Verdict boundAfter evaluations)
open EvaluationUnit (complaint readable)

variable {α : Type}

/-- The call that the next step of a round makes, if it makes one. -/
def call? (u : EvaluationUnit α) : Stage α → Option (Call α)
  | .reading _ _ (r :: _) _ _ => some (.parse r (u.engine.parse r.expression))
  | .evaluating _ round (⟨r, x⟩ :: _) _ locals =>
    some <| .evaluate r x locals <|
      u.engine.evaluate x ⟨round.current, round.previous, locals, round.now, round.today⟩
  | _ => none

/-- `Makes u s made a`: from this stage on a round makes these calls and comes to this answer.  With
two units of work nothing is left of it but to send the answer. -/
inductive Makes (u : EvaluationUnit α) : Stage α → List (Call α) → Envelope Reply → Prop where
  | answer (a : Envelope Reply) : Makes u (.answering a) [] a
  | step {s : Stage α} {made : List (Call α)} {a : Envelope Reply} (hs : 2 < s.work)
    (h : Makes u (s.next u) made a) : Makes u s ((s.call? u).toList ++ made) a

namespace Makes

variable {u : EvaluationUnit α} {s : Stage α} {made made' : List (Call α)} {a a' : Envelope Reply}

theorem silent (hs : 2 < s.work) (hc : s.call? u = none) (h : Makes u (s.next u) made a) :
    Makes u s made a := by
  have hstep := Makes.step hs h
  rwa [hc] at hstep

theorem call {c : Call α} (hs : 2 < s.work) (hc : s.call? u = some c)
    (h : Makes u (s.next u) made a) : Makes u s (c :: made) a := by
  have hstep := Makes.step hs h
  rwa [hc] at hstep

theorem answered {c : Call α} (hs : 2 < s.work) (hc : s.call? u = some c)
    (h : s.next u = .answering a) : Makes u s [c] a :=
  .call hs hc (h ▸ .answer a)

theorem unwound {c : Call α} {e : Envelope Request} {text : Option String} (hs : 2 < s.work)
    (hc : s.call? u = some c) (h : s.next u = .unwinding e text) :
    Makes u s [c] ⟨e.id, .unknown text⟩ :=
  .call hs hc (h ▸ .silent (by simp [work]) rfl (.answer _))

theorem unique (h : Makes u s made a) (h' : Makes u s made' a') : made = made' ∧ a = a' := by
  induction h generalizing made' a' with
  | answer a =>
    cases h' with
    | answer => exact ⟨rfl, rfl⟩
    | step hs _ => simp [work] at hs
  | step hs _ ih =>
    cases h' with
    | answer => simp [work] at hs
    | step _ h' =>
      obtain ⟨rfl, rfl⟩ := ih h'
      exact ⟨rfl, rfl⟩

theorem outcome_eq (h : Makes u s made a) : s.outcome u = some a := by
  induction h with
  | answer a => rfl
  | @step s _ _ _ _ ih => exact (s.outcome_next u).symm.trans ih

end Makes

variable (u : EvaluationUnit α) (e : Envelope Request) (round : Round)

/-- A call that evaluates a rule ends the round with its reply, or the round goes on behind it. -/
theorem evaluating_step (r : ListedRule) (x : α) (rest : List (ReadRule α)) (outputs : Outputs)
    (locals : Bindings) {ending : Attempt Json}
    (hx : u.engine.evaluate x (round.scope locals) = ending) :
    (∃ reply, (Call.evaluate r x locals ending).reply? u.strict = some reply ∧
      Makes u (.evaluating e round (⟨r, x⟩ :: rest) outputs locals) [.evaluate r x locals ending]
        ⟨e.id, reply⟩) ∨
    (Call.evaluate r x locals ending).reply? u.strict = none ∧
      ∃ outputs', (Stage.evaluating e round (⟨r, x⟩ :: rest) outputs locals).next u =
        .evaluating e round rest outputs' (boundAfter r ending locals) := by
  have hs : 2 < (Stage.evaluating e round (⟨r, x⟩ :: rest) outputs locals).work := by simp [work]
  have hc : (Stage.evaluating e round (⟨r, x⟩ :: rest) outputs locals).call? u =
      some (.evaluate r x locals ending) := by simp only [call?, hx]
  cases ending with
  | done v =>
    exact .inr ⟨rfl, Json.putMember r.id (.value v) outputs, by simp only [next, hx, boundAfter]⟩
  | broken text => exact .inl ⟨_, rfl, .unwound hs hc (by simp only [next, hx])⟩
  | refused message =>
    cases hstrict : u.strict with
    | false =>
      exact .inr ⟨rfl, Json.putMember r.id (.error message) outputs,
        by simp [next, hx, hstrict, boundAfter]⟩
    | true => exact .inl ⟨_, rfl, .answered hs hc (by simp [next, hx, hstrict, complaint])⟩

/-- A call that reads a rule ends the round with its reply, or the round goes on behind it. -/
theorem reading_step (r : ListedRule) (unread : List ListedRule) (read : List (ReadRule α))
    (outputs : Outputs) {ending : Attempt α} (hr : u.engine.parse r.expression = ending) :
    (∃ reply, (Call.parse r ending).reply? u.strict = some reply ∧
      Makes u (.reading e round (r :: unread) read outputs) [.parse r ending] ⟨e.id, reply⟩) ∨
    (Call.parse r ending).reply? u.strict = none ∧
      ∃ outputs', (Stage.reading e round (r :: unread) read outputs).next u =
        .reading e round unread (read ++ readable u.engine [r]) outputs' := by
  have hs : 2 < (Stage.reading e round (r :: unread) read outputs).work := by simp [work]
  have hc : (Stage.reading e round (r :: unread) read outputs).call? u =
      some (.parse r ending) := by simp only [call?, hr]
  cases ending with
  | done x => exact .inr ⟨rfl, outputs, by simp [next, hr, readable]⟩
  | broken text => exact .inl ⟨_, rfl, .unwound hs hc (by simp only [next, hr])⟩
  | refused message =>
    cases hstrict : u.strict with
    | false =>
      exact .inr ⟨rfl, Json.putMember r.id (.error message) outputs,
        by simp [next, hr, hstrict, readable]⟩
    | true => exact .inl ⟨_, rfl, .answered hs hc (by simp [next, hr, hstrict, complaint])⟩

/-- What is still to be evaluated is evaluated up to the first call that ends the round. -/
theorem exists_makes_evaluating (rest : List (ReadRule α)) (outputs : Outputs) (locals : Bindings) :
    ∃ made reply, Makes u (.evaluating e round rest outputs locals) made ⟨e.id, reply⟩ ∧
      Verdict u.strict (evaluations u.engine round rest locals) made reply := by
  induction rest generalizing outputs locals with
  | nil => exact ⟨[], _, .silent (by simp [work]) rfl (.answer _), .success ⟨outputs, locals⟩⟩
  | cons q rest ih =>
    obtain ⟨r, x⟩ := q
    rcases evaluating_step u e round r x rest outputs locals rfl with
      ⟨reply, hreply, hmakes⟩ | ⟨hnone, outputs', hnext⟩
    · exact ⟨_, reply, hmakes, .ends hreply _⟩
    · obtain ⟨made, reply, hmakes, hverdict⟩ := ih outputs' _
      exact ⟨_, reply, .call (by simp [work]) rfl (hnext ▸ hmakes), .goesOn hnone hverdict⟩

/-- What is still to be read is read, and then all that has been read is evaluated, up to the first
call that ends the round. -/
theorem exists_makes_reading (unread : List ListedRule) (read : List (ReadRule α))
    (outputs : Outputs) :
    ∃ made reply, Makes u (.reading e round unread read outputs) made ⟨e.id, reply⟩ ∧
      Verdict u.strict ((unread.map fun r => .parse r (u.engine.parse r.expression)) ++
        evaluations u.engine round (read ++ readable u.engine unread) []) made reply := by
  -- What has been read is evaluated only in the end, so the induction is for all of it.
  induction unread generalizing read outputs with
  | nil =>
    obtain ⟨made, reply, hmakes, hverdict⟩ := exists_makes_evaluating u e round read outputs []
    refine ⟨made, reply, .silent (by simp [work]) rfl hmakes, ?_⟩
    simpa [readable] using hverdict
  | cons r unread ih =>
    have hreadable : readable u.engine (r :: unread) =
        readable u.engine [r] ++ readable u.engine unread := List.filterMap_append (l := [r]) ..
    rcases reading_step u e round r unread read outputs rfl with
      ⟨reply, hreply, hmakes⟩ | ⟨hnone, outputs', hnext⟩
    · exact ⟨_, reply, hmakes, .ends hreply _⟩
    · obtain ⟨made, reply, hmakes, hverdict⟩ := ih (read ++ readable u.engine [r]) outputs'
      rw [List.append_assoc, ← hreadable] at hverdict
      exact ⟨_, reply, .call (by simp [work]) rfl (hnext ▸ hmakes), .goesOn hnone hverdict⟩

/-- A request that is read is gone through up to the first call that ends the round. -/
theorem exists_makes_decoding {round : Round} (h : e.payload.Decodes round) :
    ∃ made reply, Makes u (.decoding e) made ⟨e.id, reply⟩ ∧
      Verdict u.strict (u.engine.calls round e.payload.rules) made reply := by
  obtain ⟨made, reply, hmakes, hverdict⟩ := exists_makes_reading u e round e.payload.rules [] []
  refine ⟨made, reply, .silent (by simp [work]) rfl ?_, hverdict⟩
  simpa only [next, h.ofRequest_eq] using hmakes

theorem makes_of_unreadable {message : String} (h : e.payload.Unreadable message) :
    Makes u (.decoding e) [] ⟨e.id, .failure (.unreadable message)⟩ := by
  refine .silent (by simp [work]) rfl ?_
  simp only [next, h.ofRequest_eq]
  exact .answer _

/-- The answer that a round comes to is that of the unit. -/
theorem Makes.reply_eq {u : EvaluationUnit α} {e : Envelope Request} {made : List (Call α)}
    {reply : Reply} (h : Makes u (.decoding e) made ⟨e.id, reply⟩) : u.reply e.payload = reply :=
  congrArg Envelope.payload (Option.some.inj h.outcome_eq)

end Stage

/-- The reply by a result of which nothing has broken down. -/
def Reply.ofResult : Except Failure Outcomes → Reply
  | .ok o => .success o
  | .error f => .failure f

namespace EvaluationUnit

variable {α : Type}

variable (u : EvaluationUnit α) (n : Nat) {request : Request}

theorem reply_of_unreadable {message : String} (h : request.Unreadable message) :
    u.reply request = .failure (.unreadable message) :=
  (Stage.makes_of_unreadable u ⟨0, request⟩ h).reply_eq

theorem exists_made_of_decodes {round : Round} (h : request.Decodes round) :
    ∃ made, Stage.Makes u (.decoding ⟨n, request⟩) made ⟨n, u.reply request⟩ ∧
      Engine.Verdict u.strict (u.engine.calls round request.rules) made (u.reply request) := by
  obtain ⟨made, reply, hmakes, hverdict⟩ := Stage.exists_makes_decoding u ⟨n, request⟩ h
  have hreply : u.reply request = reply := hmakes.reply_eq
  exact ⟨made, hreply ▸ hmakes, hreply ▸ hverdict⟩

theorem reply_eq_unreadable_iff (message : String) :
    u.reply request = .failure (.unreadable message) ↔ request.Unreadable message := by
  refine ⟨fun hreply => ?_, u.reply_of_unreadable⟩
  rcases request.decodes_or_unreadable with ⟨round, h⟩ | ⟨message', h⟩
  · obtain ⟨made, -, hverdict⟩ := u.exists_made_of_decodes 0 h
    rw [hreply] at hverdict
    rcases hverdict.success_or_ends with ⟨o, ho⟩ | ⟨c, -, hc⟩
    · cases ho
    · exact absurd hc (Engine.Call.reply?_ne_unreadable message)
  · cases hreply.symm.trans (u.reply_of_unreadable h)
    exact h

/-- A reply that tells of a breakdown follows on a call that breaks down. -/
theorem exists_made (request : Request) :
    ∃ made, Stage.Makes u (.decoding ⟨n, request⟩) made ⟨n, u.reply request⟩ ∧
      ∀ text, u.reply request = .unknown text → ∃ c ∈ made, c.isBroken = true := by
  rcases request.decodes_or_unreadable with ⟨round, h⟩ | ⟨message, h⟩
  · obtain ⟨made, hmakes, hverdict⟩ := u.exists_made_of_decodes n h
    refine ⟨made, hmakes, fun text htext => ?_⟩
    rw [htext] at hverdict
    rcases hverdict.success_or_ends with ⟨o, ho⟩ | ⟨c, hmem, hc⟩
    · cases ho
    · exact ⟨c, hmem, Engine.Call.isBroken_of_reply? hc⟩
  · have hreply := u.reply_of_unreadable h
    refine ⟨[], hreply ▸ Stage.makes_of_unreadable u ⟨n, request⟩ h, fun text htext => ?_⟩
    cases hreply.symm.trans htext

theorem exists_result {u : EvaluationUnit α} (h : ∀ text, u.reply request ≠ .unknown text) :
    ∃ result : Except Failure Outcomes, u.run request = result.mapError .failure ∧
      u.reply request = .ofResult result := by
  simp only [u.reply_eq] at h ⊢
  cases hrun : u.run request with
  | ok o => exact ⟨.ok o, rfl, rfl⟩
  | error stop =>
    cases stop with
    | failure f => exact ⟨.error f, rfl, rfl⟩
    | broken text => exact absurd (congrArg replyOf hrun) (h text)

theorem succeeds_iff_decodes {u : EvaluationUnit α} (sound : u.engine.IsSound)
    (lenient : u.strict = false) :
    (∃ o, u.reply request = .success o) ↔ ∃ round, request.Decodes round := by
  refine ⟨fun ⟨o, ho⟩ => ?_, fun ⟨round, h⟩ => ?_⟩
  · refine request.decodes_or_unreadable.resolve_right fun ⟨message, h⟩ => ?_
    cases ho.symm.trans (u.reply_of_unreadable h)
  · obtain ⟨made, -, hverdict⟩ := u.exists_made_of_decodes 0 h
    refine (hverdict.of_none fun c hc => ?_).2
    exact lenient ▸ Engine.Call.reply?_lenient (Engine.isBroken_of_mem_calls sound hc)

/-- A request that cannot be read is answered with what is wrong with it, and the engine is not
called.  Otherwise the first call that ends the round decides the reply and is the last one, and
where no call ends it, all are made and the round succeeds.  Where no call breaks down, the reply is
that of the result; a lenient round of the expressions of this library succeeds whenever the request
can be read. -/
theorem first_event_decides (request : Request) :
    (∀ message, u.reply request = .failure (.unreadable message) ↔ request.Unreadable message) ∧
    ((∃ message, request.Unreadable message) ↔ ¬ ∃ round, request.Decodes round) ∧
    (∀ message, request.Unreadable message →
      Stage.Makes u (.decoding ⟨n, request⟩) [] ⟨n, .failure (.unreadable message)⟩) ∧
    (∀ round, request.Decodes round →
      (∀ before c after reply, u.engine.calls round request.rules = before ++ c :: after →
        (∀ d ∈ before, d.reply? u.strict = none) → c.reply? u.strict = some reply →
        u.reply request = reply ∧
          Stage.Makes u (.decoding ⟨n, request⟩) (before ++ [c]) ⟨n, reply⟩) ∧
      ((∀ c ∈ u.engine.calls round request.rules, c.reply? u.strict = none) →
        ∃ o, u.reply request = .success o ∧
          Stage.Makes u (.decoding ⟨n, request⟩) (u.engine.calls round request.rules)
            ⟨n, .success o⟩)) ∧
    (∃ made, Stage.Makes u (.decoding ⟨n, request⟩) made ⟨n, u.reply request⟩ ∧
      (∀ made' a, Stage.Makes u (.decoding ⟨n, request⟩) made' a →
        made' = made ∧ a = ⟨n, u.reply request⟩) ∧
      ((∀ c ∈ made, c.isBroken = false) →
        ∃ result : Except Failure Outcomes, u.run request = result.mapError .failure ∧
          u.reply request = .ofResult result)) ∧
    ((∃ o, (⟨.basic, false⟩ : EvaluationUnit Expr).reply request = .success o) ↔
      ∃ round, request.Decodes round) := by
  refine ⟨u.reply_eq_unreadable_iff, Request.exists_unreadable_iff,
    fun message h => Stage.makes_of_unreadable u ⟨n, request⟩ h,
    fun round h => ⟨fun before c after reply hcalls hbefore hc => ?_, fun hnone => ?_⟩, ?_,
    succeeds_iff_decodes Engine.isSound_basic rfl⟩
  · obtain ⟨made, hmakes, hverdict⟩ := u.exists_made_of_decodes n h
    rw [hcalls] at hverdict
    obtain ⟨rfl, hreply⟩ := hverdict.of_first hbefore hc
    exact ⟨hreply, hreply ▸ hmakes⟩
  · obtain ⟨made, hmakes, hverdict⟩ := u.exists_made_of_decodes n h
    obtain ⟨rfl, o, ho⟩ := hverdict.of_none hnone
    exact ⟨o, ho, ho ▸ hmakes⟩
  · obtain ⟨made, hmakes, hbroken⟩ := u.exists_made n request
    refine ⟨made, hmakes, fun made' a h => h.unique hmakes, fun hsound => ?_⟩
    refine exists_result fun text htext => ?_
    obtain ⟨c, hmem, hc⟩ := hbroken text htext
    cases (hsound c hmem).symm.trans hc

/-- Three rules, of which the second has no value in the round of a brittle unit, and the third
breaks it down. -/
def fading : Request where
  rules := [⟨⟨"a", .accept, "fine", ""⟩, "1"⟩, ⟨⟨"b", .accept, "fail", ""⟩, "2"⟩,
    ⟨⟨"c", .accept, "fade", ""⟩, "3"⟩]
  currentData := "null"
  previousData := "null"
  now := "2024-01-01T00:00:00Z"
  today := "2024-01-01"

/-- The third rule is read, but its value is never asked for.  Without a date nothing is read, and
lenience helps against no breakdown. -/
theorem failure_forestalls_breakdown :
    Worker.brittle.reply fading = .failure (.failedExpression "b: no value") ∧
    Worker.brittle.reply { fading with today := "" } = .failure
      (.unreadable ("invalid today " ++ Text.quoted "" ++ ": " ++ "premature end of input")) ∧
    (⟨Worker.brittle.engine, false⟩ : EvaluationUnit String).reply fading = .unknown none := by
  have hreads : fading.Decodes ⟨.null, .null, ⟨⟨2024, 1, 1, by decide⟩, 0, 0, 0⟩,
    ⟨2024, 1, 1, by decide⟩⟩ := ⟨rfl, rfl, rfl, rfl⟩
  have hno : Request.Unreadable { fading with today := "" }
      ("invalid today " ++ Text.quoted "" ++ ": " ++ "premature end of input") :=
    .today (f := .tooShort) rfl rfl
  have hstrict := first_event_decides Worker.brittle 7 fading
  have hundated := first_event_decides Worker.brittle 7 { fading with today := "" }
  have hlenient := first_event_decides ⟨Worker.brittle.engine, false⟩ 7 fading
  exact ⟨((hstrict.2.2.2.1 _ hreads).1 [_, _, _, _] _ [_] _ rfl (by decide) rfl).1,
    (hundated.1 _).mpr hno,
    ((hlenient.2.2.2.1 _ hreads).1 [_, _, _, _, _] _ [] _ rfl (by decide) rfl).1⟩

end EvaluationUnit

end RuleBench
