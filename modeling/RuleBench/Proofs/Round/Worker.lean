import Mathlib.Algebra.GroupWithZero.Nat
import Mathlib.Logic.Function.Iterate
import RuleBench.Round.Unit

set_option autoImplicit false

/-!
# A unit that works by itself

A worker takes requests from a queue and goes through each round in single steps, every call of the
engine being one.  Meanwhile requests are sent, the queue may be closed, and those who listen for
replies may go away, at any time.  The replies are those of `EvaluationUnit.serve`, whatever the
engine does in a round.
-/

namespace RuleBench

/-- Where a worker stands.  What a round has gathered goes with the round. -/
inductive Stage (α : Type) where
  | waiting
  | decoding (e : Envelope Request)
  | reading (e : Envelope Request) (round : Round) (unread : List ListedRule)
      (read : List (ReadRule α)) (outputs : Outputs)
  | evaluating (e : Envelope Request) (round : Round) (rest : List (ReadRule α))
      (outputs : Outputs) (locals : Bindings)
  /-- The engine has broken down, which has not been caught yet. -/
  | unwinding (e : Envelope Request) (text : Option String)
  | answering (answer : Envelope Reply)
  | ended

structure Worker (α : Type) where
  stage : Stage α
  /-- The requests that have not been taken, first sent first. -/
  requests : List (Envelope Request)
  /-- More requests may be sent. -/
  isOpen : Bool
  /-- The replies sent, first sent first. -/
  replies : List (Envelope Reply)
  /-- Somebody listens for replies. -/
  listens : Bool

variable {α : Type}

/-- One step of a round. -/
def Stage.next (u : EvaluationUnit α) : Stage α → Stage α
  | .decoding e =>
    match Round.ofRequest e.payload with
    | .ok round => .reading e round e.payload.rules [] []
    | .error message => .answering ⟨e.id, .failure (.unreadable message)⟩
  | .reading e round [] read outputs => .evaluating e round read outputs []
  | .reading e round (r :: unread) read outputs =>
    match u.engine.parse r.expression with
    | .done x => .reading e round unread (read ++ [⟨r, x⟩]) outputs
    | .refused message =>
      if u.strict then
        .answering ⟨e.id, .failure (.badExpression (EvaluationUnit.complaint r message))⟩
      else .reading e round unread read (Json.putMember r.id (.error message) outputs)
    | .broken text => .unwinding e text
  | .evaluating e _ [] outputs locals => .answering ⟨e.id, .success ⟨outputs, locals⟩⟩
  | .evaluating e round (⟨r, x⟩ :: rest) outputs locals =>
    match u.engine.evaluate x ⟨round.current, round.previous, locals, round.now, round.today⟩ with
    | .done v =>
      .evaluating e round rest (Json.putMember r.id (.value v) outputs)
        (EvaluationUnit.bind r v locals)
    | .refused message =>
      if u.strict then
        .answering ⟨e.id, .failure (.failedExpression (EvaluationUnit.complaint r message))⟩
      else .evaluating e round rest (Json.putMember r.id (.error message) outputs) locals
    | .broken text => .unwinding e text
  | .unwinding e text => .answering ⟨e.id, .unknown text⟩
  | other => other

namespace Worker

def start : Worker α := ⟨.waiting, [], true, [], true⟩

/-- One step of a worker: it takes a request, goes on with a round or sends a reply.  It ends when
no request can come any more, or when nobody takes its reply. -/
def step (u : EvaluationUnit α) (w : Worker α) : Worker α :=
  match w.stage with
  | .waiting =>
    match w.requests with
    | e :: rest => { w with stage := .decoding e, requests := rest }
    | [] => if w.isOpen then w else { w with stage := .ended }
  | .answering answer =>
    if w.listens then { w with stage := .waiting, replies := w.replies ++ [answer] }
    else { w with stage := .ended }
  | stage => { w with stage := stage.next u }

inductive Action where
  | send (e : Envelope Request)
  /-- No more requests will be sent. -/
  | close
  /-- Nobody listens any more. -/
  | leave
  | step

def act (u : EvaluationUnit α) (w : Worker α) : Action → Worker α
  | .send e => { w with requests := w.requests ++ [e] }
  | .close => { w with isOpen := false }
  | .leave => { w with listens := false }
  | .step => w.step u

def Permits (w : Worker α) : Action → Prop
  | .send _ => w.isOpen = true
  | _ => True

def Action.sent : Action → List (Envelope Request)
  | .send e => [e]
  | _ => []

/-- `Run u sent w`: these requests have been sent, in this order, and whatever has gone on in the
meantime has led to `w`. -/
inductive Run (u : EvaluationUnit α) : List (Envelope Request) → Worker α → Prop where
  | start : Run u [] start
  | step {sent : List (Envelope Request)} {w : Worker α} (h : Run u sent w) (a : Action)
      (ok : w.Permits a) : Run u (sent ++ a.sent) (w.act u a)

end Worker

/-! ## What a round comes to -/

namespace EvaluationUnit

/-- The reply to a request by how its round has ended. -/
def replyOf : Except Stop Outcomes → Reply
  | .ok o => .success o
  | .error (.failure f) => .failure f
  | .error (.broken text) => .unknown text

theorem reply_eq (u : EvaluationUnit α) (request : Request) :
    u.reply request = replyOf (u.run request) := by
  unfold reply
  rcases u.run request with (_ | _) | _ <;> rfl

def answerTo (u : EvaluationUnit α) (e : Envelope Request) : Envelope Reply :=
  ⟨e.id, u.reply e.payload⟩

theorem serve_append (u : EvaluationUnit α) (requests more : List (Envelope Request)) :
    u.serve (requests ++ more) = u.serve requests ++ u.serve more :=
  List.map_append

end EvaluationUnit

namespace Stage

open EvaluationUnit (replyOf answerTo)

/-- What the round under way comes to, told from where it stands. -/
def outcome (u : EvaluationUnit α) : Stage α → Option (Envelope Reply)
  | .waiting => none
  | .decoding e => some (answerTo u e)
  | .reading e round unread read outputs =>
    some ⟨e.id, replyOf (u.readRules unread outputs >>= fun (more, outputs) =>
      u.evaluateRules round (read ++ more) outputs [])⟩
  | .evaluating e round rest outputs locals =>
    some ⟨e.id, replyOf (u.evaluateRules round rest outputs locals)⟩
  | .unwinding e text => some ⟨e.id, .unknown text⟩
  | .answering answer => some answer
  | .ended => none

/-- No step of a round changes what it comes to. -/
theorem outcome_next (u : EvaluationUnit α) (s : Stage α) : (s.next u).outcome u = s.outcome u := by
  cases s with
  | waiting | unwinding _ _ | answering _ | ended => rfl
  | decoding e =>
    simp only [next, outcome, answerTo, EvaluationUnit.reply_eq, EvaluationUnit.run]
    cases Round.ofRequest e.payload <;> rfl
  | reading e round unread read outputs =>
    cases unread with
    | nil =>
      simp only [next, outcome, EvaluationUnit.readRules, bind, Except.bind, List.append_nil]
    | cons r unread =>
      simp only [next, outcome, EvaluationUnit.readRules]
      cases u.engine.parse r.expression with
      | done x =>
        cases hread : u.readRules unread outputs <;>
          simp [hread, bind, Except.bind, pure, Except.pure]
      | refused message => cases u.strict <;> rfl
      | broken text => rfl
  | evaluating e round rest outputs locals =>
    cases rest with
    | nil => rfl
    | cons p rest =>
      obtain ⟨r, x⟩ := p
      simp only [next, outcome, EvaluationUnit.evaluateRules]
      cases u.engine.evaluate x (round.scope locals) with
      | done v => rfl
      | refused message => cases u.strict <;> rfl
      | broken text => rfl

/-- How many steps may be taken before the next request is. -/
def work : Stage α → Nat
  | .waiting => 1
  | .decoding e => 2 * e.payload.rules.length + 6
  | .reading _ _ unread read _ => 2 * unread.length + read.length + 5
  | .evaluating _ _ rest _ _ => rest.length + 4
  | .unwinding _ _ => 3
  | .answering _ => 2
  | .ended => 0

theorem work_next_lt (u : EvaluationUnit α) {s : Stage α} (h : 2 < s.work) :
    (s.next u).work < s.work := by
  cases s with
  | waiting | answering _ | ended => simp [work] at h
  | unwinding _ _ => simp [next, work]
  | decoding e =>
    simp only [next]
    cases Round.ofRequest e.payload <;> simp [work]
  | reading e round unread read outputs =>
    cases unread with
    | nil => simp [next, work]
    | cons r unread =>
      simp only [next]
      cases u.engine.parse r.expression with
      | done x =>
        simp only [work, List.length_append, List.length_cons, List.length_nil]
        omega
      | refused message => cases u.strict <;> simp [work]
      | broken text => simp [work]
  | evaluating e round rest outputs locals =>
    cases rest with
    | nil => simp [next, work]
    | cons p rest =>
      obtain ⟨r, x⟩ := p
      simp only [next]
      cases u.engine.evaluate x (round.scope locals) with
      | done v => simp [work]
      | refused message => cases u.strict <;> simp [work]
      | broken text => simp [work]

theorem ne_ended {s : Stage α} (h : 2 < s.work) : s ≠ .ended := by
  rintro rfl
  simp [work] at h

theorem next_ne_ended (u : EvaluationUnit α) {s : Stage α} (h : 2 < s.work) :
    s.next u ≠ .ended := by
  intro hended
  have hout := s.outcome_next u
  rw [hended] at hout
  cases s with
  | waiting | answering _ | ended => simp [work] at h
  | decoding _ | reading _ _ _ _ _ | evaluating _ _ _ _ _ | unwinding _ _ =>
    simp [outcome] at hout

end Stage

namespace Worker

open EvaluationUnit (answerTo)

variable {u : EvaluationUnit α} {sent : List (Envelope Request)} {w : Worker α}

/-- The worker has ended, or waits for a request that may still come. -/
def IsAtRest (w : Worker α) : Prop :=
  w.stage = .ended ∨ (w.stage = .waiting ∧ w.requests = [] ∧ w.isOpen = true)

/-- What one step may do. -/
inductive Moves (u : EvaluationUnit α) (w : Worker α) : Worker α → Prop where
  | rest (h : w.IsAtRest) : Moves u w w
  | take {e : Envelope Request} {rest : List (Envelope Request)} (hs : w.stage = .waiting)
      (hr : w.requests = e :: rest) :
      Moves u w { w with stage := .decoding e, requests := rest }
  | goOn (hs : 2 < w.stage.work) : Moves u w { w with stage := w.stage.next u }
  | send {answer : Envelope Reply} (hs : w.stage = .answering answer) (hl : w.listens = true) :
      Moves u w { w with stage := .waiting, replies := w.replies ++ [answer] }
  | giveUp {answer : Envelope Reply} (hs : w.stage = .answering answer) (hl : w.listens = false) :
      Moves u w { w with stage := .ended }
  | finish (hs : w.stage = .waiting) (hr : w.requests = []) (ho : w.isOpen = false) :
      Moves u w { w with stage := .ended }

theorem moves_step (u : EvaluationUnit α) (w : Worker α) : Moves u w (w.step u) := by
  obtain ⟨stage, requests, isOpen, replies, listens⟩ := w
  cases stage with
  | waiting =>
    cases requests with
    | cons e rest => exact .take rfl rfl
    | nil =>
      cases isOpen with
      | true => exact .rest (.inr ⟨rfl, rfl, rfl⟩)
      | false => exact .finish rfl rfl rfl
  | answering answer =>
    cases listens with
    | true => exact .send rfl rfl
    | false => exact .giveUp rfl rfl
  | ended => exact .rest (.inl rfl)
  | decoding _ | reading _ _ _ _ _ | evaluating _ _ _ _ _ | unwinding _ _ =>
    exact .goOn (by simp [Stage.work])

theorem Moves.isOpen_eq {w' : Worker α} (h : Moves u w w') : w'.isOpen = w.isOpen := by
  cases h <;> rfl

theorem Moves.listens_eq {w' : Worker α} (h : Moves u w w') : w'.listens = w.listens := by
  cases h <;> rfl

/-! ## What every run keeps -/

/-- These are the requests that have not been answered: that of the round under way, which comes to
the answer of the unit, and those that have not been taken.  A worker that has ended leaves
some unanswered only where nobody listens. -/
structure Owes (u : EvaluationUnit α) (w : Worker α) (rest : List (Envelope Request)) : Prop where
  active : w.stage ≠ .ended → ∃ hand : Option (Envelope Request),
    rest = hand.toList ++ w.requests ∧ w.stage.outcome u = hand.map (answerTo u)
  ended : w.stage = .ended → w.listens = true → w.isOpen = false ∧ rest = []

theorem Owes.eq_nil {rest : List (Envelope Request)} (h : w.Owes u rest) (hrest : w.IsAtRest)
    (hl : w.listens = true) : rest = [] := by
  rcases hrest with hs | ⟨hs, hr, -⟩
  · exact (h.ended hs hl).2
  · obtain ⟨hand, rfl, hout⟩ := h.active (hs ▸ nofun)
    rw [hs] at hout
    cases hand with
    | none => exact hr
    | some e => cases hout

/-- The requests sent are those answered and those owed. -/
def Kept (u : EvaluationUnit α) (sent : List (Envelope Request)) (w : Worker α) : Prop :=
  ∃ answered rest, sent = answered ++ rest ∧ w.replies = u.serve answered ∧ w.Owes u rest

namespace Kept

theorem start (u : EvaluationUnit α) : Kept u [] start :=
  ⟨[], [], rfl, rfl, fun _ => ⟨none, rfl, rfl⟩, nofun⟩

theorem move {w' : Worker α} (h : Kept u sent w) (hm : Moves u w w') : Kept u sent w' := by
  obtain ⟨answered, rest, rfl, hreplies, howes⟩ := h
  cases hm with
  | rest _ => exact ⟨answered, rest, rfl, hreplies, howes⟩
  | @take e queued hs hr =>
    obtain ⟨hand, rfl, hout⟩ := howes.active (hs ▸ nofun)
    rw [hs] at hout
    cases hand with
    | none => exact ⟨answered, _, rfl, hreplies, fun _ => ⟨some e, hr, rfl⟩, nofun⟩
    | some _ => cases hout
  | goOn hs =>
    obtain ⟨hand, hrest, hout⟩ := howes.active (Stage.ne_ended hs)
    rw [← w.stage.outcome_next u] at hout
    exact ⟨answered, rest, rfl, hreplies, fun _ => ⟨hand, hrest, hout⟩,
      fun hended => absurd hended (Stage.next_ne_ended u hs)⟩
  | @send answer hs hl =>
    obtain ⟨hand, rfl, hout⟩ := howes.active (hs ▸ nofun)
    rw [hs] at hout
    cases hand with
    | none => cases hout
    | some e =>
      obtain rfl := Option.some.inj hout
      refine ⟨answered ++ [e], w.requests, by simp, ?_, fun _ => ⟨none, rfl, rfl⟩, nofun⟩
      rw [u.serve_append, ← hreplies]
      rfl
  | giveUp hs hl =>
    refine ⟨answered, rest, rfl, hreplies, fun hno => absurd rfl hno, fun _ hlistens => ?_⟩
    cases hl.symm.trans hlistens
  | finish hs hr ho =>
    obtain ⟨hand, rfl, hout⟩ := howes.active (hs ▸ nofun)
    rw [hs] at hout
    cases hand with
    | none => exact ⟨answered, _, rfl, hreplies, fun hno => absurd rfl hno, fun _ _ => ⟨ho, hr⟩⟩
    | some _ => cases hout

theorem act (h : Kept u sent w) {a : Action} (ok : w.Permits a) :
    Kept u (sent ++ a.sent) (w.act u a) := by
  cases a with
  | step =>
    simp only [Action.sent, List.append_nil]
    exact h.move (w.moves_step u)
  | send e =>
    obtain ⟨answered, rest, rfl, hreplies, howes⟩ := h
    refine ⟨answered, rest ++ [e], List.append_assoc _ _ _, hreplies, fun hs => ?_, fun hs hl => ?_⟩
    · obtain ⟨hand, rfl, hout⟩ := howes.active hs
      exact ⟨hand, List.append_assoc _ _ _, hout⟩
    · cases (howes.ended hs hl).1.symm.trans ok
  | close =>
    obtain ⟨answered, rest, rfl, hreplies, howes⟩ := h
    exact ⟨answered, rest, List.append_nil _, hreplies, howes.active,
      fun hs hl => ⟨rfl, (howes.ended hs hl).2⟩⟩
  | leave =>
    obtain ⟨answered, rest, rfl, hreplies, howes⟩ := h
    exact ⟨answered, rest, List.append_nil _, hreplies, howes.active, nofun⟩

theorem run (h : Run u sent w) : Kept u sent w := by
  induction h with
  | start => exact .start u
  | step _ a ok ih => exact ih.act ok

end Kept

/-! ## Coming to rest -/

/-- How many steps a worker may take before it is at rest. -/
def work (w : Worker α) : Nat :=
  w.stage.work + (w.requests.map fun e => 2 * e.payload.rules.length + 6).sum

theorem Moves.work_lt {w' : Worker α} (h : Moves u w w') (busy : ¬ w.IsAtRest) :
    w'.work < w.work := by
  cases h with
  | rest h => exact absurd h busy
  | take hs hr =>
    simp only [work, hs, hr, Stage.work, List.map_cons, List.sum_cons]
    omega
  | goOn hs => exact Nat.add_lt_add_right (Stage.work_next_lt u hs) _
  | send hs _ | giveUp hs _ | finish hs _ _ =>
    simp only [work, hs, Stage.work]
    omega

theorem exists_isAtRest (u : EvaluationUnit α) (w : Worker α) :
    ∃ n, IsAtRest ((step u)^[n] w) := by
  induction hn : w.work using Nat.strongRecOn generalizing w with
  | ind k ih =>
    by_cases hrest : w.IsAtRest
    · exact ⟨0, hrest⟩
    · obtain ⟨n, h⟩ := ih (w.step u).work (hn ▸ (w.moves_step u).work_lt hrest) (w.step u) rfl
      exact ⟨n + 1, h⟩

theorem Run.iterate (h : Run u sent w) (n : Nat) : Run u sent ((Worker.step u)^[n] w) := by
  induction n generalizing w with
  | zero => exact h
  | succ n ih =>
    have hstep := h.step .step trivial
    simp only [Action.sent, List.append_nil] at hstep
    exact ih hstep

theorem iterate_isOpen (u : EvaluationUnit α) (w : Worker α) (n : Nat) :
    ((Worker.step u)^[n] w).isOpen = w.isOpen := by
  induction n generalizing w with
  | zero => rfl
  | succ n ih => exact (ih (w.step u)).trans (w.moves_step u).isOpen_eq

theorem iterate_listens (u : EvaluationUnit α) (w : Worker α) (n : Nat) :
    ((Worker.step u)^[n] w).listens = w.listens := by
  induction n generalizing w with
  | zero => rfl
  | succ n ih => exact (ih (w.step u)).trans (w.moves_step u).listens_eq

theorem Run.replies_prefix (h : Run u sent w) : w.replies <+: u.serve sent := by
  obtain ⟨answered, rest, rfl, hreplies, -⟩ := Kept.run h
  rw [u.serve_append, hreplies]
  exact List.prefix_append _ _

theorem Run.isOpen_of_ended (h : Run u sent w) (hl : w.listens = true) (hs : w.stage = .ended) :
    w.isOpen = false := by
  obtain ⟨answered, rest, -, -, howes⟩ := Kept.run h
  exact (howes.ended hs hl).1

theorem Run.replies_eq (h : Run u sent w) (hl : w.listens = true) (hrest : w.IsAtRest) :
    w.replies = u.serve sent := by
  obtain ⟨answered, rest, rfl, hreplies, howes⟩ := Kept.run h
  rw [howes.eq_nil hrest hl, List.append_nil, hreplies]

/-- Left to itself a worker answers everything.  Then it waits, unless nothing more can come. -/
theorem Run.exists_answered (h : Run u sent w) (hl : w.listens = true) :
    ∃ n, ((Worker.step u)^[n] w).replies = u.serve sent ∧
      ((Worker.step u)^[n] w).stage = if w.isOpen then .waiting else .ended := by
  obtain ⟨n, hrest⟩ := exists_isAtRest u w
  have hn := h.iterate n
  have hln := (iterate_listens u w n).trans hl
  have hon := iterate_isOpen u w n
  refine ⟨n, hn.replies_eq hln hrest, ?_⟩
  rcases hrest with hs | ⟨hs, -, ho⟩
  · rw [hs, ← hon, hn.isOpen_of_ended hln hs]
    rfl
  · rw [hs, ← hon, ho]
    rfl

/-- The replies are those to the requests, each that of its request alone, in their order and under
their numbers: so far at any time, and all of them once the worker has had the time.  No round ends
a worker that somebody listens to. -/
theorem replies_follow_requests {u : EvaluationUnit α} {sent : List (Envelope Request)}
    {w : Worker α} (h : Run u sent w) :
    w.replies <+: (sent.map fun e => ⟨e.id, u.reply e.payload⟩) ∧
    (w.listens = true →
      (w.stage = .ended → w.isOpen = false ∧
        w.replies = sent.map fun e => ⟨e.id, u.reply e.payload⟩) ∧
      ∃ n, ((Worker.step u)^[n] w).replies = (sent.map fun e => ⟨e.id, u.reply e.payload⟩) ∧
        ((Worker.step u)^[n] w).stage = if w.isOpen then .waiting else .ended) ∧
    ∀ e : Envelope Request,
      ∃ n, ((Worker.step u)^[n] (start.act u (.send e))).replies = [⟨e.id, u.reply e.payload⟩] := by
  refine ⟨h.replies_prefix, fun hl => ⟨fun hs => ⟨h.isOpen_of_ended hl hs, ?_⟩, ?_⟩, fun e => ?_⟩
  · exact h.replies_eq hl (.inl hs)
  · exact h.exists_answered hl
  · obtain ⟨n, hn, -⟩ := (Run.start.step (.send e) rfl : Run u [e] _).exists_answered rfl
    exact ⟨n, hn⟩

/-- Breaks down with a text on one expression, without one on another, and has no value for a third
when it comes to it. -/
def brittle : EvaluationUnit String where
  engine :=
    { parse := fun source => if source = "burst" then .broken (some "burst") else .done source
      evaluate := fun x _ =>
        if x = "fade" then .broken none
        else if x = "fail" then .refused "no value"
        else .done .null }
  strict := true

/-- A request with one rule. -/
def singleRequest (source : String) : Request where
  currentData := "null"
  previousData := "null"
  now := "2024-01-01T00:00:00Z"
  today := "2024-01-01"
  rules := [⟨⟨"a", .accept, source, ""⟩, "1"⟩]

theorem broken_rounds_are_answered_in_order :
    ∃ w, Run brittle [⟨7, singleRequest "burst"⟩, ⟨7, singleRequest "fade"⟩,
        ⟨2, singleRequest "fail"⟩, ⟨2, singleRequest "fine"⟩] w ∧
      ∃ n, ((Worker.step brittle)^[n] w).replies =
          [⟨7, .unknown (some "burst")⟩, ⟨7, .unknown none⟩,
            ⟨2, .failure (.failedExpression "a: no value")⟩,
            ⟨2, .success ⟨[("1", .value .null)], []⟩⟩] ∧
        ((Worker.step brittle)^[n] w).stage = .waiting := by
  have h : Run brittle [⟨7, singleRequest "burst"⟩, ⟨7, singleRequest "fade"⟩,
      ⟨2, singleRequest "fail"⟩, ⟨2, singleRequest "fine"⟩] _ :=
    (((Run.start.step (.send _) rfl).step (.send _) rfl).step (.send _) rfl).step (.send _) rfl
  obtain ⟨n, hreplies, hstage⟩ := ((replies_follow_requests h).2.1 rfl).2
  exact ⟨_, h, n, hreplies.trans rfl, hstage⟩

end Worker

end RuleBench
