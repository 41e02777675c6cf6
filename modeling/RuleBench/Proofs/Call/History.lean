import RuleBench.Call.Session
import RuleBench.Proofs.Call.Run

set_option autoImplicit false

/-!
# Histories of a session

A run of a session is any order of the phases of its updates, of what the peer does and of
dispatching, so that several updates may be under way at once.  Its history tells what became of
the call of each generation, without a look at the state.
-/

namespace RuleBench

/-- What the peer and the dispatcher do, and callers have no part in. -/
def Correlator.Action.IsOutside {α β : Type} : Correlator.Action α β → Prop
  | .dispatch | .take | .reply _ | .dropRequests | .dropReplies => True
  | _ => False

namespace Session

inductive Action where
  | begin
  | send (generation : Nat) (snapshot : Snapshot) (now : Calendar.Instant)
  | advance (t : Task)
  | outside (a : Correlator.Action Request Reply)

def act (s : Session) : Action → Session
  | .begin => s.begin
  | .send generation snapshot now => (s.send generation (Request.ofSnapshot snapshot now)).2
  | .advance t => s.advance t
  | .outside a => { s with correlator := s.correlator.act a }

/-- A failure is looked at only while no other one is being recorded. -/
def Permits (s : Session) : Action → Prop
  | .begin => True
  | .send generation _ _ => ⟨generation, .begun⟩ ∈ s.tasks
  | .advance t => t ∈ s.tasks ∧
      ∀ e, t.phase = .ended (.error e) → ∀ u ∈ s.tasks, ∀ e', u.phase ≠ .failing e'
  | .outside a => a.IsOutside

inductive Event where
  | begun
  /-- The request of a generation was sent under this number. -/
  | accepted (generation call : Nat)
  | refused (generation : Nat) (e : CallError)
  | dispatched (e : Envelope Reply)
  /-- No reply can come any more. -/
  | stopped

def Event.isBegun : Event → Bool
  | .begun => true
  | _ => false

/-- What an action adds to the history. -/
def events (s : Session) : Action → List Event
  | .begin => [.begun]
  | .send generation snapshot now =>
    match (s.correlator.submit (Request.ofSnapshot snapshot now)).1 with
    | .ok call => [.accepted generation call]
    | .error e => [.refused generation e]
  | .outside .dispatch =>
    match s.correlator.listens, s.correlator.channel.replies, s.correlator.channel.sends with
    | true, e :: _, _ => [.dispatched e]
    | true, [], false => [.stopped]
    | _, _, _ => []
  | _ => []

inductive Run (c : Correlator Request Reply) : List Event → Session → Prop where
  | start : Run c [] (start c)
  | step {log : List Event} {s : Session} (h : Run c log s) (a : Action) (ok : s.Permits a) :
      Run c (log ++ s.events a) (s.act a)

/-! ## What became of a generation -/

/-- How a call that is under way is ended by an event. -/
def ending (call : Nat) : Event → Option (Except CallError Reply)
  | .dispatched e => if e.id = call then some (.ok e.payload) else none
  | .stopped => some (.error .disconnected)
  | _ => none

/-- What became of the request of a generation; `none` while it has not been sent, and while its
call is under way. -/
def fate (generation : Nat) : List Event → Option (Except CallError Reply)
  | [] => none
  | .accepted g call :: later =>
    if g = generation then later.findSome? (ending call) else fate generation later
  | .refused g e :: later => if g = generation then some (.error e) else fate generation later
  | _ :: later => fate generation later

/-- What shows of a generation of which this has become. -/
def display (generation : Nat) :
    Option (Except CallError Reply) → Nat × EvaluationState × Option CallError
  | some (.ok reply) => (generation, .ofReply reply, none)
  | some (.error e) => (generation, .loading, some e)
  | none => (generation, .loading, none)

/-- What one sees of a session at rest, as a function of its history: the number of updates, a state
and a failure.  Only the call of the latest update counts. -/
def shown (log : List Event) : Nat × EvaluationState × Option CallError :=
  let generation := log.countP Event.isBegun
  if generation = 0 then (0, .loading, none) else display generation (fate generation log)

def Event.IsSendingOf (generation : Nat) : Event → Prop
  | .accepted g _ => g = generation
  | .refused g _ => g = generation
  | _ => False

def Unsent (generation : Nat) (log : List Event) : Prop :=
  ∀ e ∈ log, ¬ e.IsSendingOf generation

def Sent (generation call : Nat) (log : List Event) : Prop :=
  ∃ earlier later, log = earlier ++ .accepted generation call :: later ∧ Unsent generation earlier

theorem unsent_append {generation : Nat} {log more : List Event} :
    Unsent generation (log ++ more) ↔ Unsent generation log ∧ Unsent generation more := by
  simp only [Unsent, List.mem_append, or_imp, forall_and]

theorem Sent.append {generation call : Nat} {log : List Event} (h : Sent generation call log)
    (more : List Event) : Sent generation call (log ++ more) := by
  obtain ⟨earlier, later, rfl, hu⟩ := h
  exact ⟨earlier, later ++ more, by simp, hu⟩

theorem fate_append_of_unsent {generation : Nat} {log : List Event} (h : Unsent generation log)
    (more : List Event) : fate generation (log ++ more) = fate generation more := by
  induction log with
  | nil => rfl
  | cons e log ih =>
    have hlog : Unsent generation log := fun x hx => h x (List.mem_cons_of_mem _ hx)
    have he := h e List.mem_cons_self
    cases e with
    | accepted g call => simpa [fate, show ¬ g = generation from he] using ih hlog
    | refused g x => simpa [fate, show ¬ g = generation from he] using ih hlog
    | begun | dispatched _ | stopped => exact ih hlog

/-- What became of a call does not change any more. -/
theorem fate_append_of_some {generation : Nat} {log : List Event} {r : Except CallError Reply}
    (h : fate generation log = some r) (more : List Event) :
    fate generation (log ++ more) = some r := by
  induction log with
  | nil => cases h
  | cons e log ih =>
    cases e with
    | accepted g call =>
      by_cases hg : g = generation
      · simp only [fate, hg, ↓reduceIte, List.cons_append, List.findSome?_append] at h ⊢
        rw [h]
        rfl
      · simp only [fate, hg, ↓reduceIte, List.cons_append] at h ⊢
        exact ih h
    | refused g x =>
      by_cases hg : g = generation
      · simpa only [fate, hg, ↓reduceIte, List.cons_append] using h
      · simp only [fate, hg, ↓reduceIte, List.cons_append] at h ⊢
        exact ih h
    | begun | dispatched _ | stopped => exact ih h

/-- A call that is under way is ended by the next event that ends it. -/
theorem fate_append_of_sent {generation call : Nat} {log : List Event}
    (h : Sent generation call log) (e : Event) :
    fate generation (log ++ [e]) = (fate generation log).or (ending call e) := by
  obtain ⟨earlier, later, rfl, hu⟩ := h
  rw [List.append_assoc, fate_append_of_unsent hu, fate_append_of_unsent hu]
  simp [fate, List.findSome?_append]

/-- What a session shows does not change any more once it is known what became of the latest
generation, but by a new update. -/
theorem shown_append {log more : List Event} (hm : more.countP Event.isBegun = 0)
    (h : log.countP Event.isBegun = 0 ∨ (fate (log.countP Event.isBegun) log).isSome) :
    shown (log ++ more) = shown log := by
  have hc : (log ++ more).countP Event.isBegun = log.countP Event.isBegun := by
    rw [List.countP_append, hm, Nat.add_zero]
  rcases h with h | h
  · simp [shown, hc, h]
  · obtain ⟨r, hr⟩ := Option.isSome_iff_exists.mp h
    simp only [shown, hc, hr, fate_append_of_some hr more]

end Session

end RuleBench
