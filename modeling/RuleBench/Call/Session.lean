import RuleBench.Call.Correlator
import RuleBench.Round.State

set_option autoImplicit false

/-!
# Sessions

A session follows a snapshot as it changes.  Each update sends one request and starts a new
generation; what comes of the request is published only while its generation is the latest one.  A
call that fails publishes no state, but is recorded as the failure of its generation.

An update goes through phases, and whatever else is at work may come between any two of them:
another update may begin before the request of the first one is sent, or before what came of it is
published.  Only the recording of failures excludes one another.
-/

namespace RuleBench

namespace Session

/-- How far an update has got. -/
inductive Phase where
  /-- Its generation has begun; its request has not been sent. -/
  | begun
  /-- The reply to this call is awaited. -/
  | waiting (call : Nat)
  /-- This has come of it and is not published yet. -/
  | ended (outcome : Except CallError Reply)
  /-- Its failure was found to be that of the latest generation and is being recorded. -/
  | failing (e : CallError)

end Session

/-- An update that is not over. -/
structure Task where
  generation : Nat
  phase : Session.Phase

structure Session where
  correlator : Correlator Request Reply
  /-- The number of updates. -/
  generation : Nat
  state : EvaluationState
  /-- How often a state has been published. -/
  stateVersion : Nat
  failure : Option (Nat × CallError)
  failureVersion : Nat
  tasks : List Task

namespace Session

def start (c : Correlator Request Reply) : Session where
  correlator := c
  generation := 0
  state := .loading
  stateVersion := 0
  failure := none
  failureVersion := 0
  tasks := []

def publish (s : Session) (state : EvaluationState) : Session :=
  { s with state, stateVersion := s.stateVersion + 1 }

/-- Publishes the state of a generation, unless there is a newer one. -/
def publishFor (s : Session) (generation : Nat) (state : EvaluationState) : Session :=
  if s.generation = generation then s.publish state else s

def record (s : Session) (generation : Nat) (e : CallError) : Session :=
  { s with failure := some (generation, e), failureVersion := s.failureVersion + 1 }

/-! ## The phases of an update -/

/-- Starts a generation. -/
def begin (s : Session) : Session :=
  let generation := s.generation + 1
  publish { s with generation, tasks := s.tasks ++ [⟨generation, .begun⟩] } .loading

def move (s : Session) (generation : Nat) (phase : Phase) : Session :=
  { s with tasks := s.tasks.map fun t => if t.generation = generation then { t with phase } else t }

/-- Sends the request of a generation. -/
def send (s : Session) (generation : Nat) (request : Request) : Except CallError Nat × Session :=
  match s.correlator.submit request with
  | (.ok call, correlator) =>
    (.ok generation, { s with correlator }.move generation (.waiting call))
  | (.error e, correlator) =>
    (.error e, { s with correlator }.move generation (.ended (.error e)))

/-- Looks whether the reply to the call of a generation is there, or will never be. -/
def collect (s : Session) (generation call : Nat) : Session :=
  match s.correlator.poll call with
  | (none, _) => s
  | (some outcome, correlator) => { s with correlator }.move generation (.ended outcome)

/-- The update of a generation is over. -/
def close (s : Session) (generation : Nat) : Session :=
  { s with tasks := s.tasks.filter fun t => t.generation != generation }

/-- What goes on in the background for one update.  To look whether a generation is the latest one
and to publish its state is a single step; a failure is recorded a step later, and a newer
generation may have begun by then. -/
def advance (s : Session) (t : Task) : Session :=
  match t.phase with
  | .begun => s
  | .waiting call => s.collect t.generation call
  | .ended (.ok reply) => (s.close t.generation).publishFor t.generation (.ofReply reply)
  | .ended (.error e) =>
    if s.generation = t.generation then s.move t.generation (.failing e) else s.close t.generation
  | .failing e => (s.close t.generation).record t.generation e

/-- Starts a generation and sends its request.  A request that is refused is recorded at once as
the failure of its generation. -/
def update (s : Session) (snapshot : Snapshot) (now : Calendar.Instant) :
    Except CallError Nat × Session :=
  let s := s.begin
  match s.send s.generation (Request.ofSnapshot snapshot now) with
  | (.ok generation, s) => (.ok generation, s)
  | (.error e, s) => (.error e, (s.close s.generation).record s.generation e)

def advanceAll (s : Session) : Session := s.tasks.foldl advance s

/-- Lets all that goes on in the background run to its end: what has come of calls is collected,
then states are published and failures found, then failures are recorded. -/
def settle (s : Session) : Session :=
  { s with correlator := s.correlator.settle }.advanceAll.advanceAll.advanceAll

/-- The failure of the latest generation. -/
def failure? (s : Session) : Option CallError :=
  match s.failure with
  | some (generation, e) => if generation = s.generation then some e else none
  | none => none

/-- How the latest generation has ended, if it has. -/
def settled? (s : Session) : Option (Except CallError EvaluationState) :=
  if s.state.isLoading then s.failure?.map .error else some (.ok s.state)

theorem settled?_of_reply {s : Session} {r : Reply} (h : s.state = .ofReply r) :
    s.settled? = some (.ok (.ofReply r)) := by
  rw [settled?, h, EvaluationState.ofReply_ne_loading]
  rfl

/-! ## Waiting and watching -/

/-- One who waits for the latest generation to end, and has seen these versions. -/
structure Waiter where
  stateVersion : Nat
  failureVersion : Nat

inductive Wait where
  | ended (result : Except CallError EvaluationState)
  | waiting (w : Waiter)

def wait (s : Session) : Wait :=
  match s.settled? with
  | some result => .ended result
  | none => .waiting ⟨s.stateVersion, s.failureVersion⟩

/-- Looks again only if something has been published since. -/
def resume (s : Session) (w : Waiter) : Wait :=
  if w.stateVersion = s.stateVersion ∧ w.failureVersion = s.failureVersion then .waiting w
  else s.wait

/-- The latest state, if one has been published since the version last seen. -/
def news? (s : Session) (seen : Option Nat) : Option EvaluationState :=
  if seen = some s.stateVersion then none else some s.state

end Session

end RuleBench
