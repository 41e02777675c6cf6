import RuleBench.Round.Message

set_option autoImplicit false

/-!
# Correlators

Many callers share one channel to a peer.  Every request carries a number that no other one has, and
a reply goes to the caller whose request had its number; a reply to nobody is dropped.

A state holds both ends of the channel and what lies between them.  Replies lie in the channel until
they are dispatched, one at a time and in the order sent.  When the peer can send no more and all is
dispatched, those who still wait are told that they wait in vain.
-/

namespace RuleBench

inductive CallError where
  /-- There never was a channel, for this reason. -/
  | unavailable (reason : String)
  /-- The peer takes no more requests. -/
  | closed
  /-- No reply can come any more. -/
  | disconnected
  deriving DecidableEq

def CallError.message : CallError → String
  | .unavailable reason => "Evaluation channel unavailable: " ++ reason
  | .closed => "Evaluation channel closed"
  | .disconnected => "Evaluation unit disconnected before replying"

/-- What lies between callers and the peer. -/
structure Channel (α β : Type) where
  /-- Requests that the peer has not taken, first sent first. -/
  requests : List (Envelope α)
  /-- Replies that have not been dispatched, first sent first. -/
  replies : List (Envelope β)
  /-- The peer still takes requests. -/
  takes : Bool
  /-- The peer may still send replies. -/
  sends : Bool

structure Correlator (α β : Type) where
  channel : Channel α β
  /-- Why there is no channel, if there is none. -/
  refusal : Option String
  nextId : Nat
  /-- Calls to which no reply has been dispatched and which may still get one. -/
  pending : List Nat
  /-- Replies that have been dispatched and not yet been picked up. -/
  delivered : List (Nat × β)
  /-- Calls that somebody still asks about. -/
  held : List Nat
  /-- Replies are dispatched. -/
  listens : Bool
  /-- The caller's end is gone. -/
  dropped : Bool

/-- What becomes of a reply that the peer sends. -/
inductive Delivery where
  | sent
  /-- Nobody takes replies any more. -/
  | undeliverable
  /-- The peer has given up its end. -/
  | closed
  deriving DecidableEq

namespace Correlator

variable {α β : Type}

def connected : Correlator α β where
  channel := ⟨[], [], true, true⟩
  refusal := none
  nextId := 0
  pending := []
  delivered := []
  held := []
  listens := true
  dropped := false

def unavailable (reason : String) : Correlator α β where
  channel := ⟨[], [], false, false⟩
  refusal := some reason
  nextId := 0
  pending := []
  delivered := []
  held := []
  listens := false
  dropped := false

def isAvailable (c : Correlator α β) : Bool := c.refusal.isNone

def pendingCount (c : Correlator α β) : Nat := c.pending.length

/-! ## Callers -/

/-- Sends a request.  A number is used up even if the peer takes no more requests. -/
def submit (c : Correlator α β) (a : α) : Except CallError Nat × Correlator α β :=
  match c.refusal with
  | some reason => (.error (.unavailable reason), c)
  | none =>
    if c.channel.takes && !c.dropped then
      (.ok c.nextId,
        { c with
          channel := { c.channel with requests := c.channel.requests ++ [⟨c.nextId, a⟩] }
          nextId := c.nextId + 1
          pending := c.pending ++ [c.nextId]
          held := c.held ++ [c.nextId] })
    else (.error .closed, { c with nextId := c.nextId + 1 })

/-- What has become of a call; `none` while its reply is awaited. -/
def result? (c : Correlator α β) (id : Nat) : Option (Except CallError β) :=
  match c.delivered.find? fun d => d.1 == id with
  | some (_, b) => some (.ok b)
  | none => if c.pending.contains id then none else some (.error .disconnected)

/-- Nobody asks about a call any more; a reply to it will be dropped. -/
def forget (c : Correlator α β) (id : Nat) : Correlator α β :=
  { c with
    pending := c.pending.filter (· != id)
    delivered := c.delivered.filter fun d => d.1 != id
    held := c.held.filter (· != id) }

/-- Picks up the result of a call, which is then forgotten. -/
def poll (c : Correlator α β) (id : Nat) : Option (Except CallError β) × Correlator α β :=
  match c.result? id with
  | none => (none, c)
  | some result => (some result, c.forget id)

/-- Gives up the caller's end.  Replies that have been dispatched can still be picked up. -/
def drop (c : Correlator α β) : Correlator α β :=
  { c with
    channel := { c.channel with replies := [] }
    pending := []
    listens := false
    dropped := true }

/-! ## Dispatching -/

/-- Gives a reply to the call of its number. -/
def resolve (c : Correlator α β) (e : Envelope β) : Correlator α β :=
  if c.pending.contains e.id then
    { c with
      pending := c.pending.filter (· != e.id)
      delivered := c.delivered ++ [(e.id, e.payload)] }
  else c

/-- Dispatches one reply; where none can come any more, stops. -/
def dispatch (c : Correlator α β) : Correlator α β :=
  if c.listens then
    match c.channel.replies with
    | e :: rest => resolve { c with channel := { c.channel with replies := rest } } e
    | [] => if c.channel.sends then c else { c with pending := [], listens := false }
  else c

/-- There is nothing to dispatch. -/
def isIdle (c : Correlator α β) : Bool :=
  !c.listens || (c.channel.replies.isEmpty && c.channel.sends)

def dispatchMany : Nat → Correlator α β → Correlator α β
  | 0, c => c
  | n + 1, c => dispatchMany n c.dispatch

/-- Dispatches until there is nothing left. -/
def settle (c : Correlator α β) : Correlator α β := dispatchMany (c.channel.replies.length + 1) c

/-! ## The peer -/

/-- The peer takes the next request. -/
def take (c : Correlator α β) : Option (Envelope α) × Correlator α β :=
  match c.channel.requests with
  | e :: rest => (some e, { c with channel := { c.channel with requests := rest } })
  | [] => (none, c)

def reply (c : Correlator α β) (e : Envelope β) : Delivery × Correlator α β :=
  if !c.channel.sends then (.closed, c)
  else if c.dropped then (.undeliverable, c)
  else (.sent, { c with channel := { c.channel with replies := c.channel.replies ++ [e] } })

/-- The peer takes no more requests; those that lie in the channel are lost. -/
def dropRequests (c : Correlator α β) : Correlator α β :=
  { c with channel := { c.channel with requests := [], takes := false } }

/-- The peer sends no more replies. -/
def dropReplies (c : Correlator α β) : Correlator α β :=
  { c with channel := { c.channel with sends := false } }

/-- The peer takes every request and answers it at once. -/
def serve (answer : α → β) (c : Correlator α β) : Correlator α β :=
  c.channel.requests.foldl (fun c e => (c.reply ⟨e.id, answer e.payload⟩).2)
    { c with channel := { c.channel with requests := [] } }

end Correlator

end RuleBench
