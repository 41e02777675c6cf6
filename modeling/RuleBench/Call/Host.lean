import RuleBench.Call.Session
import RuleBench.Round.Unit
import RuleBench.Settings

set_option autoImplicit false

/-!
# Hosts

A host makes the threads that evaluation units work on.  Who has a snapshot evaluated makes one call
to a unit on a thread of its own, and what comes of it depends on what the host has let become of
the unit by the time the reply is due.
-/

namespace RuleBench

/-- What has become of a unit by the time its reply is due. -/
inductive Hosting where
  /-- No thread could be made for it; the system says why. -/
  | unmade (message : String)
  /-- Its thread ended before the request came. -/
  | gone
  /-- Its thread ended later and left the request unanswered. -/
  | ended
  /-- It has not come to a reply yet. -/
  | working
  | replied

/-- What becomes of units, by the settings of their threads and the time that replies may take.  No
thread has a name with the character of code 0 in it; the program would not survive that. -/
abbrev Host := ThreadSettings → Calendar.Duration → Hosting

/-- On this host every unit replies in time. -/
def Host.prompt : Host := fun _ _ => .replied

namespace Hosting

variable {α : Type}

def correlator : Hosting → Correlator Request Reply
  | .unmade message => .unavailable (ThreadSettings.unmade message)
  | .gone => Correlator.connected.dropRequests.dropReplies
  | .ended | .working | .replied => .connected

/-- What the unit has done at its end of the channel. -/
def serve (h : Hosting) (answer : Request → Reply) (c : Correlator Request Reply) :
    Correlator Request Reply :=
  match h with
  | .unmade _ | .gone | .working => c
  | .ended => c.dropRequests.dropReplies
  | .replied => c.serve answer

/-- How the only update of a session has ended when its reply is due, if it has. -/
def evaluate (h : Hosting) (u : EvaluationUnit α) (s : Snapshot) (now : Calendar.Instant) :
    Option (Except CallError EvaluationState) :=
  match (Session.start h.correlator).update s now with
  | (.error e, _) => some (.error e)
  | (.ok _, session) =>
    { session with correlator := h.serve u.reply session.correlator }.settle.settled?

end Hosting

end RuleBench
