import Mathlib.Data.List.Induction
import RuleBench.Proofs.Call.Delivery

set_option autoImplicit false

/-!
# Courses of a correlator

A course is a run that keeps everything that was done, each action with the state that it met.  What
callers, the peer and the dispatcher have seen of it is read off what the actions returned.
-/

namespace RuleBench.Correlator

variable {α β : Type}

/-- An action and the state that it met. -/
structure Turn (α β : Type) where
  met : Correlator α β
  action : Action α β

inductive Course : List (Turn α β) → Correlator α β → Prop where
  | connected : Course [] connected
  | unavailable (reason : String) : Course [] (unavailable reason)
  | step {past : List (Turn α β)} {c : Correlator α β} (h : Course past c) (a : Action α β)
      (ok : c.Permits a) : Course (past ++ [⟨c, a⟩]) (c.act a)

/-! ## What was seen -/

namespace Turn

/-- The request that a caller has sent, under the number that it was given. -/
def submitted? : Turn α β → Option (Envelope α)
  | ⟨c, .submit a⟩ =>
    match (c.submit a).1 with
    | .ok id => some ⟨id, a⟩
    | .error _ => none
  | _ => none

/-- The request that the peer has taken. -/
def taken? : Turn α β → Option (Envelope α)
  | ⟨c, .take⟩ => c.take.1
  | _ => none

/-- The reply that the peer has sent. -/
def replied? : Turn α β → Option (Envelope β)
  | ⟨c, .reply e⟩ => if (c.reply e).1 = .sent then some e else none
  | _ => none

/-- The call whose handle is gone, since it was given up or polled to its end. -/
def released? : Turn α β → Option Nat
  | ⟨_, .forget id⟩ => some id
  | ⟨c, .poll id⟩ => if (c.poll id).1.isSome then some id else none
  | _ => none

end Turn

def submitted (past : List (Turn α β)) : List (Envelope α) := past.filterMap Turn.submitted?

def taken (past : List (Turn α β)) : List (Envelope α) := past.filterMap Turn.taken?

def replied (past : List (Turn α β)) : List (Envelope β) := past.filterMap Turn.replied?

def released (past : List (Turn α β)) : List Nat := past.filterMap Turn.released?

def logOf (past : List (Turn α β)) : List (Event β) := past.flatMap fun t => t.met.events t.action

/-- The replies that the dispatcher has taken, to pending calls or not. -/
def dispatched (log : List (Event β)) : List (Envelope β) :=
  log.filterMap fun
    | .dispatched e _ => some e
    | _ => none

theorem filterMap_concat {γ δ : Type} (f : γ → Option δ) (past : List γ) (t : γ) :
    (past ++ [t]).filterMap f = past.filterMap f ++ (f t).toList := by
  rw [List.filterMap_append]
  cases h : f t <;> simp [h]

theorem logOf_concat (past : List (Turn α β)) (t : Turn α β) :
    logOf (past ++ [t]) = logOf past ++ t.met.events t.action := by
  simp [logOf]

theorem dispatched_append (log more : List (Event β)) :
    dispatched (log ++ more) = dispatched log ++ dispatched more :=
  List.filterMap_append

theorem events_dispatch_of_cons {c : Correlator α β} {e : Envelope β} {rest : List (Envelope β)}
    (hl : c.listens = true) (hr : c.channel.replies = e :: rest) :
    c.events .dispatch = [.dispatched e (c.pending.contains e.id)] := by
  simp [events, hl, hr]

theorem events_dispatch_of_nil {c : Correlator α β} (hr : c.channel.replies = []) :
    c.events .dispatch = [] := by
  simp [events, hr]

theorem events_dispatch_of_deaf {c : Correlator α β} (hl : c.listens = false) :
    c.events .dispatch = [] := by
  simp [events, hl]

theorem events_dispatch_of_isIdle {c : Correlator α β} (hi : c.isIdle = true) :
    c.events .dispatch = [] := by
  simp only [isIdle, Bool.or_eq_true, Bool.not_eq_true', Bool.and_eq_true, List.isEmpty_iff] at hi
  rcases hi with hl | ⟨hr, -⟩
  · exact events_dispatch_of_deaf hl
  · exact events_dispatch_of_nil hr

theorem Course.run {past : List (Turn α β)} {c : Correlator α β} (h : Course past c) :
    Run (logOf past) c := by
  induction h with
  | connected => exact .connected
  | unavailable reason => exact .unavailable reason
  | step _ a ok ih =>
    rw [logOf_concat]
    exact ih.step a ok

theorem Course.coherent {past : List (Turn α β)} {c : Correlator α β} (h : Course past c) :
    c.Coherent := .run h.run

/-! ## Parts of a course -/

variable {past before after : List (Turn α β)} {t : Turn α β} {d : Correlator α β}

theorem Course.of_concat (h : Course (past ++ [t]) d) :
    Course past t.met ∧ t.met.Permits t.action ∧ d = t.met.act t.action := by
  generalize hp : past ++ [t] = whole at h
  cases h with
  | connected => exact absurd hp (List.concat_ne_nil _ _)
  | unavailable reason => exact absurd hp (List.concat_ne_nil _ _)
  | step h a ok =>
    obtain ⟨rfl, ht⟩ := List.append_inj' hp rfl
    obtain rfl := (List.cons.inj ht).1
    exact ⟨h, ok, rfl⟩

/-- What holds after a turn and is kept from then on. -/
theorem Course.since {P : List (Turn α β) → Correlator α β → Prop}
    (h : Course (before ++ t :: after) d) (start : Course before t.met → P [] (t.met.act t.action))
    (step : ∀ after c a, c.Permits a → P after c → P (after ++ [⟨c, a⟩]) (c.act a)) :
    P after d := by
  induction after using List.reverseRecOn generalizing d with
  | nil =>
    obtain ⟨hc, -, rfl⟩ := h.of_concat
    exact start hc
  | append_singleton after u ih =>
    rw [← List.cons_append, ← List.append_assoc] at h
    obtain ⟨hc, ok, rfl⟩ := h.of_concat
    exact step after u.met u.action ok (ih hc)

theorem Course.earlier (h : Course (before ++ t :: after) d) : Course before t.met :=
  h.since (P := fun _ _ => Course before t.met) id fun _ _ _ _ hbefore => hbefore

theorem Course.dispatchMany (h : Course past d) (n : Nat) :
    ∃ more, (∀ t ∈ more, t.action = .dispatch) ∧ Course (past ++ more) (d.dispatchMany n) := by
  induction n generalizing past d with
  | zero => exact ⟨[], nofun, by rwa [List.append_nil]⟩
  | succ n ih =>
    obtain ⟨more, hmore, hd⟩ := ih (h.step .dispatch trivial)
    refine ⟨⟨d, .dispatch⟩ :: more, ?_, ?_⟩
    · exact fun t ht => (List.mem_cons.mp ht).elim (fun heq => heq ▸ rfl) (hmore t)
    · rwa [List.append_assoc, List.singleton_append] at hd

end RuleBench.Correlator
