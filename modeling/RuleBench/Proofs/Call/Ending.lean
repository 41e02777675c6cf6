import RuleBench.Proofs.Call.Run

set_option autoImplicit false

/-!
# After the last reply

When the peer sends no more replies and all are dispatched, the dispatcher ends, and every call that
has no reply by then has failed.  It ends once: a peer that still takes requests accepts further
calls, and nobody tells those that they wait in vain.
-/

namespace RuleBench.Correlator

variable {α β : Type}

/-- The next thing that the dispatcher does is to end. -/
def Ends (c : Correlator α β) : Prop :=
  c.listens = true ∧ c.channel.replies = [] ∧ c.channel.sends = false

/-- What may become of a correlator. -/
inductive Leads : Correlator α β → Correlator α β → Prop where
  | refl (c : Correlator α β) : Leads c c
  | step {c d : Correlator α β} (h : Leads c d) (a : Action α β) (ok : d.Permits a) :
      Leads c (d.act a)

theorem Leads.trans {c d e : Correlator α β} (h : Leads c d) (l : Leads d e) : Leads c e := by
  induction l with
  | refl => exact h
  | step _ a ok ih => exact ih.step a ok

theorem Run.leads {log : List (Event β)} {c d : Correlator α β} (h : Run log c) (l : Leads c d) :
    ∃ more, Run (log ++ more) d := by
  induction l with
  | refl => exact ⟨[], by rwa [List.append_nil]⟩
  | @step d l a ok ih =>
    obtain ⟨more, hd⟩ := ih
    exact ⟨more ++ d.events a, by rw [← List.append_assoc]; exact hd.step a ok⟩

/-! ## What one thing can change -/

inductive Change (c : Correlator α β) : Correlator α β → Prop where
  | channel (channel : Channel α β) (takes : c.channel.takes = false → channel.takes = false) :
      Change c { c with channel }
  | refused (n : Nat) (le : c.nextId ≤ n) : Change c { c with nextId := n }
  | accepted (a : α) (takes : c.channel.takes = true) (alive : c.dropped = false) :
      Change c { c with
        channel := { c.channel with requests := c.channel.requests ++ [⟨c.nextId, a⟩] }
        nextId := c.nextId + 1
        pending := c.pending ++ [c.nextId]
        held := c.held ++ [c.nextId] }
  | forgotten (id : Nat) : Change c (c.forget id)
  | answered (e : Envelope β) (rest : List (Envelope β)) (listens : c.listens = true) :
      Change c { c with
        channel := { c.channel with replies := rest }
        pending := c.pending.filter (· != e.id)
        delivered := c.delivered ++ [(e.id, e.payload)] }
  | ended (h : c.Ends) : Change c c.dispatch
  | dropped : Change c c.drop

theorem dispatch_of_ends {c : Correlator α β} (h : c.Ends) :
    c.dispatch = { c with pending := [], listens := false } := by
  obtain ⟨hl, hr, hs⟩ := h
  simp [dispatch, hl, hr, hs]

theorem change_submit (c : Correlator α β) (a : α) : Change c (c.submit a).2 := by
  unfold submit
  split
  · exact .refused c.nextId (Nat.le_refl _)
  · split
    · rename_i h
      simp only [Bool.and_eq_true, Bool.not_eq_true'] at h
      exact .accepted a h.1 h.2
    · exact .refused _ (Nat.le_succ _)

theorem change_dispatch (c : Correlator α β) : Change c c.dispatch := by
  rcases dispatch_cases c with ⟨e, rest, hl, -, hd⟩ | ⟨hl, hr, hs, -⟩ | ⟨-, hd⟩
  · rw [hd]
    unfold resolve
    split
    · exact .answered e rest hl
    · exact .channel _ id
  · exact .ended ⟨hl, hr, hs⟩
  · rw [hd]
    exact .channel c.channel id

theorem change_act (c : Correlator α β) (a : Action α β) : Change c (c.act a) := by
  cases a with
  | submit a => exact change_submit c a
  | dispatch => exact change_dispatch c
  | poll id =>
    simp only [act, poll]
    split
    · exact .channel c.channel fun h => h
    · exact .forgotten _
  | forget id => exact .forgotten id
  | drop => exact .dropped
  | take =>
    simp only [act, take]
    split <;> exact .channel _ id
  | reply e =>
    simp only [act, reply]
    split
    · exact .channel c.channel id
    · split <;> exact .channel _ id
  | dropRequests => exact .channel _ fun _ => rfl
  | dropReplies => exact .channel _ id

namespace Change

variable {c d : Correlator α β}

theorem refusal (h : Change c d) : d.refusal = c.refusal := by
  cases h with
  | ended h => rw [dispatch_of_ends h]
  | _ => rfl

theorem alive (h : Change c d) (alive : d.dropped = false) : c.dropped = false := by
  cases h with
  | ended h => simpa [dispatch_of_ends h] using alive
  | dropped => cases alive
  | _ => exact alive

theorem takes (h : Change c d) (closed : c.channel.takes = false) : d.channel.takes = false := by
  cases h with
  | channel _ takes => exact takes closed
  | ended h => rw [dispatch_of_ends h]; exact closed
  | _ => exact closed

theorem held (h : Change c d) (closed : c.channel.takes = false) : ∀ id ∈ d.held, id ∈ c.held := by
  intro id hid
  cases h with
  | accepted _ takes => exact absurd closed (by simp [takes])
  | forgotten => exact (List.mem_filter.mp hid).1
  | ended h => rwa [dispatch_of_ends h] at hid
  | _ => exact hid

/-- The dispatcher ends by itself only where no reply can come any more. -/
theorem ends (h : Change c d) (listens : c.listens = true) (deaf : d.listens = false)
    (alive : d.dropped = false) : c.Ends ∧ d = c.dispatch := by
  cases h with
  | ended h => exact ⟨h, rfl⟩
  | dropped => cases alive
  | _ => exact absurd deaf (by simp [forget, listens])

/-- A correlator that is given up keeps nobody waiting. -/
theorem pending (h : Change c d) (none : c.dropped = true → c.pending = [])
    (dropped : d.dropped = true) : d.pending = [] := by
  cases h with
  | accepted _ _ alive => exact absurd dropped (by simp [alive])
  | forgotten => simp [forget, none dropped]
  | answered => simp [none dropped]
  | ended h => rw [dispatch_of_ends h]
  | dropped => rfl
  | _ => exact none dropped

end Change

/-- Every dispatcher that has ended did so at some point of the run, unless its correlator was given
up. -/
theorem Run.exists_ends {log : List (Event β)} {d : Correlator α β} (h : Run log d)
    (pair : d.refusal = none) (deaf : d.listens = false) (alive : d.dropped = false) :
    ∃ log c, Run log c ∧ c.Ends ∧ Leads c.dispatch d := by
  induction h with
  | connected => cases deaf
  | unavailable reason => cases pair
  | @step log d h a ok ih =>
    have change := change_act d a
    cases hl : d.listens with
    | false =>
      obtain ⟨log, c, hc, ends, l⟩ := ih (change.refusal ▸ pair) hl (change.alive alive)
      exact ⟨log, c, hc, ends, l.step a ok⟩
    | true =>
      obtain ⟨ends, heq⟩ := change.ends hl deaf alive
      exact ⟨log, d, h, ends, heq ▸ .refl _⟩

theorem Run.pending_of_dropped {log : List (Event β)} {c : Correlator α β} (h : Run log c)
    (dropped : c.dropped = true) : c.pending = [] := by
  induction h with
  | connected => rfl
  | unavailable reason => rfl
  | @step log c h a ok ih => exact (change_act c a).pending ih dropped

/-- A peer that takes no more requests gets no more calls. -/
theorem Leads.held_of_closed {c d : Correlator α β} (l : Leads c d)
    (closed : c.channel.takes = false) : ∀ id ∈ d.held, id ∈ c.held := by
  have both : d.channel.takes = false ∧ ∀ id ∈ d.held, id ∈ c.held := by
    induction l with
    | refl => exact ⟨closed, fun _ hid => hid⟩
    | @step d l a ok ih =>
      have change := change_act d a
      exact ⟨change.takes ih.1, fun id hid => ih.2 id (change.held ih.1 id hid)⟩
  exact both.2

/-! ## Calls that come too late -/

/-- The dispatcher has ended when the next call was to be number `n`.  Of the calls that are held,
those from `n` on are pending, until the correlator is given up. -/
structure Ended (n : Nat) (c : Correlator α β) : Prop where
  deaf : c.listens = false
  le : n ≤ c.nextId
  pending_iff : ∀ id, id ∈ c.pending ↔ id ∈ c.held ∧ n ≤ id ∧ c.dropped = false

namespace Ended

variable {n : Nat} {c d : Correlator α β}

theorem of_ends (h : c.Coherent) (ends : c.Ends) : Ended c.nextId c.dispatch := by
  rw [dispatch_of_ends ends]
  refine ⟨rfl, Nat.le_refl _, fun id => ⟨fun hm => absurd hm List.not_mem_nil, ?_⟩⟩
  rintro ⟨hheld, hle, -⟩
  exact absurd (h.held_lt id hheld) (Nat.not_lt_of_le hle)

theorem change (h : Ended n c) (hd : Change c d) : Ended n d := by
  cases hd with
  | channel => exact { h with }
  | refused m le => exact { h with le := Nat.le_trans h.le le }
  | accepted a _ alive =>
    refine ⟨h.deaf, Nat.le_succ_of_le h.le, fun id => ?_⟩
    simp only [List.mem_append, List.mem_singleton, h.pending_iff, alive, and_true]
    have hle := h.le
    constructor
    · rintro (⟨hheld, hid⟩ | rfl)
      · exact ⟨.inl hheld, hid⟩
      · exact ⟨.inr rfl, hle⟩
    · rintro ⟨hheld | rfl, hid⟩
      · exact .inl ⟨hheld, hid⟩
      · exact .inr rfl
  | forgotten other =>
    refine ⟨h.deaf, h.le, fun id => ?_⟩
    simp only [forget, List.mem_filter, h.pending_iff]
    tauto
  | answered _ _ listens => exact absurd h.deaf (by simp [listens])
  | ended ends => exact absurd h.deaf (by simp [ends.1])
  | dropped => exact ⟨rfl, h.le, by simp [drop]⟩

theorem leads (h : Ended n c) (l : Leads c d) : Ended n d := by
  induction l with
  | refl => exact h
  | @step d _ a _ ih => exact ih.change (change_act d a)

end Ended

/-- A poll of the handle returns a reply, or that none can come any more. -/
def Finishes (c : Correlator α β) (id : Nat) : Prop :=
  (∃ b, (c.poll id).1 = some (.ok b)) ∨ (c.poll id).1 = some (.error .disconnected)

theorem poll_fst (c : Correlator α β) (id : Nat) : (c.poll id).1 = c.result? id := by
  unfold poll
  split <;> rename_i h <;> exact h.symm

theorem Coherent.poll_eq_none_iff {c : Correlator α β} (h : c.Coherent) (id : Nat) :
    (c.poll id).1 = none ↔ id ∈ c.pending := by
  rw [poll_fst, h.result?_eq_none_iff]

theorem finishes_of_not_pending {c : Correlator α β} {id : Nat} (h : id ∉ c.pending) :
    c.Finishes id := by
  unfold Finishes
  rw [poll_fst]
  unfold result?
  cases c.delivered.find? fun d => d.1 == id with
  | none => exact .inr (by simp [h])
  | some d => exact .inl ⟨d.2, rfl⟩

theorem submit_fst {c : Correlator α β} (pair : c.refusal = none) (alive : c.dropped = false)
    (a : α) : (c.submit a).1 = if c.channel.takes then .ok c.nextId else .error .closed := by
  cases ht : c.channel.takes <;> simp [submit, pair, alive, ht]

/-- At rest, with a peer that sends no more replies, those calls wait that were accepted after the
dispatcher ended, and no others.  There are none if the peer had stopped to take requests by then;
while it takes them, a further call waits for ever. -/
theorem only_late_calls_wait {log : List (Event β)} {d : Correlator α β} (h : Run log d)
    (pair : d.refusal = none) (idle : d.isIdle = true) (gone : d.channel.sends = false) :
    (d.dropped = true → d.pending = [] ∧ ∀ id ∈ d.held, d.Finishes id) ∧
    (d.dropped = false → ∃ log c, Run log c ∧ c.Ends ∧ Leads c.dispatch d ∧
      (∀ id, id ∈ d.pending ↔ id ∈ d.held ∧ c.nextId ≤ id) ∧
      (∀ id ∈ d.held, if c.nextId ≤ id then (d.poll id).1 = none else d.Finishes id) ∧
      (c.channel.takes = false → d.pending = []) ∧
      (∀ a, (d.submit a).1 = if d.channel.takes then .ok d.nextId else .error .closed) ∧
      ∀ a e, Leads (d.submit a).2 e → d.nextId ∈ e.held → e.dropped = false →
        (e.poll d.nextId).1 = none) := by
  have deaf : d.listens = false := by simpa [isIdle, gone] using idle
  constructor
  · intro dropped
    have hp := h.pending_of_dropped dropped
    exact ⟨hp, fun id _ => finishes_of_not_pending (by simp [hp])⟩
  · intro alive
    obtain ⟨log, c, hc, ends, l⟩ := h.exists_ends pair deaf alive
    have ended := Ended.of_ends (.run hc) ends
    have pending : ∀ id, id ∈ d.pending ↔ id ∈ d.held ∧ c.nextId ≤ id := by
      simpa [alive] using (ended.leads l).pending_iff
    refine ⟨log, c, hc, ends, l, pending, ?_, ?_, submit_fst pair alive, ?_⟩
    · intro id hid
      split
      · rename_i hle
        exact ((Coherent.run h).poll_eq_none_iff id).mpr ((pending id).mpr ⟨hid, hle⟩)
      · rename_i hlt
        exact finishes_of_not_pending fun hp => hlt ((pending id).mp hp).2
    · intro closed
      have hheld := l.held_of_closed ((change_dispatch c).takes closed)
      rw [dispatch_of_ends ends] at hheld
      refine List.eq_nil_iff_forall_not_mem.mpr fun id hp => ?_
      obtain ⟨hid, hle⟩ := (pending id).mp hp
      exact Nat.not_lt_of_le hle ((Coherent.run hc).held_lt id (hheld id hid))
    · intro a e le hid alive'
      have ok : d.Permits (.submit a) := alive
      obtain ⟨more, he⟩ := h.leads (((Leads.refl d).step _ ok).trans le)
      rw [(Coherent.run he).poll_eq_none_iff, (ended.leads ((l.step _ ok).trans le)).pending_iff]
      exact ⟨hid, (ended.leads l).le, alive'⟩

/-- One call is under way when the peer gives up its sender, and fails; the call after it waits, and
so will the next one. -/
theorem early_call_fails_late_call_waits : ∃ (log : List (Event String))
    (d : Correlator String String), Run log d ∧ d.refusal = none ∧ d.isIdle = true ∧
      d.channel.sends = false ∧ (d.poll 0).1 = some (.error .disconnected) ∧
      (d.poll 1).1 = none ∧ (d.submit "c").1 = .ok 2 ∧
      ∀ e, Leads (d.submit "c").2 e → 2 ∈ e.held → e.dropped = false → (e.poll 2).1 = none := by
  have gone : Run (β := String) _ _ :=
    (Run.connected.step (.submit "a") rfl).step .dropReplies trivial
  have run := (gone.step .dispatch trivial).step (.submit "b") rfl
  obtain ⟨log, c, -, -, -, -, -, -, hsubmit, hwait⟩ :=
    (only_late_calls_wait run rfl rfl rfl).2 rfl
  exact ⟨_, _, run, rfl, rfl, rfl, rfl, rfl, hsubmit "c", hwait "c"⟩

/-- The peer gives up its sender only; then a call is accepted, and waits while nothing goes on. -/
theorem call_after_end_waits :
    let d := (((connected : Correlator String String).act .dropReplies).act .dispatch).act
      (.submit "x")
    (∃ log, Run log d) ∧ d.refusal = none ∧ d.isIdle = true ∧ d.channel.sends = false ∧
      d.pending = [0] ∧ 0 ∈ d.held ∧ (d.poll 0).1 = none := by
  have gone : Run (α := String) (β := String) _ _ := Run.connected.step .dropReplies trivial
  have run := (gone.step .dispatch trivial).step (.submit "x") rfl
  exact ⟨⟨_, run⟩, rfl, rfl, rfl, rfl, .head _, rfl⟩

end RuleBench.Correlator
