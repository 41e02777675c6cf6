import RuleBench.Call.Correlator
import Mathlib.Data.List.Nodup

set_option autoImplicit false

/-!
# Runs of a correlator

A run is any order of what callers, the peer and the dispatcher may do, one thing at a time, and
leaves a log behind.  `Coherent` is what every run keeps: only held calls are pending or have a
reply, and none is both.
-/

namespace RuleBench.Correlator

variable {α β : Type}

inductive Action (α β : Type) where
  | submit (a : α)
  | poll (id : Nat)
  | forget (id : Nat)
  | drop
  | dispatch
  | take
  | reply (e : Envelope β)
  | dropRequests
  | dropReplies

def act (c : Correlator α β) : Action α β → Correlator α β
  | .submit a => (c.submit a).2
  | .poll id => (c.poll id).2
  | .forget id => c.forget id
  | .drop => c.drop
  | .dispatch => c.dispatch
  | .take => c.take.2
  | .reply e => (c.reply e).2
  | .dropRequests => c.dropRequests
  | .dropReplies => c.dropReplies

/-- Only those who hold a handle can poll it or give it up. -/
def Permits (c : Correlator α β) : Action α β → Prop
  | .submit _ => c.dropped = false
  | .poll id => id ∈ c.held
  | .forget id => id ∈ c.held
  | _ => True

inductive Event (β : Type) where
  /-- The dispatcher took an envelope, whose call was pending or not. -/
  | dispatched (e : Envelope β) (pending : Bool)
  /-- A poll of a handle was answered. -/
  | resolved (id : Nat) (result : Except CallError β)

/-- What an action adds to the log. -/
def events (c : Correlator α β) : Action α β → List (Event β)
  | .dispatch =>
    match c.listens, c.channel.replies with
    | true, e :: _ => [.dispatched e (c.pending.contains e.id)]
    | _, _ => []
  | .poll id => (c.result? id).toList.map (.resolved id)
  | _ => []

inductive Run : List (Event β) → Correlator α β → Prop where
  | connected : Run [] connected
  | unavailable (reason : String) : Run [] (unavailable reason)
  | step {log : List (Event β)} {c : Correlator α β} (h : Run log c) (a : Action α β)
      (ok : c.Permits a) : Run (log ++ c.events a) (c.act a)

/-! ## What every run keeps -/

structure Coherent (c : Correlator α β) : Prop where
  held_lt : ∀ id ∈ c.held, id < c.nextId
  pending_held : ∀ id ∈ c.pending, id ∈ c.held
  delivered_held : ∀ d ∈ c.delivered, d.1 ∈ c.held
  delivered_pending : ∀ d ∈ c.delivered, d.1 ∉ c.pending
  delivered_nodup : (c.delivered.map Prod.fst).Nodup

theorem coherent_connected : (connected : Correlator α β).Coherent := by
  constructor <;> simp [connected]

theorem coherent_unavailable (reason : String) :
    (unavailable reason : Correlator α β).Coherent := by
  constructor <;> simp [unavailable]

/-- Submitting either refuses, and then a number is used up at most, or sends the request under a
number that no call has had. -/
theorem submit_cases (c : Correlator α β) (a : α) :
    (∃ e n, c.submit a = (.error e, { c with nextId := n }) ∧ c.nextId ≤ n) ∨
    (c.submit a = (.ok c.nextId,
      { c with
        channel := { c.channel with requests := c.channel.requests ++ [⟨c.nextId, a⟩] }
        nextId := c.nextId + 1
        pending := c.pending ++ [c.nextId]
        held := c.held ++ [c.nextId] })) := by
  unfold submit
  split
  · exact .inl ⟨_, c.nextId, rfl, Nat.le_refl _⟩
  · split
    · exact .inr rfl
    · exact .inl ⟨_, c.nextId + 1, rfl, Nat.le_succ _⟩

/-- The dispatcher takes the first envelope, or stops where none can come any more, or does
nothing. -/
theorem dispatch_cases (c : Correlator α β) :
    (∃ e rest, c.listens = true ∧ c.channel.replies = e :: rest ∧
      c.dispatch = resolve { c with channel := { c.channel with replies := rest } } e) ∨
    (c.listens = true ∧ c.channel.replies = [] ∧ c.channel.sends = false ∧
      c.dispatch = { c with pending := [], listens := false }) ∨
    (c.isIdle = true ∧ c.dispatch = c) := by
  unfold dispatch isIdle
  cases hl : c.listens with
  | false => exact .inr (.inr ⟨rfl, rfl⟩)
  | true =>
    cases hr : c.channel.replies with
    | cons e rest => exact .inl ⟨e, rest, rfl, rfl, rfl⟩
    | nil =>
      cases hs : c.channel.sends with
      | false => exact .inr (.inl ⟨rfl, rfl, rfl, rfl⟩)
      | true => exact .inr (.inr ⟨rfl, rfl⟩)

theorem exists_channel_take (c : Correlator α β) : ∃ channel, c.take.2 = { c with channel } := by
  unfold take
  split
  · exact ⟨_, rfl⟩
  · exact ⟨c.channel, rfl⟩

theorem exists_channel_reply (c : Correlator α β) (e : Envelope β) :
    ∃ channel, (c.reply e).2 = { c with channel } := by
  unfold reply
  split
  · exact ⟨c.channel, rfl⟩
  · split
    · exact ⟨c.channel, rfl⟩
    · exact ⟨_, rfl⟩

namespace Coherent

variable {c : Correlator α β}

theorem withChannel (h : c.Coherent) (channel : Channel α β) : { c with channel }.Coherent :=
  { h with }

theorem submit (h : c.Coherent) (a : α) : (c.submit a).2.Coherent := by
  rcases submit_cases c a with ⟨e, n, hs, hn⟩ | hs
  · rw [hs]
    exact { h with held_lt := fun id hid => Nat.lt_of_lt_of_le (h.held_lt id hid) hn }
  · rw [hs]
    have fresh : c.nextId ∉ c.held := fun hid => Nat.lt_irrefl _ (h.held_lt _ hid)
    constructor
    · intro id hid
      simp only [List.mem_append, List.mem_singleton] at hid
      rcases hid with hid | rfl
      · exact Nat.lt_succ_of_lt (h.held_lt id hid)
      · exact Nat.lt_succ_self _
    · intro id hid
      simp only [List.mem_append, List.mem_singleton] at hid ⊢
      exact hid.imp_left (h.pending_held id)
    · intro d hd
      exact List.mem_append_left _ (h.delivered_held d hd)
    · intro d hd hid
      simp only [List.mem_append, List.mem_singleton] at hid
      rcases hid with hid | hid
      · exact h.delivered_pending d hd hid
      · exact fresh (hid ▸ h.delivered_held d hd)
    · exact h.delivered_nodup

theorem resolve (h : c.Coherent) (e : Envelope β) : (c.resolve e).Coherent := by
  unfold Correlator.resolve
  split
  · rename_i hp
    have hp : e.id ∈ c.pending := by simpa using hp
    constructor
    · exact h.held_lt
    · intro id hid
      exact h.pending_held id (List.mem_filter.mp hid).1
    · intro d hd
      simp only [List.mem_append, List.mem_singleton] at hd
      rcases hd with hd | rfl
      · exact h.delivered_held d hd
      · exact h.pending_held _ hp
    · intro d hd hid
      simp only [List.mem_append, List.mem_singleton] at hd
      simp only [List.mem_filter, bne_iff_ne, ne_eq] at hid
      rcases hd with hd | rfl
      · exact h.delivered_pending d hd hid.1
      · exact hid.2 rfl
    · simp only [List.map_append, List.map_cons, List.map_nil]
      refine List.nodup_append.mpr ⟨h.delivered_nodup, by simp, ?_⟩
      intro a ha b hb hab
      obtain ⟨d, hd, rfl⟩ := List.mem_map.mp ha
      have hb : b = e.id := by simpa using hb
      exact h.delivered_pending d hd (by rw [hab, hb]; exact hp)
  · exact h

theorem dispatch (h : c.Coherent) : c.dispatch.Coherent := by
  rcases dispatch_cases c with ⟨e, rest, -, -, hd⟩ | ⟨-, -, -, hd⟩ | ⟨-, hd⟩
  · rw [hd]
    exact (h.withChannel _).resolve e
  · rw [hd]
    exact { h with pending_held := by simp, delivered_pending := by simp }
  · rw [hd]
    exact h

theorem forget (h : c.Coherent) (id : Nat) : (c.forget id).Coherent := by
  unfold Correlator.forget
  constructor
  · intro i hi
    exact h.held_lt i (List.mem_filter.mp hi).1
  · intro i hi
    obtain ⟨hi, hne⟩ := List.mem_filter.mp hi
    exact List.mem_filter.mpr ⟨h.pending_held i hi, hne⟩
  · intro d hd
    obtain ⟨hd, hne⟩ := List.mem_filter.mp hd
    exact List.mem_filter.mpr ⟨h.delivered_held d hd, hne⟩
  · intro d hd hi
    exact h.delivered_pending d (List.mem_filter.mp hd).1 (List.mem_filter.mp hi).1
  · exact h.delivered_nodup.sublist (List.filter_sublist.map _)

theorem poll (h : c.Coherent) (id : Nat) : (c.poll id).2.Coherent := by
  unfold Correlator.poll
  split
  · exact h
  · exact h.forget id

theorem take (h : c.Coherent) : c.take.2.Coherent := by
  obtain ⟨channel, hc⟩ := c.exists_channel_take
  rw [hc]
  exact h.withChannel channel

theorem reply (h : c.Coherent) (e : Envelope β) : (c.reply e).2.Coherent := by
  obtain ⟨channel, hc⟩ := c.exists_channel_reply e
  rw [hc]
  exact h.withChannel channel

theorem drop (h : c.Coherent) : c.drop.Coherent :=
  { h with
    pending_held := fun _ hid => absurd hid List.not_mem_nil
    delivered_pending := fun _ _ => List.not_mem_nil }

theorem act (h : c.Coherent) (a : Action α β) : (c.act a).Coherent := by
  cases a with
  | submit a => exact h.submit a
  | poll id => exact h.poll id
  | forget id => exact h.forget id
  | drop => exact h.drop
  | dispatch => exact h.dispatch
  | take => exact h.take
  | reply e => exact h.reply e
  | dropRequests => exact h.withChannel _
  | dropReplies => exact h.withChannel _

theorem run {log : List (Event β)} (h : Run log c) : c.Coherent := by
  induction h with
  | connected => exact coherent_connected
  | unavailable reason => exact coherent_unavailable reason
  | step _ a _ ih => exact ih.act a

/-! ## What has become of a call -/

theorem find?_delivered (h : c.Coherent) (id : Nat) (b : β) :
    (c.delivered.find? fun d => d.1 == id) = some (id, b) ↔ (id, b) ∈ c.delivered := by
  constructor
  · exact List.mem_of_find?_eq_some
  · intro hm
    cases hf : c.delivered.find? fun d => d.1 == id with
    | none => exact absurd (List.find?_eq_none.mp hf _ hm) (by simp)
    | some d =>
      have hd : d.1 = id := by simpa using List.find?_some hf
      have hdm := List.mem_of_find?_eq_some hf
      rw [List.inj_on_of_nodup_map h.delivered_nodup hdm hm hd]

theorem result?_eq_ok_iff (h : c.Coherent) (id : Nat) (b : β) :
    c.result? id = some (.ok b) ↔ (id, b) ∈ c.delivered := by
  rw [← h.find?_delivered]
  unfold result?
  cases hf : c.delivered.find? fun d => d.1 == id with
  | none => simp
  | some d =>
    have hd : d.1 = id := by simpa using List.find?_some hf
    obtain ⟨i, x⟩ := d
    subst hd
    simp

theorem result?_eq_none_iff (h : c.Coherent) (id : Nat) : c.result? id = none ↔ id ∈ c.pending := by
  unfold result?
  cases hf : c.delivered.find? fun d => d.1 == id with
  | none => simp
  | some d =>
    have hd : d.1 = id := by simpa using List.find?_some hf
    have hp := h.delivered_pending d (List.mem_of_find?_eq_some hf)
    simpa [hd] using hp

/-- A reply decides its call if that is pending, and no other one. -/
theorem result?_resolve (h : c.Coherent) (e : Envelope β) (id : Nat) :
    (c.resolve e).result? id =
      if e.id = id ∧ id ∈ c.pending then some (.ok e.payload) else c.result? id := by
  by_cases hp : e.id ∈ c.pending
  · have hr : c.resolve e = { c with
        pending := c.pending.filter (· != e.id)
        delivered := c.delivered ++ [(e.id, e.payload)] } := by simp [Correlator.resolve, hp]
    by_cases hid : e.id = id
    · have hnew := (h.resolve e).result?_eq_ok_iff id e.payload
      rw [if_pos ⟨hid, hid ▸ hp⟩, hnew, hr, ← hid]
      exact List.mem_append_right _ (List.mem_singleton_self _)
    · have hne : ¬ id = e.id := fun heq => hid heq.symm
      rw [if_neg (fun hh => hid hh.1), hr]
      simp [result?, List.find?_append, hid, hne]
  · have hr : c.resolve e = c := by simp [Correlator.resolve, hp]
    have hno : ¬ (e.id = id ∧ id ∈ c.pending) := fun ⟨hid, hm⟩ => hp (hid ▸ hm)
    rw [hr, if_neg hno]

theorem result?_submit (h : c.Coherent) (a : α) {id : Nat} (hid : id ∈ c.held) :
    (c.submit a).2.result? id = c.result? id := by
  rcases submit_cases c a with ⟨e, n, hs, -⟩ | hs
  · rw [hs]
    rfl
  · rw [hs]
    have hne : id ≠ c.nextId := Nat.ne_of_lt (h.held_lt id hid)
    simp [result?, hne]

end Coherent

/-- Where nothing is pending any more, the calls without a reply have failed. -/
theorem result?_stopped {c d : Correlator α β} (hd : d.delivered = c.delivered)
    (hp : d.pending = []) (id : Nat) :
    d.result? id = some ((c.result? id).getD (.error .disconnected)) := by
  unfold result?
  rw [hd, hp]
  cases c.delivered.find? fun d => d.1 == id with
  | none => by_cases hp : id ∈ c.pending <;> simp [hp]
  | some d => simp

theorem result?_forget (c : Correlator α β) {id other : Nat} (hne : id ≠ other) :
    (c.forget other).result? id = c.result? id := by
  have hf : (c.delivered.filter fun d => d.1 != other).find? (fun d => d.1 == id) =
      c.delivered.find? fun d => d.1 == id := by
    rw [List.find?_filter]
    congr 1
    funext d
    by_cases hd : d.1 = id <;> simp [hd, hne]
  simp [result?, forget, hf, hne]

end RuleBench.Correlator
