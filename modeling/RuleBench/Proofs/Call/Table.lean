import Mathlib.Data.Set.Card
import RuleBench.Proofs.Call.Course

set_option autoImplicit false

/-!
# The table of pending calls

While replies are dispatched, the pending calls are those that are open by what was seen of the
course.  Numbers go to calls one after another, so that a call under a number that is taken out of
the table again leaves it as it was.
-/

namespace RuleBench.Correlator

variable {α β : Type} {past : List (Turn α β)} {c d : Correlator α β}

/-- The number of a call was returned to its caller, and since then no reply to it was dispatched
and its handle was not released. -/
def Open (past : List (Turn α β)) (id : Nat) : Prop :=
  ∃ earlier t later, past = earlier ++ t :: later ∧ (∃ e, t.submitted? = some e ∧ e.id = id) ∧
    (∀ e ∈ dispatched (logOf later), e.id ≠ id) ∧ id ∉ released later

/-- What one more turn does to open calls. -/
theorem open_concat (past : List (Turn α β)) (t : Turn α β) (id : Nat) :
    Open (past ++ [t]) id ↔ (∃ e, t.submitted? = some e ∧ e.id = id) ∨
      (Open past id ∧ (∀ e ∈ dispatched (t.met.events t.action), e.id ≠ id) ∧
        t.released? ≠ some id) := by
  constructor
  · rintro ⟨earlier, u, later, heq, hu, hd, hr⟩
    rcases List.eq_nil_or_concat later with rfl | ⟨later, x, rfl⟩
    · obtain ⟨-, hlast⟩ := List.append_inj' heq rfl
      rw [(List.cons.inj hlast).1]
      exact .inl hu
    · rw [List.concat_eq_append, ← List.cons_append, ← List.append_assoc] at heq
      obtain ⟨rfl, hlast⟩ := List.append_inj' heq rfl
      obtain rfl := (List.cons.inj hlast).1
      rw [List.concat_eq_append] at hd hr
      rw [logOf_concat, dispatched_append] at hd
      rw [released, filterMap_concat] at hr
      refine .inr ⟨⟨earlier, u, later, rfl, hu, ?_, ?_⟩, ?_, ?_⟩
      · exact fun e he => hd e (List.mem_append_left _ he)
      · exact fun hid => hr (List.mem_append_left _ hid)
      · exact fun e he => hd e (List.mem_append_right _ he)
      · exact fun hid => hr (List.mem_append_right _ (Option.mem_toList.mpr hid))
  · rintro (hu | ⟨⟨earlier, u, later, rfl, hu, hd, hr⟩, hd', hr'⟩)
    · exact ⟨past, t, [], rfl, hu, by simp [logOf, dispatched], by simp [released]⟩
    · refine ⟨earlier, u, later ++ [t], by simp, hu, ?_, ?_⟩
      · rw [logOf_concat, dispatched_append]
        exact fun e he => (List.mem_append.mp he).elim (hd e) (hd' e)
      · rw [released, filterMap_concat]
        exact fun hid => (List.mem_append.mp hid).elim hr fun hid =>
          hr' (Option.mem_toList.mp hid)

/-! ## Submitting step by step -/

/-- Enters a call in the table, under the next number. -/
def enter (c : Correlator α β) : Correlator α β :=
  { c with nextId := c.nextId + 1, pending := c.pending ++ [c.nextId] }

/-- Takes a call out of the table again. -/
def withdraw (c : Correlator α β) (id : Nat) : Correlator α β :=
  { c with pending := c.pending.filter (· != id) }

/-- Sends a request whose call has been entered, if the peer takes it. -/
def transmit (c : Correlator α β) (e : Envelope α) : Option (Correlator α β) :=
  if c.channel.takes && !c.dropped then
    some { c with
      channel := { c.channel with requests := c.channel.requests ++ [e] }
      held := c.held ++ [e.id] }
  else none

/-- Submits as callers do: a call is entered before its request is sent, so that no reply can come
before, and is withdrawn if the request is refused. -/
def submitStepwise (c : Correlator α β) (a : α) : Except CallError Nat × Correlator α β :=
  match c.refusal with
  | some reason => (.error (.unavailable reason), c)
  | none =>
    match c.enter.transmit ⟨c.nextId, a⟩ with
    | some sent => (.ok c.nextId, sent)
    | none => (.error .closed, c.enter.withdraw c.nextId)

/-- No call has had the next number, so nothing else goes when it is withdrawn. -/
theorem Coherent.withdraw_enter (h : c.Coherent) :
    c.enter.withdraw c.nextId = { c with nextId := c.nextId + 1 } := by
  have fresh : ∀ id ∈ c.pending, (id != c.nextId) = true := by
    intro id hid
    simpa using Nat.ne_of_lt (h.held_lt id (h.pending_held id hid))
  simp [enter, withdraw, List.filter_append, List.filter_eq_self.mpr fresh]

theorem Coherent.submitStepwise_eq (h : c.Coherent) (a : α) : c.submitStepwise a = c.submit a := by
  unfold submitStepwise Correlator.submit
  cases hr : c.refusal with
  | some reason => rfl
  | none =>
    cases ht : c.channel.takes && !c.dropped with
    | true => simp [transmit, enter, ht, hr]
    | false =>
      have hunsent : (c.enter.channel.takes && !c.enter.dropped) = false := ht
      simp [transmit, hunsent, h.withdraw_enter, hr]

theorem submit_alive_cases (alive : c.dropped = false) (a : α) :
    (∃ reason, c.refusal = some reason ∧ c.submit a = (.error (.unavailable reason), c)) ∨
    (c.refusal = none ∧ c.channel.takes = false ∧
      c.submit a = (.error .closed, { c with nextId := c.nextId + 1 })) ∨
    (c.channel.takes = true ∧ c.submit a = (.ok c.nextId,
      { c with
        channel := { c.channel with requests := c.channel.requests ++ [⟨c.nextId, a⟩] }
        nextId := c.nextId + 1
        pending := c.pending ++ [c.nextId]
        held := c.held ++ [c.nextId] })) := by
  unfold submit
  cases hr : c.refusal with
  | some reason => exact .inl ⟨reason, rfl, rfl⟩
  | none =>
    cases ht : c.channel.takes with
    | false => exact .inr (.inl ⟨rfl, rfl, by simp⟩)
    | true => exact .inr (.inr ⟨rfl, by simp [alive]⟩)

/-- A submission that fails leaves everything but the next number as it was. -/
theorem submit_eq_error {a : α} {e : CallError} (h : c.submit a = (.error e, d)) :
    ((∃ reason, c.refusal = some reason ∧ e = .unavailable reason) ∨
      (c.refusal = none ∧ e = .closed)) ∧ d = { c with nextId := d.nextId } := by
  unfold submit at h
  split at h
  · rename_i reason hr
    cases h
    exact ⟨.inl ⟨reason, hr, rfl⟩, rfl⟩
  · rename_i hr
    split at h
    · cases h
    · cases h
      exact ⟨.inr ⟨hr, rfl⟩, rfl⟩

/-! ## Numbers -/

theorem dispatch_outbound (c : Correlator α β) :
    c.dispatch.channel.requests = c.channel.requests ∧
      c.dispatch.channel.takes = c.channel.takes ∧ c.dispatch.nextId = c.nextId := by
  rcases dispatch_cases c with ⟨e, rest, -, -, hd⟩ | ⟨-, -, -, hd⟩ | ⟨-, hd⟩
  · rw [hd]
    unfold resolve
    split <;> exact ⟨rfl, rfl, rfl⟩
  · rw [hd]
    exact ⟨rfl, rfl, rfl⟩
  · rw [hd]
    exact ⟨rfl, rfl, rfl⟩

theorem reply_outbound (c : Correlator α β) (e : Envelope β) :
    (c.reply e).2.channel.requests = c.channel.requests ∧
      (c.reply e).2.channel.takes = c.channel.takes ∧ (c.reply e).2.nextId = c.nextId := by
  unfold reply
  split
  · exact ⟨rfl, rfl, rfl⟩
  · split <;> exact ⟨rfl, rfl, rfl⟩

/-- Calls are numbered one after another, and their requests lie in the channel in that order until
the peer takes them. -/
structure Numbered (past : List (Turn α β)) (c : Correlator α β) : Prop where
  ids : (submitted past).map (·.id) = List.range (submitted past).length
  le : (submitted past).length ≤ c.nextId
  next : c.channel.takes = true → c.nextId = (submitted past).length
  sent : taken past ++ c.channel.requests <+: submitted past
  whole : c.channel.takes = true → taken past ++ c.channel.requests = submitted past

namespace Numbered

/-- A turn in which nothing is sent or taken. -/
theorem quiet (h : Numbered past c) {t : Turn α β} (hs : t.submitted? = none)
    (ht : t.taken? = none) (hr : d.channel.requests = c.channel.requests)
    (hn : c.nextId ≤ d.nextId)
    (htakes : d.channel.takes = true → c.channel.takes = true ∧ d.nextId = c.nextId) :
    Numbered (past ++ [t]) d := by
  have hsub : submitted (past ++ [t]) = submitted past := by simp [submitted, hs]
  have htak : taken (past ++ [t]) = taken past := by simp [taken, ht]
  constructor
  · rw [hsub]
    exact h.ids
  · rw [hsub]
    exact Nat.le_trans h.le hn
  · intro hd
    rw [hsub, (htakes hd).2]
    exact h.next (htakes hd).1
  · rw [hsub, htak, hr]
    exact h.sent
  · intro hd
    rw [hsub, htak, hr]
    exact h.whole (htakes hd).1

theorem submit (h : Numbered past c) (alive : c.dropped = false) (a : α) :
    Numbered (past ++ [⟨c, .submit a⟩]) (c.submit a).2 := by
  rcases submit_alive_cases alive a with ⟨reason, -, hs⟩ | ⟨-, hno, hs⟩ | ⟨htakes, hs⟩
  · have hnone : Turn.submitted? ⟨c, .submit a⟩ = none := by simp [Turn.submitted?, hs]
    rw [hs]
    exact h.quiet hnone rfl rfl (Nat.le_refl _) fun htakes => ⟨htakes, rfl⟩
  · have hnone : Turn.submitted? ⟨c, .submit a⟩ = none := by simp [Turn.submitted?, hs]
    rw [hs]
    exact h.quiet hnone rfl rfl (Nat.le_succ _) fun htakes => nomatch hno.symm.trans htakes
  · have hsome : Turn.submitted? ⟨c, .submit a⟩ = some ⟨c.nextId, a⟩ := by
      simp [Turn.submitted?, hs]
    have hsub : submitted (past ++ [⟨c, .submit a⟩]) = submitted past ++ [⟨c.nextId, a⟩] := by
      simp [submitted, hsome]
    have htak : taken (past ++ [⟨c, .submit a⟩]) = taken past := by
      simp [taken, Turn.taken?]
    have hwhole : taken past ++ (c.channel.requests ++ [⟨c.nextId, a⟩]) =
        submitted past ++ [⟨c.nextId, a⟩] := by rw [← List.append_assoc, h.whole htakes]
    rw [hs]
    constructor
    · rw [hsub, List.map_append, h.ids, List.length_append, List.length_singleton,
        List.range_succ, ← h.next htakes]
      rfl
    · simp only [hsub, List.length_append, List.length_singleton, h.next htakes, Nat.le_refl]
    · intro _
      simp only [hsub, List.length_append, List.length_singleton, h.next htakes]
    · rw [hsub, htak]
      exact hwhole ▸ List.prefix_rfl
    · intro _
      rw [hsub, htak]
      exact hwhole

theorem take (h : Numbered past c) : Numbered (past ++ [⟨c, .take⟩]) c.take.2 := by
  have hsub : submitted (past ++ [⟨c, .take⟩]) = submitted past := by
    simp [submitted, Turn.submitted?]
  have hrow : taken (past ++ [⟨c, .take⟩]) ++ c.take.2.channel.requests =
      taken past ++ c.channel.requests := by
    simp only [taken, filterMap_concat, Turn.taken?, Correlator.take]
    split <;> simp_all
  have hkeep : c.take.2.channel.takes = c.channel.takes ∧ c.take.2.nextId = c.nextId := by
    unfold Correlator.take
    split <;> exact ⟨rfl, rfl⟩
  constructor
  · rw [hsub]
    exact h.ids
  · rw [hsub, hkeep.2]
    exact h.le
  · rw [hsub, hkeep.1, hkeep.2]
    exact h.next
  · rw [hsub, hrow]
    exact h.sent
  · rw [hsub, hrow, hkeep.1]
    exact h.whole

/-- Requests that lie in the channel are lost when the peer takes no more of them. -/
theorem dropRequests (h : Numbered past c) :
    Numbered (past ++ [⟨c, .dropRequests⟩]) c.dropRequests := by
  have hsub : submitted (past ++ [⟨c, .dropRequests⟩]) = submitted past := by
    simp [submitted, Turn.submitted?]
  have htak : taken (past ++ [⟨c, .dropRequests⟩]) = taken past := by
    simp [taken, Turn.taken?]
  constructor
  · rw [hsub]
    exact h.ids
  · rw [hsub]
    exact h.le
  · exact fun htakes => nomatch htakes
  · rw [hsub, htak]
    exact (List.prefix_append_right_inj _).mpr (List.nil_prefix) |>.trans h.sent
  · exact fun htakes => nomatch htakes

end Numbered

/-! ## Open calls -/

/-- While replies are dispatched, the calls in the table are the open ones, each once. -/
structure Tabled (past : List (Turn α β)) (c : Correlator α β) : Prop where
  nodup : c.pending.Nodup
  pending_iff : c.listens = true → ∀ id, id ∈ c.pending ↔ Open past id

namespace Tabled

/-- What a turn does to the table has to be what it does to the open calls. -/
theorem turn (h : Tabled past c) (t : Turn α β) (hn : d.pending.Nodup)
    (hl : d.listens = true → c.listens = true)
    (hp : d.listens = true → ∀ id, id ∈ d.pending ↔ (∃ e, t.submitted? = some e ∧ e.id = id) ∨
      (id ∈ c.pending ∧ (∀ e ∈ dispatched (t.met.events t.action), e.id ≠ id) ∧
        t.released? ≠ some id)) : Tabled (past ++ [t]) d := by
  refine ⟨hn, fun hd id => ?_⟩
  rw [open_concat, hp hd id, h.pending_iff (hl hd)]

/-- A turn that has to do with no call. -/
theorem quiet (h : Tabled past c) {t : Turn α β} (hs : t.submitted? = none)
    (he : t.met.events t.action = []) (hr : t.released? = none) (hp : d.pending = c.pending)
    (hl : d.listens = true → c.listens = true) : Tabled (past ++ [t]) d := by
  refine h.turn t (hp ▸ h.nodup) hl fun _ id => ?_
  simp [hs, he, hr, hp, dispatched]

theorem submit (h : Tabled past c) (hc : c.Coherent) (a : α) :
    Tabled (past ++ [⟨c, .submit a⟩]) (c.submit a).2 := by
  rcases submit_cases c a with ⟨e, n, hs, -⟩ | hs
  · have hnone : Turn.submitted? ⟨c, .submit a⟩ = none := by simp [Turn.submitted?, hs]
    rw [hs]
    exact h.quiet hnone rfl rfl rfl id
  · have hsome : Turn.submitted? ⟨c, .submit a⟩ = some ⟨c.nextId, a⟩ := by
      simp [Turn.submitted?, hs]
    have fresh : c.nextId ∉ c.pending := fun hid =>
      Nat.lt_irrefl _ (hc.held_lt _ (hc.pending_held _ hid))
    rw [hs]
    refine h.turn _ ?_ id fun _ id => ?_
    · exact List.nodup_append.mpr ⟨h.nodup, List.nodup_singleton _, fun x hx y hy hxy =>
        fresh (List.mem_singleton.mp hy ▸ hxy ▸ hx)⟩
    · simp [hsome, events, dispatched, Turn.released?, eq_comm (a := c.nextId), or_comm]

/-- The handle of a call goes, whatever has become of the call. -/
theorem release (h : Tabled past c) {t : Turn α β} {id : Nat} (hs : t.submitted? = none)
    (he : dispatched (t.met.events t.action) = []) (hr : t.released? = some id) :
    Tabled (past ++ [t]) (c.forget id) := by
  refine h.turn t (h.nodup.filter _) (fun hl => hl) fun _ other => ?_
  simp [hs, he, hr, Correlator.forget, eq_comm (a := id)]

theorem poll (h : Tabled past c) (id : Nat) :
    Tabled (past ++ [⟨c, .poll id⟩]) (c.poll id).2 := by
  cases hr : c.result? id with
  | none =>
    have hp : c.poll id = (none, c) := by simp [Correlator.poll, hr]
    rw [hp]
    exact h.quiet rfl (by simp [events, hr]) (by simp [Turn.released?, hp]) rfl fun hl => hl
  | some r =>
    have hp : c.poll id = (some r, c.forget id) := by simp [Correlator.poll, hr]
    rw [hp]
    exact h.release rfl (by simp [events, hr, dispatched]) (by simp [Turn.released?, hp])

theorem dispatch (h : Tabled past c) : Tabled (past ++ [⟨c, .dispatch⟩]) c.dispatch := by
  rcases dispatch_cases c with ⟨e, rest, hl, hr, hd⟩ | ⟨-, -, -, hd⟩ | ⟨hi, hd⟩
  · have he : dispatched (c.events .dispatch) = [e] := by
      rw [events_dispatch_of_cons hl hr]
      rfl
    have hp : c.dispatch.pending = c.pending.filter (· != e.id) := by
      rw [hd]
      unfold resolve
      split
      · rfl
      · rename_i hno
        refine (List.filter_eq_self.mpr fun id hid => ?_).symm
        have hne : id ≠ e.id := fun heq => hno (by simpa [← heq] using hid)
        simpa using hne
    refine h.turn _ (hp ▸ h.nodup.filter _) (fun _ => hl) fun _ id => ?_
    rw [hp, he]
    simp [Turn.submitted?, Turn.released?, eq_comm (a := e.id)]
  · rw [hd]
    exact ⟨List.nodup_nil, nofun⟩
  · rw [hd]
    exact h.quiet rfl (events_dispatch_of_isIdle hi) rfl rfl fun hl => hl

end Tabled

theorem Course.numbered (h : Course past c) : Numbered past c := by
  induction h with
  | connected => exact ⟨rfl, Nat.zero_le _, fun _ => rfl, List.nil_prefix, fun _ => rfl⟩
  | unavailable reason => exact ⟨rfl, Nat.zero_le _, nofun, List.nil_prefix, nofun⟩
  | @step past c _ a ok ih =>
    cases a with
    | submit a => exact ih.submit ok a
    | take => exact ih.take
    | dropRequests => exact ih.dropRequests
    | poll id =>
      simp only [act, Correlator.poll]
      split <;> exact ih.quiet rfl rfl rfl (Nat.le_refl _) fun htakes => ⟨htakes, rfl⟩
    | dispatch =>
      obtain ⟨hr, ht, hn⟩ := c.dispatch_outbound
      exact ih.quiet rfl rfl hr hn.ge fun htakes => ⟨ht ▸ htakes, hn⟩
    | reply e =>
      obtain ⟨hr, ht, hn⟩ := c.reply_outbound e
      exact ih.quiet rfl rfl hr hn.ge fun htakes => ⟨ht ▸ htakes, hn⟩
    | forget id | drop | dropReplies =>
      exact ih.quiet rfl rfl rfl (Nat.le_refl _) fun htakes => ⟨htakes, rfl⟩

theorem Numbered.lt (h : Numbered past c) {e : Envelope α} (he : e ∈ submitted past) :
    e.id < c.nextId := by
  have hid : e.id ∈ (submitted past).map (·.id) := List.mem_map_of_mem he
  rw [h.ids, List.mem_range] at hid
  exact Nat.lt_of_lt_of_le hid h.le

theorem Course.tabled (h : Course past c) : Tabled past c := by
  induction h with
  | connected => exact ⟨List.nodup_nil, fun _ id => by simp [Correlator.connected, Open]⟩
  | unavailable reason => exact ⟨List.nodup_nil, fun hl => Bool.noConfusion hl⟩
  | @step past c h a ok ih =>
    cases a with
    | submit a => exact ih.submit h.coherent a
    | poll id => exact ih.poll id
    | forget id => exact ih.release rfl rfl rfl
    | dispatch => exact ih.dispatch
    | drop => exact ⟨List.nodup_nil, fun hl => Bool.noConfusion hl⟩
    | take =>
      obtain ⟨channel, hc⟩ := c.exists_channel_take
      simp only [act, hc]
      exact ih.quiet rfl rfl rfl rfl fun hl => hl
    | reply e =>
      obtain ⟨channel, hc⟩ := c.exists_channel_reply e
      simp only [act, hc]
      exact ih.quiet rfl rfl rfl rfl fun hl => hl
    | dropRequests | dropReplies => exact ih.quiet rfl rfl rfl rfl fun hl => hl

/-- While the correlator is there and replies are dispatched, the table holds the open calls, each
once, and so counts them.  The requests in the channel are numbered from 0 in the order in which
they were submitted.  A request that is refused leaves everything but the next number as it was,
though its call has been in the table. -/
theorem table_holds_open_calls (h : Course past c) :
    (c.dropped = false → c.listens = true → (∀ id, id ∈ c.pending ↔ Open past id) ∧
      c.pending.Nodup ∧ c.pendingCount = Set.ncard {id | Open past id}) ∧
    ((submitted past).map (·.id) = List.range (submitted past).length ∧
      taken past ++ c.channel.requests <+: submitted past ∧
      (c.channel.takes = true → taken past ++ c.channel.requests = submitted past)) ∧
    ∀ a, c.submitStepwise a = c.submit a ∧ ∀ e d, c.submit a = (.error e, d) →
      ((∃ reason, c.refusal = some reason ∧ e = .unavailable reason) ∨
        (c.refusal = none ∧ e = .closed)) ∧ d = { c with nextId := d.nextId } := by
  have numbered := h.numbered
  have tabled := h.tabled
  refine ⟨fun _ hl => ⟨tabled.pending_iff hl, tabled.nodup, ?_⟩,
    ⟨numbered.ids, numbered.sent, numbered.whole⟩,
    fun a => ⟨h.coherent.submitStepwise_eq a, fun _ _ => submit_eq_error⟩⟩
  have hopen : {id | Open past id} = (c.pending.toFinset : Set Nat) := by
    ext id
    simp [tabled.pending_iff hl]
  rw [hopen, Set.ncard_coe_finset, List.toFinset_card_of_nodup tabled.nodup, pendingCount]

/-- Of three calls one has been answered and one given up; then the peer takes no more requests, and
a fourth one is refused. -/
theorem one_of_three_is_open : ∃ (past : List (Turn Unit String)) (c : Correlator Unit String),
    Course past c ∧ c.dropped = false ∧ c.listens = true ∧ (∀ id, Open past id ↔ id = 2) ∧
      Set.ncard {id | Open past id} = 1 ∧ (c.submit ()).1 = .error .closed ∧
      (c.submit ()).2.pending = [2] := by
  have sent : Course (β := String) _ _ :=
    ((Course.connected.step (.submit ()) rfl).step (.submit ()) rfl).step (.submit ()) rfl
  have answered := (sent.step (.reply ⟨1, "b"⟩) trivial).step .dispatch trivial
  have closed := (answered.step (.forget 0) (.head _)).step .dropRequests trivial
  obtain ⟨htable, -, hsubmit⟩ := table_holds_open_calls closed
  obtain ⟨hopen, -, hcount⟩ := htable rfl rfl
  obtain ⟨-, hsame⟩ := (hsubmit ()).2 .closed _ rfl
  refine ⟨_, _, closed, rfl, rfl, fun id => ?_, hcount.symm.trans rfl, rfl, ?_⟩
  · rw [← hopen]
    exact List.mem_singleton
  · exact (congrArg Correlator.pending hsame).trans rfl

end RuleBench.Correlator
