import RuleBench.Proofs.Call.Ending
import RuleBench.Proofs.Call.Table

set_option autoImplicit false

/-!
# Before anybody is told to wait no longer

While the correlator is there, nobody is told that no reply can come before every reply that the
peer has sent is dispatched.  So a call that a reply was sent to while it was pending gets one, and
the others that were made before the peer gave up its sender are told then.  When the correlator
goes, what is not dispatched is lost, but what has been dispatched can still be picked up.
-/

namespace RuleBench.Correlator

variable {α β : Type} {past before after : List (Turn α β)} {c d : Correlator α β}

/-- What becomes of a call that no reply can come to any more. -/
def outcome (id : Nat) (log : List (Event β)) : Except CallError β :=
  match firstAnswer? id log with
  | some b => .ok b
  | none => .error .disconnected

theorem eq_disconnected_of_result? {id : Nat} {e : CallError}
    (h : c.result? id = some (.error e)) : e = .disconnected := by
  unfold result? at h
  split at h
  · cases h
  · split at h
    · cases h
    · cases h
      rfl

theorem Course.poll_of_not_pending (h : Course past c) {id : Nat} (held : id ∈ c.held)
    (hp : id ∉ c.pending) : (c.poll id).1 = some (outcome id (logOf past)) := by
  have ha := Accounts.run h.run
  have first (b : β) : c.result? id = some (.ok b) ↔ firstAnswer? id (logOf past) = some b := by
    rw [ha.held id held, firstAnswer?_eq_some_iff ha.nodup]
  rw [poll_fst, outcome]
  cases hr : c.result? id with
  | none => exact absurd ((h.coherent.result?_eq_none_iff id).mp hr) hp
  | some r =>
    cases r with
    | ok b => rw [(first b).mp hr]
    | error e =>
      cases hf : firstAnswer? id (logOf past) with
      | none => rw [eq_disconnected_of_result? hr]
      | some b =>
        rw [(first b).mpr hf] at hr
        cases hr

/-! ## Replies on their way -/

/-- The replies sent lie in a row: those that have been dispatched, and those in the channel. -/
structure Conveyed (past : List (Turn α β)) (c : Correlator α β) : Prop where
  row : c.dropped = false → replied past = dispatched (logOf past) ++ c.channel.replies
  empty : c.listens = false → c.channel.replies = []
  closed : c.listens = false → c.dropped = false → c.channel.sends = false

namespace Conveyed

theorem quiet (h : Conveyed past c) {t : Turn α β} (hr : t.replied? = none)
    (he : dispatched (t.met.events t.action) = []) (hch : d.channel.replies = c.channel.replies)
    (hs : c.channel.sends = false → d.channel.sends = false) (hd : d.dropped = c.dropped)
    (hl : d.listens = c.listens) : Conveyed (past ++ [t]) d := by
  constructor
  · rw [hd, logOf_concat, dispatched_append, he, List.append_nil, hch]
    simpa [replied, hr] using h.row
  · rw [hl, hch]
    exact h.empty
  · rw [hl, hd]
    exact fun deaf alive => hs (h.closed deaf alive)

theorem empty_of_isIdle (h : Conveyed past c) (hi : c.isIdle = true) : c.channel.replies = [] := by
  simp only [isIdle, Bool.or_eq_true, Bool.not_eq_true', Bool.and_eq_true, List.isEmpty_iff] at hi
  exact hi.elim h.empty And.left

theorem reply (h : Conveyed past c) (e : Envelope β) :
    Conveyed (past ++ [⟨c, .reply e⟩]) (c.reply e).2 := by
  have quiet (hr : (c.reply e).1 ≠ .sent) (hd : (c.reply e).2 = c) :
      Conveyed (past ++ [⟨c, .reply e⟩]) (c.reply e).2 := by
    have hnone : Turn.replied? ⟨c, .reply e⟩ = none := by simp [Turn.replied?, hr]
    rw [hd]
    exact h.quiet hnone rfl rfl id rfl rfl
  cases hs : c.channel.sends with
  | false => exact quiet (by simp [Correlator.reply, hs]) (by simp [Correlator.reply, hs])
  | true =>
    cases hd : c.dropped with
    | true => exact quiet (by simp [Correlator.reply, hs, hd]) (by simp [Correlator.reply, hs, hd])
    | false =>
      have hsent : (c.reply e).1 = .sent ∧
          (c.reply e).2.channel.replies = c.channel.replies ++ [e] ∧
          (c.reply e).2.listens = c.listens := by simp [Correlator.reply, hs, hd]
      obtain ⟨hr, hch, hl⟩ := hsent
      have hlistens : (c.reply e).2.listens ≠ false := fun deaf =>
        Bool.noConfusion (hs.symm.trans (h.closed (hl ▸ deaf) hd))
      constructor
      · intro _
        have hrep : replied (past ++ [⟨c, .reply e⟩]) = replied past ++ [e] := by
          simp [replied, Turn.replied?, hr]
        have hquiet : dispatched (c.events (.reply e)) = [] := rfl
        rw [hrep, h.row hd, logOf_concat, dispatched_append, hquiet, List.append_nil, hch,
          List.append_assoc]
      · exact fun deaf => absurd deaf hlistens
      · exact fun deaf => absurd deaf hlistens

theorem dispatch (h : Conveyed past c) : Conveyed (past ++ [⟨c, .dispatch⟩]) c.dispatch := by
  have hrep : replied (past ++ [⟨c, .dispatch⟩]) = replied past := by
    rw [replied, filterMap_concat]
    exact List.append_nil _
  rcases dispatch_cases c with ⟨e, rest, hl, hr, hd⟩ | ⟨hl, hr, hs, hd⟩ | ⟨hi, hd⟩
  · have hkeep : c.dispatch.channel.replies = rest ∧ c.dispatch.listens = true ∧
        c.dispatch.dropped = c.dropped := by
      rw [hd]
      unfold resolve
      split <;> exact ⟨rfl, hl, rfl⟩
    obtain ⟨hrest, hlistens, hdropped⟩ := hkeep
    constructor
    · intro alive
      have hone : dispatched (c.events .dispatch) = [e] := by
        rw [events_dispatch_of_cons hl hr]
        rfl
      rw [hrep, h.row (hdropped ▸ alive), logOf_concat, dispatched_append, hone, hrest, hr]
      simp
    · exact fun deaf => nomatch hlistens.symm.trans deaf
    · exact fun deaf => nomatch hlistens.symm.trans deaf
  · rw [hd]
    constructor
    · rw [hrep, logOf_concat, events_dispatch_of_nil hr, List.append_nil]
      exact h.row
    · exact fun _ => hr
    · exact fun _ _ => hs
  · rw [hd]
    exact h.quiet rfl (events_dispatch_of_isIdle hi ▸ rfl) rfl id rfl rfl

end Conveyed

theorem dispatched_events_poll (c : Correlator α β) (id : Nat) :
    dispatched (c.events (.poll id)) = [] := by
  cases hr : c.result? id <;> simp [events, dispatched, hr]

theorem poll_snd (c : Correlator α β) (id : Nat) :
    (c.poll id).2 = c ∨ (c.poll id).2 = c.forget id := by
  unfold poll
  split
  · exact .inl rfl
  · exact .inr rfl

theorem Course.conveyed (h : Course past c) : Conveyed past c := by
  induction h with
  | connected =>
    exact ⟨fun _ => rfl, fun deaf => Bool.noConfusion deaf, fun deaf => Bool.noConfusion deaf⟩
  | unavailable reason => exact ⟨fun _ => rfl, fun _ => rfl, fun _ _ => rfl⟩
  | @step past c h a ok ih =>
    cases a with
    | submit a =>
      rcases submit_cases c a with ⟨e, n, hs, -⟩ | hs
      · simp only [act, hs]
        exact ih.quiet rfl rfl rfl id rfl rfl
      · simp only [act, hs]
        exact ih.quiet rfl rfl rfl id rfl rfl
    | poll id =>
      have hquiet := dispatched_events_poll c id
      rcases c.poll_snd id with hp | hp
      · simp only [act, hp]
        exact ih.quiet rfl hquiet rfl (fun h => h) rfl rfl
      · simp only [act, hp]
        exact ih.quiet rfl hquiet rfl (fun h => h) rfl rfl
    | take =>
      simp only [act, Correlator.take]
      split <;> exact ih.quiet rfl rfl rfl id rfl rfl
    | reply e => exact ih.reply e
    | dispatch => exact ih.dispatch
    | drop =>
      exact ⟨fun alive => Bool.noConfusion alive, fun _ => rfl, fun _ alive => Bool.noConfusion alive⟩
    | forget id => exact ih.quiet rfl rfl rfl (fun h => h) rfl rfl
    | dropRequests => exact ih.quiet rfl rfl rfl id rfl rfl
    | dropReplies => exact ih.quiet rfl rfl rfl (fun _ => rfl) rfl rfl

/-! ## Who is told -/

/-- Every call that is held is pending or has its reply. -/
def Attended (c : Correlator α β) : Prop :=
  ∀ id ∈ c.held, id ∈ c.pending ∨ ∃ b, (id, b) ∈ c.delivered

theorem Change.deaf (h : Change c d) (hc : c.listens = false) : d.listens = false := by
  cases h with
  | answered _ _ listens => exact nomatch hc.symm.trans listens
  | ended h => rw [dispatch_of_ends h]
  | dropped => rfl
  | _ => exact hc

theorem Change.attended (h : Change c d) (hc : c.listens = true → c.Attended)
    (hd : d.listens = true) : d.Attended := by
  intro id hid
  cases h with
  | accepted =>
    rcases List.mem_append.mp hid with hid | hid
    · exact (hc hd id hid).imp_left (List.mem_append_left _)
    · exact .inl (List.mem_append_right _ hid)
  | forgotten other =>
    obtain ⟨hid, hne⟩ := List.mem_filter.mp hid
    refine (hc hd id hid).imp (fun hp => List.mem_filter.mpr ⟨hp, hne⟩) ?_
    exact fun ⟨b, hb⟩ => ⟨b, List.mem_filter.mpr ⟨hb, hne⟩⟩
  | answered e =>
    by_cases heq : id = e.id
    · exact .inr ⟨e.payload, List.mem_append_right _ (List.mem_singleton.mpr (heq ▸ rfl))⟩
    · refine (hc hd id hid).imp (fun hp => List.mem_filter.mpr ⟨hp, by simpa using heq⟩) ?_
      exact fun ⟨b, hb⟩ => ⟨b, List.mem_append_left _ hb⟩
  | ended h =>
    rw [dispatch_of_ends h] at hd
    cases hd
  | dropped => cases hd
  | _ => exact hc hd id hid

theorem Course.attended (h : Course past c) (hl : c.listens = true) : c.Attended := by
  induction h with
  | connected => exact fun _ hid => absurd hid List.not_mem_nil
  | unavailable reason => exact fun _ hid => absurd hid List.not_mem_nil
  | step _ a _ ih => exact (change_act _ a).attended ih hl

/-- While replies are dispatched no call that is held has failed. -/
theorem Course.deaf_of_error (h : Course past c) {id : Nat} {e : CallError} (held : id ∈ c.held)
    (hr : c.result? id = some (.error e)) : c.listens = false := by
  cases hl : c.listens with
  | false => rfl
  | true =>
    rcases h.attended hl id held with hp | ⟨b, hb⟩
    · rw [(h.coherent.result?_eq_none_iff id).mpr hp] at hr
      cases hr
    · rw [(h.coherent.result?_eq_ok_iff id b).mpr hb] at hr
      cases hr

theorem mem_results_events {id : Nat} {r : Except CallError β} {a : Action α β}
    (h : r ∈ results id (c.events a)) : a = .poll id ∧ c.result? id = some r := by
  cases a with
  | poll other =>
    cases hr : c.result? other with
    | none => simp [results, events, hr] at h
    | some x =>
      by_cases heq : other = id
      · subst heq
        simp only [results, events, hr, Option.toList_some, List.map_cons, List.map_nil,
          List.filterMap_cons, ↓reduceIte, List.filterMap_nil, List.mem_singleton] at h
        exact ⟨rfl, h ▸ hr⟩
      · simp [results, events, hr, heq] at h
  | dispatch =>
    rcases dispatch_cases c with ⟨e, rest, hl, hr, -⟩ | ⟨-, hr, -, -⟩ | ⟨hi, -⟩
    · simp [results, events_dispatch_of_cons hl hr] at h
    · simp [results, events_dispatch_of_nil hr] at h
    · simp [results, events_dispatch_of_isIdle hi] at h
  | submit _ | forget _ | drop | take | reply _ | dropRequests | dropReplies =>
    simp [results, events] at h

theorem Course.deaf_of_told (h : Course past c) {id : Nat} {e : CallError}
    (told : .error e ∈ results id (logOf past)) : c.listens = false := by
  induction h with
  | connected => cases told
  | unavailable reason => cases told
  | @step past c h a ok ih =>
    have hd := (change_act c a).deaf
    rw [logOf_concat, results, List.filterMap_append] at told
    rcases List.mem_append.mp told with told | told
    · exact hd (ih told)
    · obtain ⟨rfl, hr⟩ := mem_results_events told
      exact hd (h.deaf_of_error ok hr)

/-! ## After the peer has given up its sender -/

theorem sends_act (hc : c.channel.sends = false) (a : Action α β) :
    (c.act a).channel.sends = false := by
  cases a with
  | submit a =>
    rcases submit_cases c a with ⟨e, n, hs, -⟩ | hs <;> simpa only [act, hs] using hc
  | poll id =>
    rcases c.poll_snd id with hp | hp <;> simp only [act, hp] <;> exact hc
  | dispatch =>
    rcases dispatch_cases c with ⟨e, rest, -, -, hd⟩ | ⟨-, -, -, hd⟩ | ⟨-, hd⟩
    · simp only [act, hd, resolve]
      split <;> exact hc
    · simpa only [act, hd] using hc
    · simpa only [act, hd] using hc
  | take =>
    simp only [act, take]
    split <;> exact hc
  | reply e => simp [act, reply, hc]
  | forget id | drop | dropRequests => exact hc
  | dropReplies => rfl

theorem Course.replied_after (h : Course (before ++ ⟨c, .dropReplies⟩ :: after) d) :
    d.channel.sends = false ∧ replied after = [] := by
  refine h.since (P := fun after d => d.channel.sends = false ∧ replied after = [])
    (fun _ => ⟨rfl, rfl⟩) fun after d a _ ⟨hs, hr⟩ => ⟨sends_act hs a, ?_⟩
  rw [replied, filterMap_concat, ← replied, hr, List.nil_append]
  cases a with
  | reply e => simp [Turn.replied?, Correlator.reply, hs]
  | _ => rfl

/-- When the dispatcher has ended, no call under a number below this one is pending. -/
structure Spares (n : Nat) (c : Correlator α β) : Prop where
  le : n ≤ c.nextId
  late : c.listens = false → ∀ id ∈ c.pending, n ≤ id

theorem Spares.change {n : Nat} (h : Spares n c) (hd : Change c d) : Spares n d := by
  cases hd with
  | channel => exact ⟨h.le, h.late⟩
  | refused m le => exact ⟨Nat.le_trans h.le le, h.late⟩
  | accepted =>
    refine ⟨Nat.le_succ_of_le h.le, fun deaf id hid => ?_⟩
    rcases List.mem_append.mp hid with hid | hid
    · exact h.late deaf id hid
    · exact List.mem_singleton.mp hid ▸ h.le
  | forgotten => exact ⟨h.le, fun deaf id hid => h.late deaf id (List.mem_filter.mp hid).1⟩
  | answered _ _ listens => exact ⟨h.le, fun deaf => nomatch listens.symm.trans deaf⟩
  | ended ends =>
    rw [dispatch_of_ends ends]
    exact ⟨h.le, nofun⟩
  | dropped => exact ⟨h.le, nofun⟩

/-- A call that was made before the peer gave up its sender does not wait when the dispatcher has
ended. -/
theorem Course.spares (h : Course (before ++ ⟨c, .dropReplies⟩ :: after) d)
    (sends : c.channel.sends = true) (alive : c.dropped = false) : Spares c.nextId d := by
  refine h.since (P := fun _ d => Spares c.nextId d) (fun hc => ⟨Nat.le_refl _, fun deaf => ?_⟩)
    fun _ d a _ hd => hd.change (change_act d a)
  exact nomatch sends.symm.trans (hc.conveyed.closed deaf alive)

/-! ## Replies to pending calls -/

/-- A reply that was sent to a pending call: while its call is held and not answered, both are still
there. -/
structure Heeded (e : Envelope β) (after : List (Turn α β)) (c : Correlator α β) : Prop where
  lt : e.id < c.nextId
  row : c.dropped = false → e.id ∈ c.held →
    (e.id ∈ c.pending ∧ e ∈ c.channel.replies) ∨ ∃ b, ⟨e.id, b⟩ ∈ answers (logOf after)

theorem answers_append (log more : List (Event β)) :
    answers (log ++ more) = answers log ++ answers more :=
  List.filterMap_append

namespace Heeded

variable {e : Envelope β}

theorem quiet (h : Heeded e after c) (t : Turn α β) (hn : c.nextId ≤ d.nextId)
    (hd : d.dropped = false → c.dropped = false)
    (hh : e.id ∈ d.held → e.id ∈ c.held ∧ (e.id ∈ c.pending → e.id ∈ d.pending))
    (hr : e ∈ c.channel.replies → e ∈ d.channel.replies) : Heeded e (after ++ [t]) d := by
  refine ⟨Nat.lt_of_lt_of_le h.lt hn, fun alive held => ?_⟩
  obtain ⟨hheld, hp⟩ := hh held
  rw [logOf_concat, answers_append]
  refine (h.row (hd alive) hheld).imp (fun ⟨hpending, hmem⟩ => ⟨hp hpending, hr hmem⟩) ?_
  exact fun ⟨b, hb⟩ => ⟨b, List.mem_append_left _ hb⟩

theorem submit (h : Heeded e after c) (a : α) :
    Heeded e (after ++ [⟨c, .submit a⟩]) (c.submit a).2 := by
  rcases submit_cases c a with ⟨x, n, hs, hn⟩ | hs
  · rw [hs]
    exact h.quiet _ hn id (fun held => ⟨held, id⟩) id
  · rw [hs]
    refine h.quiet _ (Nat.le_succ _) id (fun held => ⟨?_, List.mem_append_left _⟩) id
    refine (List.mem_append.mp held).resolve_right fun hnew => ?_
    exact Nat.ne_of_lt h.lt (List.mem_singleton.mp hnew)

theorem forget (h : Heeded e after c) (t : Turn α β) (id : Nat) :
    Heeded e (after ++ [t]) (c.forget id) := by
  refine h.quiet t (Nat.le_refl _) (fun alive => alive) (fun held => ?_) fun hmem => hmem
  obtain ⟨held, hne⟩ := List.mem_filter.mp held
  exact ⟨held, fun hp => List.mem_filter.mpr ⟨hp, hne⟩⟩

theorem dispatch (h : Heeded e after c) :
    Heeded e (after ++ [⟨c, .dispatch⟩]) c.dispatch := by
  rcases dispatch_cases c with ⟨x, rest, hl, hr, hd⟩ | ⟨-, hr, -, hd⟩ | ⟨-, hd⟩
  · have hkeep : c.dispatch.nextId = c.nextId ∧ c.dispatch.dropped = c.dropped ∧
        c.dispatch.held = c.held ∧ c.dispatch.channel.replies = rest ∧
        ∀ id ∈ c.pending, id ≠ x.id → id ∈ c.dispatch.pending := by
      rw [hd]
      unfold resolve
      split
      · exact ⟨rfl, rfl, rfl, rfl, fun id hid hne => List.mem_filter.mpr ⟨hid, by simpa using hne⟩⟩
      · exact ⟨rfl, rfl, rfl, rfl, fun id hid _ => hid⟩
    obtain ⟨hn, hdropped, hheld, hrest, hpending⟩ := hkeep
    refine ⟨hn ▸ h.lt, fun alive held => ?_⟩
    rw [logOf_concat, answers_append, events_dispatch_of_cons hl hr]
    rcases h.row (hdropped ▸ alive) (hheld ▸ held) with ⟨hp, hmem⟩ | ⟨b, hb⟩
    · by_cases heq : e.id = x.id
      · have hone : answers [.dispatched x (c.pending.contains x.id)] = [x] := by
          rw [List.contains_iff_mem.mpr (heq ▸ hp)]
          rfl
        refine .inr ⟨x.payload, List.mem_append_right _ ?_⟩
        rw [hone, List.mem_singleton, heq]
      · rw [hr] at hmem
        refine .inl ⟨hpending _ hp heq, hrest ▸ (List.mem_cons.mp hmem).resolve_left ?_⟩
        exact fun he => heq (congrArg Envelope.id he)
    · exact .inr ⟨b, List.mem_append_left _ hb⟩
  · rw [hd]
    refine ⟨h.lt, fun alive held => ?_⟩
    rw [logOf_concat, answers_append]
    rcases h.row alive held with ⟨-, hmem⟩ | ⟨b, hb⟩
    · rw [hr] at hmem
      cases hmem
    · exact .inr ⟨b, List.mem_append_left _ hb⟩
  · rw [hd]
    exact h.quiet _ (Nat.le_refl _) id (fun held => ⟨held, id⟩) id

theorem act (h : Heeded e after c) (a : Action α β) : Heeded e (after ++ [⟨c, a⟩]) (c.act a) := by
  cases a with
  | submit a => exact h.submit a
  | poll id =>
    rcases c.poll_snd id with hp | hp
    · simp only [Correlator.act, hp]
      exact h.quiet _ (Nat.le_refl _) (fun h => h) (fun held => ⟨held, fun h => h⟩) fun h => h
    · simp only [Correlator.act, hp]
      exact h.forget _ id
  | forget id => exact h.forget _ id
  | dispatch => exact h.dispatch
  | drop => exact ⟨h.lt, fun alive => Bool.noConfusion alive⟩
  | take =>
    simp only [Correlator.act, Correlator.take]
    split <;> exact h.quiet _ (Nat.le_refl _) id (fun held => ⟨held, id⟩) id
  | reply x =>
    simp only [Correlator.act, Correlator.reply]
    split
    · exact h.quiet _ (Nat.le_refl _) id (fun held => ⟨held, id⟩) id
    · split
      · exact h.quiet _ (Nat.le_refl _) id (fun held => ⟨held, id⟩) id
      · exact h.quiet _ (Nat.le_refl _) id (fun held => ⟨held, id⟩) (List.mem_append_left _)
  | dropRequests | dropReplies =>
    exact h.quiet _ (Nat.le_refl _) id (fun held => ⟨held, id⟩) id

end Heeded

theorem Course.heeded {e : Envelope β} (h : Course (before ++ ⟨c, .reply e⟩ :: after) d)
    (sent : (c.reply e).1 = .sent) (pending : e.id ∈ c.pending) : Heeded e after d := by
  refine h.since (P := fun after d => Heeded e after d) (fun hc => ?_) fun _ _ a _ hd => hd.act a
  have hlt := hc.coherent.held_lt _ (hc.coherent.pending_held _ pending)
  have hreply : e.id < (c.reply e).2.nextId ∧ e.id ∈ (c.reply e).2.pending ∧
      e ∈ (c.reply e).2.channel.replies := by
    unfold reply at sent ⊢
    split at sent
    · cases sent
    · split at sent
      · cases sent
      · rename_i hs hd
        simp [hs, hd, hlt, pending]
  exact ⟨hreply.1, fun _ _ => .inl hreply.2⟩

/-! ## After the correlator is gone -/

theorem Change.gone (h : Change c d) (hc : c.dropped = true) : d.dropped = true := by
  cases h with
  | ended h => rw [dispatch_of_ends h]; exact hc
  | dropped => rfl
  | _ => exact hc

theorem Course.gone {t : Turn α β} (h : Course (before ++ t :: after) d)
    (hc : t.met.dropped = true) : d.dropped = true :=
  h.since (P := fun _ d => d.dropped = true) (fun _ => (change_act _ _).gone hc)
    fun _ d a _ hd => (change_act d a).gone hd

theorem events_of_deaf (hl : c.listens = false) (a : Action α β) :
    dispatched (c.events a) = [] ∧ answers (c.events a) = [] := by
  cases a with
  | dispatch => simp [events_dispatch_of_deaf hl, dispatched, answers]
  | poll id => cases hr : c.result? id <;> simp [events, dispatched, answers, hr]
  | submit _ | forget _ | drop | take | reply _ | dropRequests | dropReplies => exact ⟨rfl, rfl⟩

theorem Course.after_drop (h : Course (before ++ ⟨c, .drop⟩ :: after) d) :
    d.dropped = true ∧ d.listens = false ∧ dispatched (logOf after) = [] ∧
      answers (logOf after) = [] := by
  refine h.since (P := fun after d => d.dropped = true ∧ d.listens = false ∧
    dispatched (logOf after) = [] ∧ answers (logOf after) = []) (fun _ => ⟨rfl, rfl, rfl, rfl⟩) ?_
  intro after d a _ ⟨gone, deaf, hd, ha⟩
  obtain ⟨hd', ha'⟩ := events_of_deaf deaf a
  have change := change_act d a
  refine ⟨change.gone gone, change.deaf deaf, ?_, ?_⟩
  · rw [logOf_concat, dispatched_append, hd, hd']
    rfl
  · rw [logOf_concat, answers_append, ha, ha']
    rfl

theorem outcome_congr {log log' : List (Event β)} (h : answers log = answers log') (id : Nat) :
    outcome id log = outcome id log' := by
  unfold outcome firstAnswer?
  rw [h]

/-! ## Dispatching to the end -/

theorem dispatchMany_of_isIdle (hi : c.isIdle = true) (n : Nat) : c.dispatchMany n = c := by
  induction n with
  | zero => rfl
  | succ n ih =>
    have hd : c.dispatch = c := by
      rcases dispatch_cases c with ⟨e, rest, hl, hr, -⟩ | ⟨hl, -, hs, -⟩ | ⟨-, hd⟩
      · simp [isIdle, hl, hr] at hi
      · simp [isIdle, hl, hs] at hi
      · exact hd
    rw [dispatchMany, hd, ih]

theorem isIdle_dispatchMany {n : Nat} (hn : c.channel.replies.length < n) :
    (c.dispatchMany n).isIdle = true := by
  induction n generalizing c with
  | zero => exact absurd hn (Nat.not_lt_zero _)
  | succ n ih =>
    rw [dispatchMany]
    rcases dispatch_cases c with ⟨e, rest, -, hr, hd⟩ | ⟨-, -, -, hd⟩ | ⟨hi, hd⟩
    · have hrest : c.dispatch.channel.replies = rest := by
        rw [hd]
        unfold resolve
        split <;> rfl
      rw [hr, List.length_cons] at hn
      exact ih (hrest ▸ Nat.lt_of_succ_lt_succ hn)
    · have hi : c.dispatch.isIdle = true := by simp [hd, isIdle]
      rw [dispatchMany_of_isIdle hi]
      exact hi
    · rw [hd, dispatchMany_of_isIdle hi]
      exact hi

/-! ## How calls have ended -/

theorem logOf_append_cons {before after : List (Turn α β)} {t : Turn α β}
    (h : t.met.events t.action = []) :
    logOf (before ++ t :: after) = logOf before ++ logOf after := by
  simp [logOf, h]

/-- A dispatcher that has come to an end has dispatched everything. -/
theorem Course.dispatched_of_deaf (h : Course past d) (alive : d.dropped = false)
    (deaf : d.listens = false) : dispatched (logOf past) = replied past := by
  rw [h.conveyed.row alive, h.conveyed.empty deaf, List.append_nil]

theorem Course.replied_of_dropReplies (h : Course (before ++ ⟨c, .dropReplies⟩ :: after) d) :
    replied (before ++ ⟨c, .dropReplies⟩ :: after) = replied before := by
  rw [replied, List.filterMap_append]
  exact (congrArg (replied before ++ ·) h.replied_after.2).trans (List.append_nil _)

/-- Calls made before the peer has given up its sender have ended with the dispatcher. -/
theorem Course.poll_of_dropReplies (h : Course (before ++ ⟨c, .dropReplies⟩ :: after) d)
    (sends : c.channel.sends = true) (alive : d.dropped = false) (deaf : d.listens = false)
    {e : Envelope α} (he : e ∈ submitted before) (held : e.id ∈ d.held) :
    (d.poll e.id).1 = some (outcome e.id (logOf (before ++ ⟨c, .dropReplies⟩ :: after))) := by
  refine h.poll_of_not_pending held fun hp => ?_
  have calive : c.dropped = false := by
    by_contra hc
    exact nomatch alive.symm.trans (h.gone ((Bool.not_eq_false _).mp hc))
  have hlt := h.earlier.numbered.lt he
  exact absurd ((h.spares sends calive).late deaf _ hp) (Nat.not_le_of_lt hlt)

/-- A reply that was sent to a pending call ends it, or another one does. -/
theorem Course.poll_of_reply {e : Envelope β} (h : Course (before ++ ⟨c, .reply e⟩ :: after) d)
    (sent : (c.reply e).1 = .sent) (pending : e.id ∈ c.pending) (held : e.id ∈ d.held)
    (alive : d.dropped = false) (idle : d.isIdle = true) :
    ∃ b, (d.poll e.id).1 = some (.ok b) := by
  rcases (h.heeded sent pending).row alive held with ⟨-, hmem⟩ | ⟨b, hb⟩
  · rw [h.conveyed.empty_of_isIdle idle] at hmem
    cases hmem
  · have hanswer : ⟨e.id, b⟩ ∈ answers (logOf (before ++ ⟨c, .reply e⟩ :: after)) := by
      rw [logOf_append_cons rfl, answers_append]
      exact List.mem_append_right _ hb
    exact ⟨b, by rw [poll_fst, ((Accounts.run h.run).held _ held b).mpr hanswer]⟩

/-- Calls end as they stand when the correlator is given up. -/
theorem Course.poll_of_drop (h : Course (before ++ ⟨c, .drop⟩ :: after) d) {id : Nat}
    (held : id ∈ d.held) : (d.poll id).1 = some (outcome id (logOf before)) := by
  obtain ⟨gone, -, -, ha⟩ := h.after_drop
  have hp := h.run.pending_of_dropped gone
  have hanswers : answers (logOf (before ++ ⟨c, .drop⟩ :: after)) = answers (logOf before) := by
    rw [logOf_append_cons rfl, answers_append, ha, List.append_nil]
  rw [h.poll_of_not_pending held (hp ▸ List.not_mem_nil), outcome_congr hanswers]

/-- Nobody is told that no reply can come, whose call was answered, nor, while the correlator is
there, before all replies that the peer has sent are dispatched.  After the peer has given up its
sender, dispatching comes to its end; then every reply that was sent is dispatched, and every call
made before that is still held has ended, those that a reply was sent to while they were pending
with a reply.  After the correlator is given up, nothing more is dispatched, and every call that is
still held has ended.  A call that has been answered yields its reply all the time. -/
theorem disconnection_follows_replies (h : Course past d) :
    (∀ id, ResolvesTo (logOf past) d id (.error .disconnected) →
      (∀ e ∈ answers (logOf past), e.id ≠ id) ∧
      (d.dropped = false → dispatched (logOf past) = replied past)) ∧
    (∀ before c after, past = before ++ ⟨c, .dropReplies⟩ :: after → c.channel.sends = true →
      d.dropped = false → replied past = replied before ∧
      (d.isIdle = true → dispatched (logOf past) = replied before ∧
        ∀ e ∈ submitted before, e.id ∈ d.held →
          (d.poll e.id).1 = some (outcome e.id (logOf past))) ∧
      ∃ more, (∀ t ∈ more, t.action = .dispatch) ∧ Course (past ++ more) d.settle ∧
        d.settle.isIdle = true) ∧
    (∀ before c e after, past = before ++ ⟨c, .reply e⟩ :: after → (c.reply e).1 = .sent →
      e.id ∈ c.pending → e.id ∈ d.held → d.dropped = false → d.isIdle = true →
      ∃ b, (d.poll e.id).1 = some (.ok b)) ∧
    (∀ before c after, past = before ++ ⟨c, .drop⟩ :: after →
      dispatched (logOf past) = dispatched (logOf before) ∧
      ∀ id ∈ d.held, (d.poll id).1 = some (outcome id (logOf before))) ∧
    ∀ id ∈ d.held, ∀ b, firstAnswer? id (logOf past) = some b → (d.poll id).1 = some (.ok b) := by
  have accounts := Accounts.run h.run
  refine ⟨?_, ?_, ?_, ?_, ?_⟩
  · intro id hr
    refine ⟨fun e he heq => ?_, fun alive => h.dispatched_of_deaf alive ?_⟩
    · exact nomatch (accounts.resolvesTo hr e.payload).mpr (heq ▸ he)
    · exact hr.elim h.deaf_of_told fun ⟨held, hr⟩ => h.deaf_of_error held hr
  · rintro before c after rfl sends alive
    have hreplied := h.replied_of_dropReplies
    refine ⟨hreplied, fun idle => ?_, ?_⟩
    · have deaf : d.listens = false := by simpa [isIdle, h.replied_after.1] using idle
      rw [← hreplied]
      exact ⟨h.dispatched_of_deaf alive deaf, fun e => h.poll_of_dropReplies sends alive deaf⟩
    · obtain ⟨more, hmore, hd⟩ := h.dispatchMany (d.channel.replies.length + 1)
      exact ⟨more, hmore, hd, isIdle_dispatchMany (Nat.lt_succ_self _)⟩
  · rintro before c e after rfl
    exact h.poll_of_reply
  · rintro before c after rfl
    obtain ⟨-, -, hd, -⟩ := h.after_drop
    rw [logOf_append_cons rfl, dispatched_append, hd, List.append_nil]
    exact ⟨rfl, fun _ => h.poll_of_drop⟩
  · intro id held b hb
    rw [poll_fst, (accounts.held id held b).mpr ((firstAnswer?_eq_some_iff accounts.nodup id b).mp hb)]

/-- Of two calls one has a reply in the channel when the peer gives up its sender; and of two calls
one has its reply dispatched, and the other one not, when the correlator is given up. -/
theorem queued_reply_comes_before_disconnection :
    (∃ (past : List (Turn Unit String)) (d : Correlator Unit String), Course past d ∧
      d.dropped = false ∧ d.isIdle = true ∧ (d.poll 0).1 = some (.error .disconnected) ∧
      (d.poll 1).1 = some (.ok "b")) ∧
    ∃ (past : List (Turn Unit String)) (d : Correlator Unit String), Course past d ∧
      d.dropped = true ∧ (d.poll 0).1 = some (.ok "a") ∧
      (d.poll 1).1 = some (.error .disconnected) := by
  have sent : Course (β := String) _ _ :=
    (Course.connected.step (.submit ()) rfl).step (.submit ()) rfl
  constructor
  · have replied := (sent.step (.reply ⟨1, "b"⟩) trivial).step .dropReplies trivial
    have idle := (replied.step .dispatch trivial).step .dispatch trivial
    obtain ⟨-, hsender, hpending, -, -⟩ := disconnection_follows_replies idle
    have ended := (hsender [⟨_, .submit ()⟩, ⟨_, .submit ()⟩, ⟨_, .reply ⟨1, "b"⟩⟩] _
      [⟨_, .dispatch⟩, ⟨_, .dispatch⟩] rfl rfl rfl).2.1 rfl
    obtain ⟨b, hb⟩ := hpending [⟨_, .submit ()⟩, ⟨_, .submit ()⟩] _ ⟨1, "b"⟩
      [⟨_, .dropReplies⟩, ⟨_, .dispatch⟩, ⟨_, .dispatch⟩] rfl rfl (.tail _ (.head _))
      (.tail _ (.head _)) rfl rfl
    refine ⟨_, _, idle, rfl, rfl, ended.2 ⟨0, ()⟩ (.head _) (.head _), hb.trans ?_⟩
    exact hb.symm.trans rfl
  · have replied := ((sent.step (.reply ⟨0, "a"⟩) trivial).step .dispatch trivial).step
      (.reply ⟨1, "b"⟩) trivial
    have gone := replied.step .drop trivial
    obtain ⟨-, hended⟩ := (disconnection_follows_replies gone).2.2.2.1
      [⟨_, .submit ()⟩, ⟨_, .submit ()⟩, ⟨_, .reply ⟨0, "a"⟩⟩, ⟨_, .dispatch⟩,
        ⟨_, .reply ⟨1, "b"⟩⟩] _ [] rfl
    exact ⟨_, _, gone, rfl, hended 0 (.head _), hended 1 (.tail _ (.head _))⟩

end RuleBench.Correlator
