import Mathlib.Data.List.Induction
import RuleBench.Proofs.Call.Rest
import RuleBench.Round.Unit

set_option autoImplicit false

/-!
# A session that a unit serves

A caller hands over snapshots one after another and then waits.  Meanwhile the unit takes requests
and answers them, replies are dispatched, and what came of them is published, in any order.  What
every run keeps: the requests pass from the channel through the unit to the dispatcher in the order
in which they were sent, and the reply to each is what the unit answers to it.
-/

namespace RuleBench

/-- What a unit does. -/
inductive Serving where
  | idle
  | working (e : Envelope Request)
  /-- Its replies are not taken any more. -/
  | stopped

def Serving.inHand : Serving → List (Envelope Request)
  | .working e => [e]
  | _ => []

structure Service where
  session : Session
  serving : Serving
  /-- The requests that the unit has taken, first taken first. -/
  received : List (Envelope Request)
  /-- One who waits for the latest generation to end. -/
  waiter : Option Session.Wait

namespace Service

variable {α : Type}

def start : Service := ⟨.start .connected, .idle, [], none⟩

/-- The unit takes the next request, unless it is at work. -/
def take (v : Service) : Service :=
  match v.serving, v.session.correlator.take with
  | .idle, (some e, correlator) =>
    { v with
      session := { v.session with correlator }
      serving := .working e
      received := v.received ++ [e] }
  | _, _ => v

def answerTo (u : EvaluationUnit α) (e : Envelope Request) : Envelope Reply :=
  ⟨e.id, u.reply e.payload⟩

/-- The unit answers the request it is at work on. -/
def answer (u : EvaluationUnit α) (v : Service) : Service :=
  match v.serving with
  | .working e =>
    match v.session.correlator.reply (answerTo u e) with
    | (.sent, correlator) => { v with session := { v.session with correlator }, serving := .idle }
    | (_, correlator) => { v with session := { v.session with correlator }, serving := .stopped }
  | _ => v

/-- The one who waits looks again. -/
def resume (v : Service) : Service :=
  match v.waiter with
  | some (.waiting w) => { v with waiter := some (v.session.resume w) }
  | _ => v

inductive Action where
  | begin
  | send (snapshot : Snapshot) (now : Calendar.Instant)
  | advance (t : Task)
  | dispatch
  | take
  | answer
  /-- Somebody begins to wait. -/
  | wait
  | resume

def act (u : EvaluationUnit α) (v : Service) : Action → Service
  | .begin => { v with session := v.session.act .begin }
  | .send snapshot now =>
    { v with session := v.session.act (.send v.session.generation snapshot now) }
  | .advance t => { v with session := v.session.act (.advance t) }
  | .dispatch => { v with session := v.session.act (.outside .dispatch) }
  | .take => v.take
  | .answer => v.answer u
  | .wait => { v with waiter := some v.session.wait }
  | .resume => v.resume

/-- An update has begun and its request has not been sent. -/
def IsUpdating (v : Service) : Prop := ⟨v.session.generation, .begun⟩ ∈ v.session.tasks

theorem isUpdating_of_mem {v : Service} {t : Task} (ht : t ∈ v.session.tasks)
    (hp : t.phase = .begun) (hg : t.generation = v.session.generation) : v.IsUpdating := by
  unfold IsUpdating
  rw [← hp, ← hg]
  exact ht

/-- The caller makes updates one after another, and waits after the last one. -/
def Permits (v : Service) : Action → Prop
  | .begin => ¬ v.IsUpdating ∧ v.waiter = none
  | .send _ _ => v.IsUpdating
  | .advance t => v.session.Permits (.advance t)
  | .wait => ¬ v.IsUpdating ∧ v.waiter = none
  | _ => True

/-- A snapshot and the reading of the clock when it was handed over. -/
abbrev Asked := Snapshot × Calendar.Instant

def Action.asked : Action → List Asked
  | .send snapshot now => [(snapshot, now)]
  | _ => []

/-- `Run u asked v`: the caller has handed over these snapshots, in this order, and whatever has gone
on in the meantime has led to `v`. -/
inductive Run (u : EvaluationUnit α) : List Asked → Service → Prop where
  | start : Run u [] start
  | step {asked : List Asked} {v : Service} (h : Run u asked v) (a : Action) (ok : v.Permits a) :
      Run u (asked ++ a.asked) (v.act u a)

/-- The requests for snapshots, each under its number. -/
def numbered (asked : List Asked) : List (Envelope Request) :=
  asked.mapIdx fun i x => ⟨i, .ofSnapshot x.1 x.2⟩

theorem numbered_concat (asked : List Asked) (x : Asked) :
    numbered (asked ++ [x]) = numbered asked ++ [⟨asked.length, .ofSnapshot x.1 x.2⟩] :=
  List.mapIdx_concat

theorem length_numbered (asked : List Asked) : (numbered asked).length = asked.length :=
  List.length_mapIdx

theorem id_lt_of_mem_numbered {asked : List Asked} {q : Envelope Request}
    (hq : q ∈ numbered asked) : q.id < asked.length := by
  obtain ⟨i, hi, rfl⟩ := List.mem_mapIdx.mp hq
  exact hi

/-- Of the requests, only that for the last snapshot has the last number. -/
theorem payload_of_last {asked : List Asked} {x : Asked} {q : Envelope Request}
    (hq : q ∈ numbered (asked ++ [x])) (hid : q.id = asked.length) :
    q.payload = .ofSnapshot x.1 x.2 := by
  rw [numbered_concat] at hq
  rcases List.mem_append.mp hq with hq | hq
  · exact absurd hid (Nat.ne_of_lt (id_lt_of_mem_numbered hq))
  · rw [List.mem_singleton.mp hq]

/-! ## Requests on their way -/

/-- The requests sent lie in a row: those whose replies have been dispatched, those whose replies
lie in the channel, that which the unit is at work on, and those that lie in the channel.  Only
calls whose replies have not been dispatched are pending. -/
structure Flow (u : EvaluationUnit α) (sent : List (Envelope Request))
    (c : Correlator Request Reply) (serving : Serving) (received : List (Envelope Request)) :
    Prop where
  refusal : c.refusal = none
  takes : c.channel.takes = true
  sends : c.channel.sends = true
  listens : c.listens = true
  dropped : c.dropped = false
  serves : serving ≠ .stopped
  nextId : c.nextId = sent.length
  row : ∃ done queued, sent = done ++ (queued ++ (serving.inHand ++ c.channel.requests)) ∧
    received = done ++ (queued ++ serving.inHand) ∧ c.channel.replies = queued.map (answerTo u) ∧
    ∀ id ∈ c.pending, ∃ e ∈ queued ++ (serving.inHand ++ c.channel.requests), e.id = id

namespace Flow

variable {u : EvaluationUnit α} {sent received : List (Envelope Request)}
  {c : Correlator Request Reply} {serving : Serving}

theorem start (u : EvaluationUnit α) : Flow u [] .connected .idle [] :=
  ⟨rfl, rfl, rfl, rfl, rfl, nofun, rfl, [], [], rfl, rfl, rfl, nofun⟩

theorem submit_eq (h : Flow u sent c serving received) (r : Request) :
    c.submit r = (.ok c.nextId,
      { c with
        channel := { c.channel with requests := c.channel.requests ++ [⟨c.nextId, r⟩] }
        nextId := c.nextId + 1
        pending := c.pending ++ [c.nextId]
        held := c.held ++ [c.nextId] }) := by
  simp [Correlator.submit, h.refusal, h.takes, h.dropped]

theorem submit (h : Flow u sent c serving received) (r : Request) :
    Flow u (sent ++ [⟨sent.length, r⟩]) (c.submit r).2 serving received := by
  obtain ⟨done, queued, hsent, hreceived, hreplies, hpending⟩ := h.row
  rw [h.submit_eq r]
  refine ⟨h.refusal, h.takes, h.sends, h.listens, h.dropped, h.serves, ?_,
    done, queued, ?_, hreceived, hreplies, ?_⟩
  · simp [h.nextId]
  · rw [← h.nextId]
    nth_rewrite 1 [hsent]
    simp only [List.append_assoc]
  · intro id hid
    rcases List.mem_append.mp hid with hid | hid
    · obtain ⟨e, he, rfl⟩ := hpending id hid
      refine ⟨e, ?_, rfl⟩
      simp only [List.mem_append] at he ⊢
      tauto
    · exact ⟨⟨c.nextId, r⟩, by simp, (List.mem_singleton.mp hid).symm⟩

theorem forget (h : Flow u sent c serving received) (id : Nat) :
    Flow u sent (c.forget id) serving received := by
  obtain ⟨done, queued, hsent, hreceived, hreplies, hpending⟩ := h.row
  exact ⟨h.refusal, h.takes, h.sends, h.listens, h.dropped, h.serves, h.nextId,
    done, queued, hsent, hreceived, hreplies,
    fun i hi => hpending i (List.mem_filter.mp hi).1⟩

/-- The next envelope that is dispatched is the answer to a request. -/
theorem exists_of_replies (h : Flow u sent c serving received) {e : Envelope Reply}
    {rest : List (Envelope Reply)} (hr : c.channel.replies = e :: rest) :
    ∃ q ∈ sent, e = answerTo u q := by
  obtain ⟨done, queued, rfl, -, hreplies, -⟩ := h.row
  have he : e ∈ queued.map (answerTo u) := hreplies ▸ hr ▸ List.mem_cons_self
  obtain ⟨q, hq, rfl⟩ := List.mem_map.mp he
  exact ⟨q, List.mem_append_right _ (List.mem_append_left _ hq), rfl⟩

/-- Once its reply is dispatched, a call is not pending. -/
theorem exists_resolve (c : Correlator Request Reply) (e : Envelope Reply) :
    ∃ pending delivered, c.resolve e = { c with pending, delivered } ∧
      ∀ id ∈ pending, id ∈ c.pending ∧ id ≠ e.id := by
  unfold Correlator.resolve
  split
  · refine ⟨_, _, rfl, fun id hid => ?_⟩
    obtain ⟨hid, hne⟩ := List.mem_filter.mp hid
    exact ⟨hid, by simpa using hne⟩
  · rename_i hno
    refine ⟨c.pending, c.delivered, rfl, fun id hid => ⟨hid, ?_⟩⟩
    rintro rfl
    exact hno (List.contains_iff_mem.mpr hid)

theorem dispatch (h : Flow u sent c serving received) :
    Flow u sent c.dispatch serving received := by
  rcases c.dispatch_cases with ⟨e, rest, -, hr, hd⟩ | ⟨-, -, hs, -⟩ | ⟨-, hd⟩
  · obtain ⟨done, queued, hsent, hreceived, hreplies, hpending⟩ := h.row
    rw [hr] at hreplies
    cases queued with
    | nil => cases hreplies
    | cons q queued =>
      obtain ⟨rfl, rfl⟩ := List.cons.inj hreplies
      obtain ⟨pending, delivered, hresolve, hp⟩ := exists_resolve
        { c with channel := { c.channel with replies := queued.map (answerTo u) } } (answerTo u q)
      rw [hd, hresolve]
      refine ⟨h.refusal, h.takes, h.sends, h.listens, h.dropped, h.serves, h.nextId,
        done ++ [q], queued, ?_, ?_, rfl, ?_⟩
      · rw [hsent]
        simp
      · rw [hreceived]
        simp
      · intro id hid
        obtain ⟨hid, hne⟩ := hp id hid
        obtain ⟨e, he, rfl⟩ := hpending id hid
        rcases List.mem_cons.mp he with rfl | he
        · exact absurd rfl hne
        · exact ⟨e, he, rfl⟩
  · rw [h.sends] at hs
    cases hs
  · rw [hd]
    exact h

end Flow

/-- The unit takes the first request, or is at work or has none to take. -/
theorem take_cases (v : Service) :
    (∃ e rest, v.serving = .idle ∧ v.session.correlator.channel.requests = e :: rest ∧
      v.take = { v with
        session := v.session.act (.outside .take)
        serving := .working e
        received := v.received ++ [e] } ∧
      v.session.correlator.take.2 = { v.session.correlator with
        channel := { v.session.correlator.channel with requests := rest } }) ∨
    ((v.serving = .idle → v.session.correlator.channel.requests = []) ∧ v.take = v) := by
  unfold take Session.act Correlator.act Correlator.take
  cases hs : v.serving with
  | idle =>
    cases hr : v.session.correlator.channel.requests with
    | nil => exact .inr ⟨fun _ => rfl, rfl⟩
    | cons e rest => exact .inl ⟨e, rest, rfl, rfl, rfl, rfl⟩
  | working e => exact .inr ⟨nofun, rfl⟩
  | stopped => exact .inr ⟨nofun, rfl⟩

/-- The unit sends its answer, or has none to send. -/
theorem answer_cases {u : EvaluationUnit α} {sent : List (Envelope Request)} (v : Service)
    (h : Flow u sent v.session.correlator v.serving v.received) :
    (∃ e, v.serving = .working e ∧
      v.answer u = { v with
        session := v.session.act (.outside (.reply (answerTo u e)))
        serving := .idle } ∧
      (v.session.correlator.reply (answerTo u e)).2 = { v.session.correlator with
        channel := { v.session.correlator.channel with
          replies := v.session.correlator.channel.replies ++ [answerTo u e] } }) ∨
    ((∀ e, v.serving ≠ .working e) ∧ v.answer u = v) := by
  unfold answer Session.act Correlator.act
  cases hs : v.serving with
  | idle => exact .inr ⟨nofun, rfl⟩
  | stopped => exact absurd hs h.serves
  | working e =>
    have hreply : v.session.correlator.reply (answerTo u e) = (.sent, { v.session.correlator with
        channel := { v.session.correlator.channel with
          replies := v.session.correlator.channel.replies ++ [answerTo u e] } }) := by
      simp [Correlator.reply, h.sends, h.dropped]
    refine .inl ⟨e, rfl, ?_, congrArg Prod.snd hreply⟩
    simp only [hreply]

namespace Flow

variable {u : EvaluationUnit α} {sent : List (Envelope Request)} {v : Service}

theorem take (h : Flow u sent v.session.correlator v.serving v.received) :
    Flow u sent v.take.session.correlator v.take.serving v.take.received := by
  rcases v.take_cases with ⟨e, rest, hs, hr, ht, hc⟩ | ⟨-, ht⟩
  · obtain ⟨done, queued, hsent, hreceived, hreplies, hpending⟩ := h.row
    rw [hs, hr] at hsent hpending
    rw [hs] at hreceived
    rw [ht]
    simp only [Session.act, Correlator.act, hc]
    refine ⟨h.refusal, h.takes, h.sends, h.listens, h.dropped, Serving.noConfusion, h.nextId,
      done, queued, hsent, ?_, hreplies, hpending⟩
    rw [hreceived]
    simp [Serving.inHand]
  · rw [ht]
    exact h

theorem answer (h : Flow u sent v.session.correlator v.serving v.received) :
    Flow u sent (v.answer u).session.correlator (v.answer u).serving (v.answer u).received := by
  rcases v.answer_cases h with ⟨e, hs, ha, hc⟩ | ⟨-, ha⟩
  · obtain ⟨done, queued, hsent, hreceived, hreplies, hpending⟩ := h.row
    rw [hs] at hsent hreceived hpending
    rw [ha]
    simp only [Session.act, Correlator.act, hc]
    refine ⟨h.refusal, h.takes, h.sends, h.listens, h.dropped, Serving.noConfusion, h.nextId,
      done, queued ++ [e], ?_, ?_, ?_, ?_⟩
    · rw [hsent]
      simp [Serving.inHand]
    · rw [hreceived]
      simp [Serving.inHand]
    · rw [hreplies]
      simp
    · simpa [Serving.inHand] using hpending
  · rw [ha]
    exact h

end Flow

/-! ## What every run keeps -/

/-- The state that comes of a snapshot when the unit is asked about it and nothing else. -/
def direct (u : EvaluationUnit α) (x : Asked) : EvaluationState :=
  .ofReply (u.reply (.ofSnapshot x.1 x.2))

/-- The latest generation ends with the state that comes of the last snapshot. -/
def IsOutcome (u : EvaluationUnit α) (asked : List Asked) (r : Except CallError EvaluationState) :
    Prop :=
  ∃ x, asked.getLast? = some x ∧ r = .ok (direct u x)

/-- Generations count the requests, none of which is refused, and what is dispatched are answers. -/
def Faithful (u : EvaluationUnit α) (sent : List (Envelope Request)) : Session.Event → Prop
  | .begun => True
  | .accepted generation call => generation = call + 1
  | .refused _ _ => False
  | .dispatched e => ∃ q ∈ sent, e = answerTo u q
  | .stopped => False

theorem Faithful.append {u : EvaluationUnit α} {sent : List (Envelope Request)}
    {e : Session.Event} (h : Faithful u sent e) (more : List (Envelope Request)) :
    Faithful u (sent ++ more) e := by
  cases e with
  | dispatched e =>
    obtain ⟨q, hq, he⟩ := h
    exact ⟨q, List.mem_append_left _ hq, he⟩
  | begun | accepted _ _ | refused _ _ | stopped => exact h

/-- What becomes of a generation is the answer to its request. -/
theorem exists_of_fate {u : EvaluationUnit α} {sent : List (Envelope Request)}
    {log : List Session.Event} (h : ∀ e ∈ log, Faithful u sent e) {generation : Nat}
    {r : Except CallError Reply} (hr : Session.fate generation log = some r) :
    ∃ q ∈ sent, q.id + 1 = generation ∧ r = .ok (u.reply q.payload) := by
  induction log with
  | nil => cases hr
  | cons e log ih =>
    have hlog : ∀ e ∈ log, Faithful u sent e := fun x hx => h x (List.mem_cons_of_mem _ hx)
    have he := h e List.mem_cons_self
    cases e with
    | begun | dispatched _ => exact ih hlog hr
    | refused _ _ => exact he.elim
    | stopped => exact he.elim
    | accepted g call =>
      by_cases hg : g = generation
      · simp only [Session.fate, hg, ↓reduceIte] at hr
        obtain ⟨x, hx, hend⟩ := List.exists_of_findSome?_eq_some hr
        have hx := hlog x hx
        cases x with
        | dispatched d =>
          obtain ⟨q, hq, rfl⟩ := hx
          simp only [Session.ending] at hend
          split at hend
          · rename_i hid
            refine ⟨q, hq, ?_, (Option.some.inj hend).symm⟩
            rw [← hg, show g = call + 1 from he, ← hid]
            rfl
          · cases hend
        | stopped => exact hx.elim
        | begun | accepted _ _ | refused _ _ => cases hend
      · simp only [Session.fate, hg, ↓reduceIte] at hr
        exact ih hlog hr

structure Kept (u : EvaluationUnit α) (asked : List Asked) (log : List Session.Event)
    (v : Service) : Prop where
  tells : Session.Tells log v.session
  faithful : ∀ e ∈ log, Faithful u (numbered asked) e
  flow : Flow u (numbered asked) v.session.correlator v.serving v.received
  latest : ∀ t ∈ v.session.tasks, t.phase = .begun → t.generation = v.session.generation
  sent : ¬ v.IsUpdating → v.session.generation = asked.length
  unsent : v.IsUpdating → v.session.generation = asked.length + 1
  quiet : v.waiter ≠ none → ¬ v.IsUpdating
  waits : ∀ w, v.waiter = some (.waiting w) → w.failureVersion = v.session.failureVersion ∧
    (w.stateVersion = v.session.stateVersion ↔ v.session.state.isLoading = true)
  ended : ∀ r, v.waiter = some (.ended r) → IsOutcome u asked r

namespace Kept

variable {u : EvaluationUnit α} {asked : List Asked} {log : List Session.Event} {v : Service}

theorem start (u : EvaluationUnit α) : Kept u [] [] start where
  tells := .start Correlator.coherent_connected
  faithful := nofun
  flow := .start u
  latest := nofun
  sent _ := rfl
  unsent h := absurd h List.not_mem_nil
  quiet h := absurd rfl h
  waits := nofun
  ended := nofun

/-- An update that is over shows the state that comes of its snapshot. -/
theorem settled?_of_not_isBusy (h : Kept u asked log v) (quiet : ¬ v.IsUpdating)
    (done : ¬ v.session.IsBusy) {x : Asked} (hx : asked.getLast? = some x) :
    v.session.settled? = some (.ok (direct u x)) := by
  obtain ⟨earlier, rfl⟩ := List.getLast?_eq_some_iff.mp hx
  have hgen : v.session.generation = earlier.length + 1 := by simpa using h.sent quiet
  have hpos : 0 < v.session.generation := hgen ▸ Nat.succ_pos _
  obtain ⟨r, hr⟩ := Option.isSome_iff_exists.mp
    ((h.tells.latest.known done).resolve_left (Nat.ne_of_gt hpos))
  obtain ⟨q, hq, hid, rfl⟩ := exists_of_fate h.faithful hr
  have hshown := h.tells.latest.ended done
  rw [Session.shown_of_fate h.tells.begun hpos, hr] at hshown
  have hstate : v.session.state = .ofReply (u.reply q.payload) := congrArg (fun o => o.2.1) hshown
  rw [Session.settled?_of_reply hstate, payload_of_last hq (Nat.succ.inj (hid.trans hgen)), direct]

theorem not_isBusy_of_settled? (h : Kept u asked log v) {r : Except CallError EvaluationState}
    (hr : v.session.settled? = some r) : ¬ v.session.IsBusy := by
  intro busy
  obtain ⟨hstate, hfailure⟩ := h.tells.latest.busy busy
  simp [Session.settled?, hstate, hfailure, EvaluationState.isLoading] at hr

theorem isOutcome_of_settled? (h : Kept u asked log v) (quiet : ¬ v.IsUpdating)
    {r : Except CallError EvaluationState} (hr : v.session.settled? = some r) :
    IsOutcome u asked r := by
  have done := h.not_isBusy_of_settled? hr
  cases hx : asked.getLast? with
  | some x =>
    refine ⟨x, hx, ?_⟩
    exact Option.some.inj (hr.symm.trans (h.settled?_of_not_isBusy quiet done hx))
  | none =>
    obtain rfl := List.getLast?_eq_none_iff.mp hx
    have hshown := h.tells.latest.ended done
    have hgen : v.session.generation = 0 := h.sent quiet
    rw [Session.shown, ← h.tells.begun, if_pos hgen] at hshown
    have hstate : v.session.state = .loading := congrArg (fun o => o.2.1) hshown
    have hfailure : v.session.failure? = none := congrArg (fun o => o.2.2) hshown
    simp [Session.settled?, hstate, hfailure, EvaluationState.isLoading] at hr

/-! ### Updates -/

theorem begin (h : Kept u asked log v) (quiet : ¬ v.IsUpdating) (free : v.waiter = none) :
    Kept u asked (log ++ [.begun]) (v.act u .begin) := by
  have hnew : (v.act u .begin).IsUpdating :=
    List.mem_append_right _ (List.mem_singleton_self _)
  constructor
  · exact h.tells.begin
  · intro e he
    rcases List.mem_append.mp he with he | he
    · exact h.faithful e he
    · rw [List.mem_singleton.mp he]
      trivial
  · exact h.flow
  · intro t ht hp
    rcases List.mem_append.mp ht with ht | ht
    · exact absurd (isUpdating_of_mem ht hp (h.latest t ht hp)) quiet
    · rw [List.mem_singleton.mp ht]
      rfl
  · exact fun hno => absurd hnew hno
  · exact fun _ => congrArg Nat.succ (h.sent quiet)
  · exact fun hw => absurd free hw
  · intro w hw
    cases free.symm.trans hw
  · intro r hr
    cases free.symm.trans hr

theorem send (h : Kept u asked log v) (updating : v.IsUpdating) (snapshot : Snapshot)
    (now : Calendar.Instant) :
    Kept u (asked ++ [(snapshot, now)])
      (log ++ [.accepted v.session.generation v.session.correlator.nextId])
      (v.act u (.send snapshot now)) := by
  have hsubmit := h.flow.submit_eq (.ofSnapshot snapshot now)
  have hact : v.session.act (.send v.session.generation snapshot now) =
      { v.session with correlator := (v.session.correlator.submit (.ofSnapshot snapshot now)).2 }.move
        v.session.generation (.waiting v.session.correlator.nextId) := by
    simp only [Session.act, Session.send, hsubmit]
  have hevents : v.session.events (.send v.session.generation snapshot now) =
      [.accepted v.session.generation v.session.correlator.nextId] := by
    simp only [Session.events, hsubmit]
  have htells := hevents ▸ h.tells.send updating snapshot now
  have hgen := h.unsent updating
  -- Nobody waits yet, so there is no outcome that the new request could make a wrong one.
  have free : v.waiter = none := by
    by_contra hw
    exact h.quiet hw updating
  have hquiet : ∀ t ∈ (v.act u (.send snapshot now)).session.tasks, t.phase ≠ .begun := by
    simp only [Service.act, hact]
    intro t ht hp
    rcases Session.mem_move.mp ht with ⟨rfl, -⟩ | ⟨ht, hne⟩
    · cases hp
    · exact hne (h.latest t ht hp)
  constructor
  · exact htells
  · intro e he
    rw [numbered_concat]
    rcases List.mem_append.mp he with he | he
    · exact (h.faithful e he).append _
    · rw [List.mem_singleton.mp he, Faithful, hgen, h.flow.nextId, length_numbered]
  · have hflow := h.flow.submit (.ofSnapshot snapshot now)
    rw [length_numbered] at hflow
    rw [numbered_concat]
    simp only [Service.act, hact]
    exact hflow
  · exact fun t ht hp => absurd hp (hquiet t ht)
  · intro _
    simp only [Service.act, hact, List.length_append, List.length_singleton]
    exact hgen
  · exact fun hu => absurd rfl (hquiet _ hu)
  · exact fun hw => absurd free hw
  · intro w hw
    cases free.symm.trans hw
  · intro r hr
    cases free.symm.trans hr

/-! ### What goes on in the background -/

/-- A step of the session by which no update begins and no request is sent. -/
theorem go (h : Kept u asked log v) {more : List Session.Event} {s : Session} {serving : Serving}
    {received : List (Envelope Request)} (tells : Session.Tells (log ++ more) s)
    (faithful : ∀ e ∈ more, Faithful u (numbered asked) e)
    (flow : Flow u (numbered asked) s.correlator serving received)
    (hgen : s.generation = v.session.generation)
    (begun : ∀ t : Task, t.phase = .begun → (t ∈ s.tasks ↔ t ∈ v.session.tasks))
    (waits : ∀ w, v.waiter = some (.waiting w) → w.failureVersion = s.failureVersion ∧
      (w.stateVersion = s.stateVersion ↔ s.state.isLoading = true)) :
    Kept u asked (log ++ more) { v with session := s, serving, received } := by
  have hupdating : IsUpdating { v with session := s, serving, received } ↔ v.IsUpdating := by
    unfold IsUpdating
    rw [hgen]
    exact begun _ rfl
  constructor
  · exact tells
  · intro e he
    exact (List.mem_append.mp he).elim (h.faithful e) (faithful e)
  · exact flow
  · intro t ht hp
    exact (h.latest t ((begun t hp).mp ht) hp).trans hgen.symm
  · exact fun hu => hgen.trans (h.sent (mt hupdating.mpr hu))
  · exact fun hu => hgen.trans (h.unsent (hupdating.mp hu))
  · exact fun hw hu => h.quiet hw (hupdating.mp hu)
  · exact waits
  · exact h.ended

/-- What is known about an update under way: its reply is awaited, or there, but there is no
failure. -/
theorem advance_cases (h : Kept u asked log v) {t : Task} (ht : t ∈ v.session.tasks) :
    ((t.phase = .begun ∨
      ∃ call, t.phase = .waiting call ∧ v.session.correlator.result? call = none) ∧
      v.session.advance t = v.session) ∨
    (∃ call outcome, t.phase = .waiting call ∧ v.session.advance t =
      { v.session with correlator := v.session.correlator.forget call }.move t.generation
        (.ended outcome)) ∨
    (∃ reply, t.phase = .ended (.ok reply) ∧ v.session.advance t =
      (v.session.close t.generation).publishFor t.generation (.ofReply reply)) := by
  have htold := h.tells.tasks.told t ht
  unfold Session.Told at htold
  unfold Session.advance
  cases hp : t.phase with
  | begun => exact .inl ⟨.inl rfl, rfl⟩
  | waiting call =>
    unfold Session.collect Correlator.poll
    cases hr : v.session.correlator.result? call with
    | none => exact .inl ⟨.inr ⟨call, rfl, hr⟩, by simp only [hr]⟩
    | some outcome => exact .inr (.inl ⟨call, outcome, rfl, by simp only [hr]⟩)
  | ended outcome =>
    rw [hp] at htold
    obtain ⟨q, -, -, rfl⟩ := exists_of_fate h.faithful htold
    exact .inr (.inr ⟨_, rfl, rfl⟩)
  | failing e =>
    rw [hp] at htold
    obtain ⟨q, -, -, hq⟩ := exists_of_fate h.faithful htold
    cases hq

/-- An update of which the request has been sent is not the one of which it has not. -/
theorem generation_ne (h : Kept u asked log v) {t b : Task} (ht : t ∈ v.session.tasks)
    (hp : t.phase ≠ .begun) (hb : b ∈ v.session.tasks) (hbegun : b.phase = .begun) :
    b.generation ≠ t.generation :=
  (h.tells.tasks.apart.forall hb ht fun heq => hp (heq ▸ hbegun)).1

theorem advance (h : Kept u asked log v) {t : Task} (ok : v.session.Permits (.advance t)) :
    Kept u asked log (v.act u (.advance t)) := by
  have htells := h.tells.advance ok
  have hact : v.act u (.advance t) = { v with session := v.session.advance t } := rfl
  rw [← List.append_nil log] at htells ⊢
  rw [hact]
  rcases h.advance_cases ok.1 with ⟨-, hs⟩ | ⟨call, outcome, hp, hs⟩ | ⟨reply, hp, hs⟩
  · rw [hs, List.append_nil]
    exact h
  · rw [hs] at htells ⊢
    refine h.go htells nofun (h.flow.forget call) rfl ?_ h.waits
    intro b hb
    refine Session.mem_move.trans ⟨?_, fun hmem => .inr ⟨hmem, ?_⟩⟩
    · rintro (⟨rfl, -⟩ | ⟨hmem, -⟩)
      · cases hb
      · exact hmem
    · exact h.generation_ne ok.1 (hp ▸ nofun) hmem hb
  · have hbegun (b : Task) (hb : b.phase = .begun) :
        b ∈ (v.session.close t.generation).tasks ↔ b ∈ v.session.tasks :=
      Session.mem_close.trans
        ⟨And.left, fun hmem => ⟨hmem, h.generation_ne ok.1 (hp ▸ nofun) hmem hb⟩⟩
    rw [hs] at htells ⊢
    by_cases hg : v.session.generation = t.generation
    · rw [Session.publishFor_close_of_eq hg] at htells ⊢
      refine h.go htells nofun h.flow rfl hbegun ?_
      intro w hw
      obtain ⟨hfailed, hstate⟩ := h.waits w hw
      -- Until now the latest generation was loading, so nothing has been published since.
      have hseen := hstate.mpr ((h.tells.latest.busy ⟨t, ok.1, hg.symm⟩).1 ▸ rfl)
      have hdone := EvaluationState.ofReply_ne_loading reply
      refine ⟨hfailed, iff_of_false ?_ (ne_true_of_eq_false hdone)⟩
      exact fun heq => absurd (hseen.symm.trans heq) (Nat.ne_of_lt (Nat.lt_succ_self _))
    · rw [Session.publishFor_close_of_ne hg] at htells ⊢
      exact h.go htells nofun h.flow rfl hbegun h.waits

theorem dispatch (h : Kept u asked log v) :
    Kept u asked (log ++ v.session.events (.outside .dispatch)) (v.act u .dispatch) := by
  refine h.go h.tells.dispatch ?_ h.flow.dispatch rfl (fun _ _ => Iff.rfl) h.waits
  intro e he
  unfold Session.events at he
  rw [h.flow.listens, h.flow.sends] at he
  cases hr : v.session.correlator.channel.replies with
  | nil =>
    rw [hr] at he
    cases he
  | cons d rest =>
    rw [hr] at he
    rw [List.mem_singleton.mp he]
    exact h.flow.exists_of_replies hr

theorem take (h : Kept u asked log v) : Kept u asked log (v.act u .take) := by
  have hflow := h.flow.take
  rcases v.take_cases with ⟨e, rest, -, -, ht, -⟩ | ⟨-, ht⟩
  · rw [ht] at hflow
    have htells := h.tells.outside (a := .take) trivial
    rw [← List.append_nil log]
    simp only [Service.act, ht]
    exact h.go htells nofun hflow rfl (fun _ _ => Iff.rfl) h.waits
  · simp only [Service.act, ht]
    exact h

theorem answer (h : Kept u asked log v) : Kept u asked log (v.act u .answer) := by
  have hflow := h.flow.answer
  rcases v.answer_cases h.flow with ⟨e, -, ha, -⟩ | ⟨-, ha⟩
  · rw [ha] at hflow
    have htells := h.tells.outside (a := .reply (answerTo u e)) trivial
    rw [← List.append_nil log]
    simp only [Service.act, ha]
    exact h.go htells nofun hflow rfl (fun _ _ => Iff.rfl) h.waits
  · simp only [Service.act, ha]
    exact h

/-! ### Waiting -/

theorem wait (h : Kept u asked log v) (quiet : ¬ v.IsUpdating) :
    Kept u asked log (v.act u .wait) := by
  refine { h with quiet := fun _ => quiet, waits := ?_, ended := ?_ }
  · intro w hw
    simp only [Service.act, Session.wait, Option.some.injEq] at hw
    split at hw
    · cases hw
    · rename_i hnone
      cases hw
      refine ⟨rfl, iff_of_true rfl ?_⟩
      unfold Session.settled? at hnone
      split at hnone
      · assumption
      · cases hnone
  · intro r hr
    simp only [Service.act, Session.wait, Option.some.injEq] at hr
    split at hr
    · rename_i hsettled
      cases hr
      exact h.isOutcome_of_settled? quiet hsettled
    · cases hr

theorem resume (h : Kept u asked log v) : Kept u asked log (v.act u .resume) := by
  have hquiet := h.quiet
  simp only [Service.act]
  unfold Service.resume
  split
  · rename_i w hw
    unfold Session.resume
    split
    · rw [← hw]
      exact h
    · exact h.wait (hquiet (hw ▸ nofun))
  · exact h

theorem act (h : Kept u asked log v) {a : Action} (ok : v.Permits a) :
    ∃ more, Kept u (asked ++ a.asked) (log ++ more) (v.act u a) := by
  cases a with
  | begin => exact ⟨_, (List.append_nil asked).symm ▸ h.begin ok.1 ok.2⟩
  | send snapshot now => exact ⟨_, h.send ok snapshot now⟩
  | dispatch => exact ⟨_, (List.append_nil asked).symm ▸ h.dispatch⟩
  | advance t => exact ⟨[], by simpa only [Action.asked, List.append_nil] using h.advance ok⟩
  | take => exact ⟨[], by simpa only [Action.asked, List.append_nil] using h.take⟩
  | answer => exact ⟨[], by simpa only [Action.asked, List.append_nil] using h.answer⟩
  | wait => exact ⟨[], by simpa only [Action.asked, List.append_nil] using h.wait ok.1⟩
  | resume => exact ⟨[], by simpa only [Action.asked, List.append_nil] using h.resume⟩

theorem run (h : Run u asked v) : ∃ log, Kept u asked log v := by
  induction h with
  | start => exact ⟨[], .start u⟩
  | step _ a ok ih =>
    obtain ⟨log, h⟩ := ih
    obtain ⟨more, h⟩ := h.act ok
    exact ⟨log ++ more, h⟩

end Kept

/-- Nothing keeps the caller from handing over any snapshots at once. -/
theorem exists_run (u : EvaluationUnit α) (asked : List Asked) :
    ∃ v, Run u asked v ∧ ¬ v.IsUpdating ∧ v.waiter = none := by
  induction asked using List.reverseRecOn with
  | nil => exact ⟨start, .start, List.not_mem_nil, rfl⟩
  | append_singleton asked x ih =>
    obtain ⟨v, h, quiet, free⟩ := ih
    have hbegun := h.step .begin ⟨quiet, free⟩
    have hsent := hbegun.step (.send x.1 x.2)
      (List.mem_append_right _ (List.mem_singleton_self _))
    simp only [Action.asked, List.append_nil] at hsent
    refine ⟨_, hsent, fun updating => ?_, free⟩
    obtain ⟨_, hkept⟩ := Kept.run h
    obtain ⟨_, hnext⟩ := Kept.run hsent
    have hgen : ((v.act u .begin).act u (.send x.1 x.2)).session.generation =
        v.session.generation + 1 := by
      simp only [act, Session.act, Session.send]
      split <;> rfl
    have hbefore := hkept.sent quiet
    have hafter := hnext.unsent updating
    rw [List.length_append, List.length_singleton] at hafter
    omega

end Service

end RuleBench
