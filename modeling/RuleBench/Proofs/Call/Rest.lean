import RuleBench.Proofs.Call.Generation

set_option autoImplicit false

/-!
# Sessions at rest

Every step keeps what `Tells` says, so a session at rest shows what became of the call of its latest
update.  Whatever comes of an earlier one changes nothing, whenever it comes: its failure may even
be recorded after a newer generation has begun, but not after the failure of that generation.
-/

namespace RuleBench.Session

/-- An update begins, or what came of this generation is looked at. -/
def Action.Concerns (generation : Nat) : Action → Prop
  | .begin => True
  | .advance t => t.generation = generation
  | _ => False

theorem publishFor_close_of_eq {s : Session} {generation : Nat} (hg : s.generation = generation)
    (state : EvaluationState) : (s.close generation).publishFor generation state =
      (s.close generation).publish state := if_pos hg

theorem publishFor_close_of_ne {s : Session} {generation : Nat} (hg : s.generation ≠ generation)
    (state : EvaluationState) : (s.close generation).publishFor generation state =
      s.close generation := if_neg hg

/-- The failure of a superseded update is not that of the latest one, and does not replace it. -/
theorem failure?_record_of_superseded {log : List Event} {s : Session} (h : Tells log s) {t : Task}
    {e : CallError} (ht : t ∈ s.tasks) (hp : t.phase = .failing e)
    (hg : s.generation ≠ t.generation) :
    ((s.close t.generation).record t.generation e).failure? = s.failure? := by
  have hnone : s.failure? = none := by
    by_cases hb : s.IsBusy
    · exact (h.latest.busy hb).2
    · by_contra hne
      exact h.latest.alone hb hne t ht e hp
  rw [hnone]
  exact if_neg hg.symm

theorem observed_advance_of_superseded {log : List Event} {s : Session} (h : Tells log s) {t : Task}
    (ht : t ∈ s.tasks) (hg : s.generation ≠ t.generation) :
    (s.advance t).observed = s.observed := by
  unfold advance
  split
  · rfl
  · unfold collect
    split <;> rfl
  · rw [publishFor_close_of_ne hg]
    rfl
  · rw [if_neg hg]
    rfl
  · rename_i e hp
    simp only [observed, failure?_record_of_superseded h ht hp hg]
    rfl

namespace Tells

variable {log : List Event} {s : Session}

theorem advance (h : Tells log s) {t : Task} (ok : s.Permits (.advance t)) :
    Tells log (s.advance t) := by
  obtain ⟨ht, hlock⟩ := ok
  have hfate := h.tasks.told t ht
  have hsilent := observed_advance_of_superseded h ht
  unfold Told at hfate
  unfold Session.advance at hsilent ⊢
  cases hp : t.phase with
  | begun => exact h
  | waiting call => exact h.collect ht hp
  | ended outcome =>
    rw [hp] at hfate hsilent
    cases outcome with
    | ok reply =>
      by_cases hg : s.generation = t.generation
      · obtain ⟨-, hnone⟩ := h.latest.busy ⟨t, ht, hg.symm⟩
        simp only [publishFor_close_of_eq hg]
        refine h.finished ht hg hfate rfl rfl rfl ?_ h.latest.failure_le ?_
        · rw [display, ← hg, ← hnone]
          rfl
        · exact fun hne => absurd hnone hne
      · simp only [publishFor_close_of_ne hg]
        exact h.superseded hg rfl rfl rfl h.latest.failure_le
    | error e =>
      by_cases hg : s.generation = t.generation
      · simp only [if_pos hg]
        rw [← List.append_nil log]
        refine h.moved ht h.coherent rfl (fun _ _ _ hx => absurd hx List.not_mem_nil) ?_ ?_
          (fun _ _ => hg.symm)
        · rw [List.append_nil]
          exact hfate
        · intro u hu hne
          rw [List.append_nil]
          refine ⟨h.tasks.told u hu, ?_⟩
          have hfree := hlock e hp u hu
          cases hq : u.phase with
          | failing e' => exact hfree e' hq
          | begun | waiting _ | ended _ => trivial
      · simp only [if_neg hg]
        exact h.superseded hg rfl rfl rfl h.latest.failure_le
  | failing e =>
    rw [hp] at hfate hsilent
    simp only at hfate hsilent ⊢
    by_cases hg : s.generation = t.generation
    · obtain ⟨hloading, -⟩ := h.latest.busy ⟨t, ht, hg.symm⟩
      refine h.finished ht hg hfate rfl rfl rfl ?_ ?_ ?_
      · simp [display, observed, failure?, record, close, hg, hloading]
      · intro g e' he
        cases he
        exact Nat.le_of_eq hg.symm
      · intro _ u hu e' hq
        obtain ⟨hu, hne⟩ := mem_close.mp hu
        have hapart := (h.tasks.apart.forall ht hu (fun heq => hne (heq ▸ rfl))).2
        rw [hp, hq] at hapart
        exact hapart
    · refine h.superseded hg rfl rfl (hsilent hg) ?_
      intro g e' he
      cases he
      exact h.tasks.le t ht

/-- The peer and the dispatcher do something. -/
theorem heard (h : Tells log s) {c' : Correlator Request Reply} (hc : c'.Coherent)
    {more : List Event} (hm : more.countP Event.isBegun = 0) (hu : ∀ g, Unsent g more)
    (told : ∀ t ∈ s.tasks, Told log s.correlator t → Told (log ++ more) c' t) :
    Tells (log ++ more) { s with correlator := c' } where
  coherent := hc
  begun := by rw [List.countP_append, hm, Nat.add_zero]; exact h.begun
  unsent g hg := unsent_append.mpr ⟨h.unsent g hg, hu g⟩
  tasks := h.tasks.mono told
  latest := h.latest.of_silent h.begun hm rfl h.latest.failure_le Iff.rfl
    (fun _ ht _ _ => .inl ht)

/-- The peer does something that decides no call. -/
theorem unheard (h : Tells log s) (channel : Channel Request Reply) :
    Tells (log ++ []) { s with correlator := { s.correlator with channel } } := by
  refine h.heard (h.coherent.withChannel channel) rfl
    (fun _ _ hx => absurd hx List.not_mem_nil) ?_
  intro t _ htold
  rw [List.append_nil]
  exact htold.of_result fun _ _ hheld => ⟨hheld, rfl⟩

/-- One thing happens to all calls that are under way. -/
theorem told (h : Tells log s) {c' : Correlator Request Reply} (hc : c'.Coherent) {e : Event}
    (hbegun : e.isBegun = false) (hsending : ∀ g, ¬ e.IsSendingOf g)
    (hr : ∀ call ∈ s.correlator.held, call ∈ c'.held ∧
      c'.result? call = (s.correlator.result? call).or (ending call e)) :
    Tells (log ++ [e]) { s with correlator := c' } := by
  refine h.heard hc ?_ ?_ ?_
  · simp [hbegun]
  · intro g x hx
    rw [List.mem_singleton.mp hx]
    exact hsending g
  · intro t _ htold
    exact htold.append (hsending _) fun call _ hheld => hr call hheld

theorem dispatch (h : Tells log s) :
    Tells (log ++ s.events (.outside .dispatch)) (s.act (.outside .dispatch)) := by
  have hc := h.coherent.dispatch
  rcases Correlator.dispatch_cases s.correlator with
    ⟨e, rest, hl, hreplies, hd⟩ | ⟨hl, hreplies, hsends, hd⟩ | ⟨hidle, hd⟩
  · have hevents : s.events (.outside .dispatch) = [.dispatched e] := by
      simp only [events, hl, hreplies]
    rw [hevents]
    refine h.told hc rfl (fun _ => id) ?_
    intro call hheld
    have hcoh := h.coherent.withChannel { s.correlator.channel with replies := rest }
    rw [hd]
    refine ⟨by unfold Correlator.resolve; split <;> exact hheld, ?_⟩
    rw [hcoh.result?_resolve]
    have hsame : Correlator.result?
        { s.correlator with channel := { s.correlator.channel with replies := rest } } call =
          s.correlator.result? call := rfl
    by_cases hp : call ∈ s.correlator.pending
    · have hnone := (h.coherent.result?_eq_none_iff call).mpr hp
      by_cases hid : e.id = call
      · rw [if_pos ⟨hid, hp⟩, hnone]
        simp [ending, hid]
      · rw [if_neg (fun hh => hid hh.1), hsame, hnone]
        simp [ending, hid]
    · rw [if_neg (fun hh => hp hh.2), hsame]
      cases hres : s.correlator.result? call with
      | none => exact absurd ((h.coherent.result?_eq_none_iff call).mp hres) hp
      | some r => rfl
  · have hevents : s.events (.outside .dispatch) = [.stopped] := by
      simp only [events, hl, hreplies, hsends]
    rw [hevents]
    refine h.told hc rfl (fun _ => id) ?_
    intro call hheld
    have hd' : s.correlator.dispatch.delivered = s.correlator.delivered := by rw [hd]
    have hp' : s.correlator.dispatch.pending = [] := by rw [hd]
    refine ⟨by rwa [hd], ?_⟩
    rw [Correlator.result?_stopped hd' hp']
    cases s.correlator.result? call <;> rfl
  · have hevents : s.events (.outside .dispatch) = [] := by
      simp only [Correlator.isIdle, Bool.or_eq_true, Bool.not_eq_true', Bool.and_eq_true,
        List.isEmpty_iff] at hidle
      unfold events
      rcases hidle with hl | ⟨hreplies, hsends⟩
      · simp only [hl]
      · cases hl : s.correlator.listens <;> simp only [hreplies, hsends]
    rw [hevents]
    simp only [Session.act, Correlator.act, hd]
    exact h.unheard s.correlator.channel

theorem outside (h : Tells log s) {a : Correlator.Action Request Reply} (ok : a.IsOutside) :
    Tells (log ++ s.events (.outside a)) (s.act (.outside a)) := by
  cases a with
  | dispatch => exact h.dispatch
  | take =>
    obtain ⟨channel, hc⟩ := s.correlator.exists_channel_take
    simp only [Session.act, Correlator.act, hc]
    exact h.unheard channel
  | reply e =>
    obtain ⟨channel, hc⟩ := s.correlator.exists_channel_reply e
    simp only [Session.act, Correlator.act, hc]
    exact h.unheard channel
  | dropRequests => exact h.unheard _
  | dropReplies => exact h.unheard _
  | submit _ | poll _ | forget _ | drop => exact ok.elim

theorem act (h : Tells log s) {a : Action} (ok : s.Permits a) :
    Tells (log ++ s.events a) (s.act a) := by
  cases a with
  | begin => exact h.begin
  | send generation snapshot now => exact h.send ok snapshot now
  | advance t =>
    rw [show s.events (.advance t) = [] from rfl, List.append_nil]
    exact h.advance ok
  | outside a => exact h.outside ok

theorem run {c : Correlator Request Reply} (hc : c.Coherent) (h : Run c log s) : Tells log s := by
  induction h with
  | start => exact .start hc
  | step _ a ok ih => exact ih.act ok

end Tells

theorem observed_act_of_not_concerns {log : List Event} {s : Session} (h : Tells log s) {a : Action}
    (ok : s.Permits a) (ha : ¬ a.Concerns s.generation) : (s.act a).observed = s.observed := by
  cases a with
  | begin => exact absurd trivial ha
  | send generation snapshot now =>
    simp only [act, send]
    split <;> rfl
  | advance t => exact observed_advance_of_superseded h ok.1 fun hg => ha hg.symm
  | outside a => rfl

theorem not_isBusy_of_isIdle {log : List Event} {s : Session} (h : Tells log s) (hi : s.IsIdle)
    (hf : (fate s.generation log).isSome) : ¬ s.IsBusy := by
  rintro ⟨t, ht, hg⟩
  obtain ⟨call, hp, hr⟩ := hi.2 t ht
  have htold := h.tasks.told t ht
  unfold Told at htold
  rw [hp] at htold
  rw [← hg, htold.2.2, hr] at hf
  cases hf

theorem observed_of_isIdle {log : List Event} {s : Session} (h : Tells log s) (hi : s.IsIdle) :
    s.observed = shown log := by
  by_cases hb : s.IsBusy
  · obtain ⟨t, ht, hg⟩ := hb
    obtain ⟨hloading, hnone⟩ := h.latest.busy ⟨t, ht, hg⟩
    have hpos : 0 < s.generation := hg ▸ h.tasks.pos t ht
    have hfate : fate s.generation log = none := by
      by_contra hne
      exact not_isBusy_of_isIdle h hi (Option.isSome_iff_ne_none.mpr hne) ⟨t, ht, hg⟩
    rw [shown_of_fate h.begun hpos, hfate, observed, hloading, hnone]
    rfl
  · exact h.latest.ended hb

theorem close_move (s : Session) (generation : Nat) (phase : Phase) :
    (s.move generation phase).close generation = s.close generation := by
  have hf : ∀ tasks : List Task,
      (tasks.map fun t => if t.generation = generation then { t with phase } else t).filter
        (fun t => t.generation != generation) =
      tasks.filter fun t => t.generation != generation := by
    intro tasks
    induction tasks with
    | nil => rfl
    | cons t tasks ih =>
      by_cases hg : t.generation = generation <;> simp [hg, ih]
  simp only [move, close, hf]

/-- The failure of the latest generation is looked at and recorded. -/
theorem Run.fail {c : Correlator Request Reply} {log : List Event} {s : Session} (h : Run c log s)
    (free : ∀ t ∈ s.tasks, ∀ e, t.phase ≠ .failing e) {e : CallError}
    (ht : ⟨s.generation, .ended (.error e)⟩ ∈ s.tasks) :
    Run c log ((s.close s.generation).record s.generation e) := by
  have hfound := h.step (.advance _) ⟨ht, fun _ _ => free⟩
  have hact : s.act (.advance ⟨s.generation, .ended (.error e)⟩) =
      s.move s.generation (.failing e) := if_pos rfl
  rw [hact] at hfound
  have hmem : ⟨s.generation, .failing e⟩ ∈ (s.move s.generation (.failing e)).tasks :=
    mem_move.mpr (.inl ⟨rfl, _, ht, rfl⟩)
  have hrecorded := hfound.step (.advance _) ⟨hmem, fun _ hp => nomatch hp⟩
  have hact' : (s.move s.generation (.failing e)).act (.advance ⟨s.generation, .failing e⟩) =
      (s.close s.generation).record s.generation e := by
    simp only [act, advance, close_move]
  rw [hact'] at hrecorded
  simpa only [events, List.append_nil] using hrecorded

/-- An update as a caller makes it is part of a run, where no failure is being recorded. -/
theorem Run.update {c : Correlator Request Reply} {log : List Event} {s : Session}
    (h : Run c log s) (free : ∀ t ∈ s.tasks, ∀ e, t.phase ≠ .failing e) (snapshot : Snapshot)
    (now : Calendar.Instant) : ∃ more, Run c (log ++ more) (s.update snapshot now).2 := by
  have hnew : ⟨s.begin.generation, .begun⟩ ∈ s.begin.tasks :=
    List.mem_append_right _ (List.mem_singleton_self _)
  have hsent := (h.step .begin trivial).step (.send s.begin.generation snapshot now) hnew
  rw [List.append_assoc] at hsent
  refine ⟨s.events .begin ++ s.begin.events (.send s.begin.generation snapshot now), ?_⟩
  unfold Session.update
  rcases Correlator.submit_cases s.begin.correlator (Request.ofSnapshot snapshot now) with
    ⟨e, n, hs, -⟩ | hs
  · have hsend : s.begin.send s.begin.generation (Request.ofSnapshot snapshot now) =
        (.error e, { s.begin with correlator := { s.begin.correlator with nextId := n } }.move
          s.begin.generation (.ended (.error e))) := by simp only [send, hs]
    simp only [hsend]
    rw [show s.act .begin = s.begin from rfl, act, hsend] at hsent
    refine hsent.fail ?_ (mem_move.mpr (.inl ⟨rfl, _, hnew, rfl⟩))
    intro t ht e' hp
    rcases mem_move.mp ht with ⟨rfl, -⟩ | ⟨ht, -⟩
    · cases hp
    · rcases List.mem_append.mp ht with ht | ht
      · exact free t ht e' hp
      · rw [List.mem_singleton.mp ht] at hp
        cases hp
  · have hsend : s.begin.send s.begin.generation (Request.ofSnapshot snapshot now) =
        (.ok s.begin.generation, (s.begin.send s.begin.generation
          (Request.ofSnapshot snapshot now)).2) := by simp only [send, hs]
    dsimp only
    rw [hsend]
    exact hsent

/-- At rest a session shows the number of updates and what became of the call of the latest one;
besides a new update, nothing but what came of that call changes what it shows.  An update as a
caller makes it is part of such a run, where no failure is being recorded. -/
theorem idle_shows_latest_call {c : Correlator Request Reply} (hc : ∃ log, Correlator.Run log c)
    {log : List Event} {s : Session} (h : Run c log s) :
    (s.IsIdle → s.observed = shown log) ∧
      (∀ a, s.Permits a → ¬ a.Concerns s.generation → (s.act a).observed = s.observed) ∧
      ((∀ t ∈ s.tasks, ∀ e, t.phase ≠ .failing e) → ∀ snapshot now,
        ∃ more, Run c (log ++ more) (s.update snapshot now).2) := by
  obtain ⟨_, hrun⟩ := hc
  have htells := Tells.run (.run hrun) h
  exact ⟨observed_of_isIdle htells, fun _ ok ha => observed_act_of_not_concerns htells ok ha,
    h.update⟩

/-- The second of two updates has its reply, while the call of the first one is under way. -/
theorem second_of_two_is_shown : ∃ (log : List Event) (s : Session),
    Run .connected log s ∧ s.IsIdle ∧ s.observed = (2, .unknown "Unknown error", none) := by
  have snapshot : Snapshot := ⟨"", "", []⟩
  have now : Calendar.Instant := ⟨default, 0, 0, 0⟩
  have begun := ((Run.start (c := .connected)).step .begin trivial).step .begin trivial
  have sent := (begun.step (.send 1 snapshot now) (.head _)).step (.send 2 snapshot now)
    (.tail _ (.head _))
  have taken := (sent.step (.outside (.reply ⟨1, .unknown none⟩)) trivial).step
    (.outside .dispatch) trivial
  have published := (taken.step (.advance ⟨2, .waiting 1⟩) ⟨.tail _ (.head _), nofun⟩).step
    (.advance ⟨2, .ended (.ok (.unknown none))⟩) ⟨.tail _ (.head _), nofun⟩
  obtain ⟨log, s, hrun, hidle, hshown⟩ : ∃ log s, Run .connected log s ∧ s.IsIdle ∧
      shown log = (2, .unknown "Unknown error", none) := by
    refine ⟨_, _, published, ⟨rfl, ?_⟩, rfl⟩
    intro t ht
    rw [List.mem_singleton.mp ht]
    exact ⟨0, rfl, rfl⟩
  have hall := idle_shows_latest_call ⟨_, .connected⟩ hrun
  exact ⟨log, s, hrun, hidle, (hall.1 hidle).trans hshown⟩

end RuleBench.Session
